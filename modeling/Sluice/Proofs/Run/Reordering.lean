import Sluice.Proofs.Run.Site
import Sluice.Proofs.Worker.Reordering

/-!
# Batches in another order

Which order a poller reports its events in is up to the backend. As long as no session is destroyed
it makes no difference: a batch that destroys none in one order destroys none in any other, and the
worker comes to the same but for the order of its registrations and of its log
(`Site.Reachable.order_immaterial`).
-/

namespace Sluice

namespace Worker

variable {w v : Worker}

/-- The two workers are the same, but for the order in which their pollers list what is registered,
and for what they have said. -/
structure Matches (w v : Worker) : Prop where
  sessions : v.sessions = w.sessions
  registered : ∀ fd, v.poller.registration? fd = w.poller.registration? fd
  registrations : v.poller.registrations.Perm w.poller.registrations
  backend : v.poller.backend = w.poller.backend
  pool : v.pool = w.pool
  files : ∀ fd, v.host.file fd = w.host.file fd
  next : v.host.next = w.host.next
  network : v.host.network = w.host.network
  exhausted : v.host.exhausted = w.host.exhausted
  control : v.control = w.control
  incoming : v.incoming = w.incoming
  settings : v.settings = w.settings
  index : v.index = w.index

theorem Within.matches (hwithin : Within [] [] w v) (h : w.Sound) (hv : v.Sound) : w.Matches v where
  sessions := Arena.ext_of_get?
    (fun id => hwithin.sessions id List.not_mem_nil) hwithin.free hwithin.slots
  registered fd := hwithin.watched fd List.not_mem_nil
  registrations := Poller.registrations_perm_of h.enrolled.poller hv.enrolled.poller fun fd =>
    hwithin.watched fd List.not_mem_nil
  backend := hwithin.backend
  pool := hwithin.pool
  files fd := hwithin.files fd List.not_mem_nil
  next := hwithin.next
  network := hwithin.network
  exhausted := hwithin.exhausted
  control := hwithin.control
  incoming := hwithin.incoming
  settings := hwithin.settings
  index := hwithin.index

end Worker

namespace Site

open Worker

variable {σ : Site} {arrange arrange' : List Event → List Event} {ready : ReadyList}
  {poller : Poller}
  {w : Worker}

/-- A turn that destroys no session comes to the same in whatever order it handles the events that
were found: no session is destroyed in any other order, and the workers match at the end. -/
theorem Reachable.order_immaterial (h : Reachable σ)
    (hwait : σ.worker.poller.wait σ.worker.view = .ok (some ready, poller))
    (harrange : (arrange ready.events).Perm ready.events)
    (harrange' : (arrange' ready.events).Perm ready.events)
    (hturn : turnIn arrange σ.worker = .ok ⟨⟩ w)
    (hstays : ∀ id, σ.worker.session? id ≠ none → w.session? id ≠ none) :
    ∃ w', turnIn arrange' σ.worker = .ok ⟨⟩ w'
      ∧ Passes { σ.worker with poller } (arrange' ready.events) w' ∧ w.Matches w' := by
  have hready := waitReady_ok hwait
  have hfound := h.sound.worker.waited hwait
  have hsup : ({ σ.worker with poller } : Worker).Supplied σ.unsent σ.given :=
    h.sound.supplied.waited rfl rfl rfl rfl
  have horderly := (h.sound.worker.orderly_of_wait hwait).perm harrange.symm
  have hbatch : handleBatch (arrange ready.events) { σ.worker with poller } = .ok ⟨⟩ w :=
    (bind_of_ok hready _).symm.trans hturn
  have hpasses := horderly.known.passes hfound hsup hbatch hstays
  obtain ⟨w', hpasses', hwithin⟩ :=
    hpasses.perm (harrange.trans harrange'.symm) hfound hsup horderly
  refine ⟨w', (bind_of_ok hready _).trans hpasses'.handleBatch_eq, hpasses', ?_⟩
  exact hwithin.matches (hpasses.alike hfound hsup).1 (hpasses'.alike hfound hsup).1

/-- Bytes come for both sessions of the first of two pairs, and a client waits in the control pipe.
The client is taken in and the bytes are passed on, in one order as in the opposite one. -/
theorem order_immaterial_of_crowd :
    ∃ (σ : Site) (ready : ReadyList) (poller : Poller) (w w' : Worker)
    (c e₀ e₁ : Event), Reachable σ ∧ σ.worker.poller.wait σ.worker.view = .ok (some ready, poller)
      ∧ ready.events = [c, e₀, e₁] ∧ turnIn (fun events => events) σ.worker = .ok ⟨⟩ w
      ∧ (∀ id, σ.worker.session? id ≠ none → w.session? id ≠ none)
      ∧ σ.worker.session? 4 = none ∧ w.session? 4 ≠ none
      ∧ turnIn List.reverse σ.worker = .ok ⟨⟩ w'
      ∧ Passes { σ.worker with poller } [e₁, e₀, c] w' ∧ w.Matches w' := by
  obtain ⟨w, hw, h⟩ := exists_crowd
  have hall : crowdedWorker.any (fun w =>
      let w₁ := w.withHost (w.host.play 3 (.write [1]))
      let w₂ := w₁.withHost (w₁.host.play 4 (.write [2]))
      (found w₂).any (fun r =>
          r.1.events == [⟨.control, true, false, false⟩, ⟨Session.token 0, true, false, false⟩,
            ⟨Session.token 1, true, false, false⟩])
      && (w₂.session? 4).isNone
      && (after (turnIn fun events => events) w₂).any fun w' =>
          w.sessions.toList.all (fun x => (w'.session? x.1).isSome)
            && (w'.session? 4).isSome) = true := by
    decide +kernel
  rw [hw, Option.any_some] at hall
  obtain ⟨hall, hends⟩ := Bool.and_eq_true_iff.mp hall
  obtain ⟨hfound, hvacant⟩ := Bool.and_eq_true_iff.mp hall
  obtain ⟨w', hw', hall⟩ := (Option.any_eq_true _ _).mp hends
  obtain ⟨_, hturn⟩ := exists_of_after hw'
  simp only [Bool.and_eq_true, Option.isSome_iff_ne_none, List.all_eq_true] at hall
  obtain ⟨hthere, hnew⟩ := hall
  have hσ := (h.step (.move 3 (.write [1]))).step (.move 4 (.write [2]))
  obtain ⟨⟨ready, poller⟩, hwait, hevents⟩ := (Option.any_eq_true _ _).mp hfound
  replace hwait := wait_of_found hwait
  replace hevents := beq_iff_eq.mp hevents
  have hstays : ∀ id, w.session? id ≠ none → w'.session? id ≠ none := by
    intro id hid
    obtain ⟨s, hs⟩ := Option.ne_none_iff_exists'.mp hid
    exact hthere (id, s) (Arena.mem_toList.mpr hs)
  obtain ⟨v, hturn', hpasses, hmatches⟩ :=
    hσ.order_immaterial hwait (.refl _) (List.reverse_perm _) hturn hstays
  rw [hevents] at hpasses
  exact ⟨_, ready, poller, w', v, _, _, _, hσ, hwait, hevents, hturn, hstays,
    Option.isNone_iff_eq_none.mp hvacant, hnew, hturn', hpasses, hmatches⟩

end Site

end Sluice
