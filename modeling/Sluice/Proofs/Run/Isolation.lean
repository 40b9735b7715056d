import Sluice.Proofs.Run.Site
import Sluice.Proofs.Worker.Batches

/-!
# Pairs that are isolated

The workers that a site goes through (`Site.Visits`): the one between two turns, and those within a
turn, after some events of a batch. In each of them the event of a session concerns that session and
its peer and no one else (`Site.Reachable.pairs_isolated`). Whatever it does, failing and destroying
included, every other session stays where it is and as it is, and the worker goes on.
-/

namespace Sluice

namespace Worker

variable {w w' : Worker} {id pid x : SessionId} {s p t : Session} {e : Event} {stop : Bool}

/-! ## Slots elsewhere -/

/-- From `w` to `w'` nothing has happened to slot `x`, nor to the file and the registration of the
session in it. -/
structure Untouched (x : SessionId) (w w' : Worker) : Prop where
  session : w'.session? x = w.session? x
  file : ∀ t, w.session? x = some t → w'.host.file t.fd = w.host.file t.fd
  registration : ∀ t, w.session? x = some t →
    w.poller.registration? t.fd = some (Session.token x, t.interest)
      ∧ w'.poller.registration? t.fd = some (Session.token x, t.interest)

theorem Destroyed.vacant (hd : Destroyed w id w') (hx : w.session? x = none) :
    w'.session? x = none := by
  have hretired {w w' : Worker} {id : SessionId} {fd : Descriptor} (hr : Retired w w' id fd)
      (hx : w.session? x = none) : w'.session? x = none := by
    rw [hr.sessions, hx, ite_self]
  cases hd with
  | alone _ _ hr => exact hretired hr hx
  | both _ _ _ _ _ h₁ h₂ => exact hretired h₂ (hretired h₁ hx)
  | @drained s p pid w₁ _ _ hp _ hne _ h₁ h₂ =>
    have hpid : x ≠ pid := by
      rintro rfl
      rw [hp] at hx
      cases hx
    rw [h₂.within.sessions x (by simpa using hpid), hretired h₁ hx]

theorem Handled.vacant (hh : Handled w e stop w') (hx : w.session? x = none) :
    w'.session? x = none := by
  have hne {y : SessionId} {t : Session} (ht : w.session? y = some t) : x ≠ y := by
    rintro rfl
    rw [ht] at hx
    cases hx
  have hwithin {ids : List SessionId} {fds : List Descriptor} {w₁ : Worker}
      (h : Within ids fds w w₁)
      (hids : x ∉ ids) : w₁.session? x = none := (h.sessions x hids).trans hx
  cases hh with
  | alone hs _ _ ht => exact hwithin ht.within (by simpa using hne hs)
  | aloneDoomed hs _ _ ht hd => exact hd.vacant (hwithin ht.within (by simpa using hne hs))
  | pair hs hp _ _ _ ha => exact hwithin ha.within (by simpa using ⟨hne hs, hne hp⟩)
  | pairDoomed hs hp _ _ _ ha hd =>
    exact hd.vacant (hwithin ha.within (by simpa using ⟨hne hs, hne hp⟩))

/-- What an event leaves alone it leaves alone altogether: a worker that is in order watches each
session for what its flags ask, so that no registration can have changed. -/
theorem Handled.untouched (hh : Handled w e stop w') (h : w.Sound)
    (hs : w.session? (Session.ofToken e.token) = some s) (hne : x ≠ Session.ofToken e.token)
    (hpeer : s.peer ≠ some x) : Untouched x w w' := by
  -- no other session has the event's session for its peer
  have hback (t : Session) (ht : w.session? x = some t) :
      t.peer ≠ some (Session.ofToken e.token) := by
    intro hlink
    exact hpeer (h.linked_peer ht hs hlink).1
  have hsame (t : Session) (ht : w.session? x = some t) :=
    hh.elsewhere h ht hne.symm (hback t ht)
  refine ⟨?_, fun t ht => (hsame t ht).2, fun t ht => ⟨(h.held x t ht).watched, ?_⟩⟩
  · cases ht : w.session? x with
    | none => exact hh.vacant ht
    | some t => exact (hsame t ht).1
  · exact ((h.handled hh).held x t (hsame t ht).1).watched

end Worker

namespace Site

open Worker

variable {σ : Site} {w w' : Worker} {s : Session} {e : Event}

/-! ## Between and within turns -/

/-- The workers that the site goes through: the one it has, and the ones within a turn, after some
events that destroyed no session. -/
inductive Visits (σ : Site) : Worker → Prop
  | between : Visits σ σ.worker
  | within {ready : ReadyList} {poller : Poller} {before : List Event} {w : Worker}
      (hwait : σ.worker.poller.wait σ.worker.view = .ok (some ready, poller))
      (hpasses : Passes { σ.worker with poller } before w) : Visits σ w

theorem Visits.sound (hv : σ.Visits w) (h : Reachable σ) : w.Sound := by
  cases hv with
  | between => exact h.sound.worker
  | within hwait hpasses =>
    exact (hpasses.alike (h.sound.worker.waited hwait) (h.sound.supplied.waited rfl rfl rfl rfl)).1

/-- Those on their way to the site are on their way to each of them. No client is taken in twice,
however far the turn has come. -/
theorem Visits.supplied (hv : σ.Visits w) (h : Reachable σ) : w.Supplied σ.unsent σ.given := by
  cases hv with
  | between => exact h.sound.supplied
  | within hwait hpasses =>
    exact (hpasses.alike (h.sound.worker.waited hwait)
      (h.sound.supplied.waited rfl rfl rfl rfl)).2.1

/-! ## Isolation -/

/-- The event of a session, whatever it reports and whatever comes of it, is handled without a stop,
and leaves every session as it is that is neither the event's own nor the peer of that one. -/
theorem Reachable.pairs_isolated (h : Reachable σ) (hv : σ.Visits w)
    (hs : w.session? (Session.ofToken e.token) = some s) :
    ∃ stop w', onSessionReady e w = .ok stop w' ∧ w'.control = w.control
      ∧ ∀ x, x ≠ Session.ofToken e.token → s.peer ≠ some x → Untouched x w w' := by
  have hw := hv.sound h
  obtain ⟨stop, w', hok, hh⟩ := hw.exists_handled hs
  exact ⟨stop, w', hok, (Spares.of_handled hw hh).control,
    fun x hne hpeer => hh.untouched hw hs hne hpeer⟩

/-- Two pairs at work. The far end of session 2 closes while bytes wait at session 0; the event of
session 2 destroys its pair, and does nothing to session 0. -/
theorem pairs_isolated_of_crowd : ∃ (σ : Site) (e : Event) (w' : Worker), Reachable σ
    ∧ (∃ s, σ.worker.session? (Session.ofToken e.token) = some s ∧ s.peer = some 3)
    ∧ onSessionReady e σ.worker = .ok true w'
    ∧ w'.session? 2 = none ∧ w'.session? 3 = none
    ∧ (∃ t, σ.worker.session? 0 = some t) ∧ Untouched 0 σ.worker w' := by
  obtain ⟨w, hw, h⟩ := exists_crowd
  have hall : crowdedWorker.any (fun w =>
      let w₁ := w.withHost (w.host.play 3 (.write [1]))
      let w₂ := w₁.withHost (w₁.host.play 5 .close)
      (w₂.session? 0).isSome
      && (w₂.session? 2).any (fun s => s.peer == some 3)
      && match onSessionReady ⟨Session.token 2, true, false, true⟩ w₂ with
        | .ok stop w' => stop && (w'.session? 2).isNone && (w'.session? 3).isNone
        | .error _ _ => false) = true := by
    decide +kernel
  rw [hw, Option.any_some] at hall
  obtain ⟨hall, hends⟩ := Bool.and_eq_true_iff.mp hall
  obtain ⟨hthere, hlinked⟩ := Bool.and_eq_true_iff.mp hall
  obtain ⟨t, ht⟩ := Option.isSome_iff_exists.mp hthere
  obtain ⟨s, hs, hpeer⟩ := (Option.any_eq_true _ _).mp hlinked
  have hσ := (h.step (.move 3 (.write [1]))).step (.move 5 .close)
  obtain ⟨stop, w', hok, -, hiso⟩ :=
    hσ.pairs_isolated (e := ⟨Session.token 2, true, false, true⟩) .between hs
  dsimp only at hok
  rw [hok] at hends
  simp only [Bool.and_eq_true, Option.isNone_iff_eq_none] at hends
  obtain ⟨⟨rfl, hgone⟩, hgone'⟩ := hends
  have hpeer' : s.peer = some 3 := beq_iff_eq.mp hpeer
  refine ⟨_, ⟨Session.token 2, true, false, true⟩, w', hσ, ⟨s, hs, hpeer'⟩, hok, hgone, hgone',
    ⟨t, ht⟩, hiso 0 (by decide) ?_⟩
  rw [hpeer']
  decide

end Site

end Sluice
