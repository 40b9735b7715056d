import Sluice.Proofs.Run.Site
import Sluice.Proofs.Worker.Batches
import Sluice.Proofs.Worker.Doomed

/-!
# Whom events are for

A slot may be given to another session, so an event that names a slot might reach the wrong one. It
does not: at each event that a turn handles, the sessions that were there at the wait are there as
they were, the one under the token of the event among them, whatever clients the events before it
have brought in (`Site.Reachable.events_addressed`). For only destroying frees a slot, and it ends
the turn.
-/

namespace Sluice

namespace Worker

variable {w w' : Worker} {id : SessionId}

/-- The session in slot `id` is the same at both times: its descriptor, its role and its peer. -/
def Persists (w w' : Worker) (id : SessionId) : Prop :=
  ∃ s s', w.session? id = some s ∧ w'.session? id = some s' ∧ s'.fd = s.fd ∧ s'.role = s.role
    ∧ s'.peer = s.peer

theorem Retains.persists (h : Retains Half.Alike w w') (hid : w.session? id ≠ none) :
    w.Persists w' id := by
  obtain ⟨s, hs⟩ := Option.ne_none_iff_exists'.mp hid
  obtain ⟨s', hs', hlike⟩ := h id s hs
  exact ⟨s, s', hs, hs', hlike.fd, hlike.role, hlike.peer⟩

end Worker

namespace Site

open Worker

variable {σ : Site} {arrange : List Event → List Event} {ready : ReadyList} {poller : Poller}

/-- Each event of a session that a turn handles finds the session that was registered under its
token when the wait returned, and the peer of that. A turn destroys nothing, or it destroys one
session, with at most its peer, and looks at no event after that. -/
theorem Reachable.events_addressed (h : Reachable σ)
    (hwait : σ.worker.poller.wait σ.worker.view = .ok (some ready, poller))
    (harrange : (arrange ready.events).Perm ready.events) :
    (∀ before e rest w₁, arrange ready.events = before ++ e :: rest →
      Passes { σ.worker with poller } before w₁ → e.token ≠ .control →
        ∃ s, σ.worker.session? (Session.ofToken e.token) = some s
          ∧ poller.registration? s.fd = some (e.token, s.interest)
          ∧ σ.worker.Persists w₁ (Session.ofToken e.token)
          ∧ ∀ pid, s.peer = some pid → σ.worker.Persists w₁ pid)
    ∧ ∀ w', turnIn arrange σ.worker = .ok ⟨⟩ w' →
      (Passes { σ.worker with poller } (arrange ready.events) w'
          ∧ ∀ id, σ.worker.session? id ≠ none → σ.worker.Persists w' id)
        ∨ ∃ before e rest target, arrange ready.events = before ++ e :: rest
          ∧ BreaksOff { σ.worker with poller } before e target w'
          ∧ (∀ id s, σ.worker.session? id = some s → w'.session? id = none →
            id = target ∨ s.peer = some target)
          ∧ ∀ rest', turnIn (fun _ => before ++ e :: rest') σ.worker = .ok ⟨⟩ w' := by
  have hσ := h.sound.worker
  have hfound : ({ σ.worker with poller } : Worker).Sound := hσ.waited hwait
  have hsup : ({ σ.worker with poller } : Worker).Supplied σ.unsent σ.given :=
    h.sound.supplied.waited rfl rfl rfl rfl
  have hturn (arrange : List Event → List Event) :
      turnIn arrange σ.worker = handleBatch (arrange ready.events) { σ.worker with poller } :=
    bind_of_ok (waitReady_ok hwait) _
  refine ⟨fun before e rest w₁ hsplit hpasses hsession => ?_, fun w' hok => ?_⟩
  · obtain ⟨-, -, hlike⟩ := hpasses.alike hfound hsup
    have he : e ∈ ready.events := harrange.mem_iff.mp (by simp [hsplit])
    obtain ⟨id, s, htoken, hs, -⟩ :=
      (hσ.found_by_wait hwait he).resolve_left fun hc => hsession hc.1
    have hid : Session.ofToken e.token = id := by rw [htoken, Session.ofToken_token]
    have hreg : poller.registration? s.fd = some (e.token, s.interest) := by
      rw [(Poller.wait_ok hσ.enrolled.poller hwait).2.2, htoken]
      exact (hσ.held id s hs).watched
    rw [hid]
    refine ⟨s, hs, hreg, hlike.persists ?_, fun pid hpeer => hlike.persists ?_⟩
    · show σ.worker.session? id ≠ none
      rw [hs]
      exact Option.some_ne_none s
    · obtain ⟨p, hp, -⟩ := hσ.linked hs List.not_mem_nil hpeer
      show σ.worker.session? pid ≠ none
      rw [hp]
      exact Option.some_ne_none p
  · rw [hturn] at hok
    rcases of_handleBatch hok with hpasses | ⟨before, e, rest, target, hsplit, hbreaks⟩
    · exact .inl ⟨hpasses, fun id hid => (hpasses.alike hfound hsup).2.2.persists hid⟩
    · refine .inr ⟨before, e, rest, target, hsplit, hbreaks, fun id s hs hgone => ?_,
        fun rest' => (hturn _).trans (hbreaks.handleBatch_eq rest')⟩
      obtain ⟨w₁, w₂, hpasses, h₁, -, hdoomed, hdestroyed, -⟩ := hbreaks.unfolds hfound hsup
      obtain ⟨s₁, hs₁, hlike⟩ := (hpasses.alike hfound hsup).2.2 id s hs
      have hpeer : s₁.peer = s.peer := hlike.peer
      rw [← hpeer]
      exact hdoomed.gone h₁ hdestroyed hs₁ hgone

/-- The first of two pairs is destroyed while a client waits in the control pipe, and a byte comes
for the second pair. The next turn gives the client the slots of the first pair, and then handles
the event of the second, for session 2. -/
theorem events_addressed_of_reused_slot :
    ∃ (σ : Site) (ready : ReadyList) (poller : Poller) (w₁ : Worker)
    (c e : Event), Reachable σ ∧ σ.worker.poller.wait σ.worker.view = .ok (some ready, poller)
      ∧ ready.events = [c, e] ∧ c.token = .control ∧ e.token = Session.token 2
      ∧ Passes { σ.worker with poller } [c] w₁
      ∧ σ.worker.session? 0 = none ∧ w₁.session? 0 ≠ none ∧ σ.worker.Persists w₁ 2 := by
  obtain ⟨w, hw, h⟩ := exists_crowd
  have hall : crowdedWorker.any (fun w =>
      (after (Worker.destroy 0) w).any fun w' =>
        let w₀ := w'.withHost (w'.host.play 5 (.write [1]))
        (w₀.session? 0).isNone
          && (found w₀).any fun r =>
            r.1.events == [⟨.control, true, false, false⟩, ⟨Session.token 2, true, false, false⟩]
              && (after onControl { w₀ with poller := r.2 }).any fun w₁ => (w₁.session? 0).isSome)
                = true := by
    decide +kernel
  rw [hw, Option.any_some] at hall
  obtain ⟨w', hw', hall⟩ := (Option.any_eq_true _ _).mp hall
  obtain ⟨_, hdestroy⟩ := exists_of_after hw'
  have hσ := (h.step (.destroy hdestroy)).step (.move 5 (.write [1]))
  obtain ⟨hfree, hall⟩ := Bool.and_eq_true_iff.mp hall
  obtain ⟨⟨ready, poller⟩, hwait, hall⟩ := (Option.any_eq_true _ _).mp hall
  replace hwait := wait_of_found hwait
  obtain ⟨hevents, hall⟩ := Bool.and_eq_true_iff.mp hall
  obtain ⟨w₁, hw₁, hnew⟩ := (Option.any_eq_true _ _).mp hall
  obtain ⟨_, hcontrol⟩ := exists_of_after hw₁
  have hpasses := Passes.control (e := ⟨.control, true, false, false⟩) rfl hcontrol (.nil w₁)
  obtain ⟨_, _, _, hstays, -⟩ :=
    (@Reachable.events_addressed _ (fun events => events) ready poller hσ hwait
      (.refl _)).1 _ _ [] w₁
      (beq_iff_eq.mp hevents) hpasses (by decide)
  exact ⟨_, ready, poller, w₁, _, _, hσ, hwait, beq_iff_eq.mp hevents, rfl, rfl, hpasses,
    Option.isNone_iff_eq_none.mp hfree, Option.isSome_iff_ne_none.mp hnew, hstays⟩

end Site

end Sluice
