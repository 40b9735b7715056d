import Sluice.Proofs.Run.Site
import Sluice.Proofs.Worker.Rediscovery

/-!
# Events that were dropped

A turn drops the rest of its batch once it has destroyed a session. Nothing is lost by that: as long
as nothing happens at the far ends, the next wait reports again what was dropped
(`Site.Reachable.abandoned_reported`).
-/

namespace Sluice.Site

open Worker

variable {σ : Site} {arrange : List Event → List Event} {ready : ReadyList} {poller : Poller}
  {w' : Worker}

/-- A turn handles the whole of its batch, or it destroys a session and drops the events behind. The
next wait reports each of these again: that of the control pipe as it is, and that of a session
which is alive, and not the peer of the destroyed one, with at least the conditions it had. -/
theorem Reachable.abandoned_reported (h : Reachable σ)
    (hwait : σ.worker.poller.wait σ.worker.view = .ok (some ready, poller))
    (harrange : (arrange ready.events).Perm ready.events)
    (hturn : turnIn arrange σ.worker = .ok ⟨⟩ w') :
    Passes { σ.worker with poller } (arrange ready.events) w'
    ∨ ∃ before e rest target, arrange ready.events = before ++ e :: rest
      ∧ BreaksOff { σ.worker with poller } before e target w'
      ∧ ∃ ready' poller', w'.poller.wait w'.view = .ok (some ready', poller') ∧ ∀ e' ∈ rest,
        e'.token = .control ∧ e' ∈ ready'.events
        ∨ ∃ s, σ.worker.session? (Session.ofToken e'.token) = some s
          ∧ (w'.session? (Session.ofToken e'.token) ≠ none → s.peer ≠ some target →
            ∃ e'' ∈ ready'.events, e''.Covers e') := by
  have hbatch : handleBatch (arrange ready.events) { σ.worker with poller } = .ok ⟨⟩ w' :=
    (bind_of_ok (waitReady_ok hwait) _).symm.trans hturn
  refine (of_handleBatch hbatch).imp_right ?_
  rintro ⟨before, e, rest, target, hsplit, hbreaks⟩
  exact ⟨before, e, rest, target, hsplit, hbreaks,
    hbreaks.rediscovers h.sound.worker h.sound.supplied hwait (hsplit ▸ harrange)⟩

/-- Bytes come for both sessions of the first of two pairs, the far end of session 2 closes, and a
client waits in the control pipe. A turn that takes the events of sessions 1 and 2 first writes to
the socket of session 0, destroys session 2, and drops the event of the control pipe and that of
session 0. -/
theorem abandoned_reported_of_crowd :
    ∃ (σ : Site) (ready : ReadyList) (poller : Poller) (w' : Worker)
    (c e₀ e₁ e₂ : Event), Reachable σ
      ∧ σ.worker.poller.wait σ.worker.view = .ok (some ready, poller)
      ∧ ready.events = [c, e₀, e₁, e₂]
      ∧ turnIn (fun events => events.drop 2 ++ events.take 2) σ.worker = .ok ⟨⟩ w'
      ∧ w'.session? 0 ≠ none ∧ w'.session? 2 = none ∧ w'.control.queued ≠ []
      ∧ ∃ before e rest target, [e₁, e₂, c, e₀] = before ++ e :: rest
        ∧ BreaksOff { σ.worker with poller } before e target w'
        ∧ ∃ ready' poller', w'.poller.wait w'.view = .ok (some ready', poller') ∧ ∀ e' ∈ rest,
          e'.token = .control ∧ e' ∈ ready'.events
          ∨ ∃ s, σ.worker.session? (Session.ofToken e'.token) = some s
            ∧ (w'.session? (Session.ofToken e'.token) ≠ none → s.peer ≠ some target →
              ∃ e'' ∈ ready'.events, e''.Covers e') := by
  obtain ⟨w, hw, h⟩ := exists_crowd
  have hall : crowdedWorker.any (fun w =>
      let w₁ := w.withHost (w.host.play 3 (.write [1]))
      let w₂ := w₁.withHost (w₁.host.play 4 (.write [2]))
      let w₃ := w₂.withHost (w₂.host.play 5 .close)
      (found w₃).any (fun r =>
          r.1.events == [⟨.control, true, false, false⟩, ⟨Session.token 0, true, false, false⟩,
            ⟨Session.token 1, true, false, false⟩, ⟨Session.token 2, true, false, true⟩])
      && (w₃.session? 2).isSome
      && (after (turnIn fun events => events.drop 2 ++ events.take 2) w₃).any fun w' =>
          (w'.session? 0).isSome && (w'.session? 2).isNone
            && !w'.control.queued.isEmpty) = true := by
    decide +kernel
  rw [hw, Option.any_some] at hall
  obtain ⟨hall, hends⟩ := Bool.and_eq_true_iff.mp hall
  obtain ⟨hfound, hthere⟩ := Bool.and_eq_true_iff.mp hall
  obtain ⟨w', hw', hall⟩ := (Option.any_eq_true _ _).mp hends
  obtain ⟨_, hturn⟩ := exists_of_after hw'
  simp only [Bool.and_eq_true, Option.isNone_iff_eq_none, Option.isSome_iff_ne_none] at hall hthere
  obtain ⟨⟨hlives, hgone⟩, hwaits⟩ := hall
  have hσ := ((h.step (.move 3 (.write [1]))).step (.move 4 (.write [2]))).step (.move 5 .close)
  obtain ⟨⟨ready, poller⟩, hwait, hevents⟩ := (Option.any_eq_true _ _).mp hfound
  replace hwait := wait_of_found hwait
  have hperm : (ready.events.drop 2 ++ ready.events.take 2).Perm ready.events :=
    calc (ready.events.drop 2 ++ ready.events.take 2).Perm
          (ready.events.take 2 ++ ready.events.drop 2) := List.perm_append_comm
      _ = ready.events := List.take_append_drop 2 _
  replace hevents := beq_iff_eq.mp hevents
  refine ⟨_, ready, poller, w', _, _, _, _, hσ, hwait, hevents, hturn, hlives, hgone,
    by simpa using hwaits, ?_⟩
  have hdropped := hσ.abandoned_reported hwait hperm hturn
  rw [hevents] at hdropped
  refine hdropped.resolve_left fun hpasses => ?_
  -- a batch that passes leaves all sessions there
  have hstays := (hpasses.alike (hσ.sound.worker.waited hwait)
    (hσ.sound.supplied.waited rfl rfl rfl rfl)).2.2.stays hthere
  exact hstays hgone

end Sluice.Site
