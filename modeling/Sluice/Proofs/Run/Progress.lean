import Sluice.Proofs.Run.Site
import Sluice.Proofs.Worker.Spinning

/-!
# Turns that come to nothing

A turn of a reachable worker makes progress unless all that it finds are hangups for which no one
waits. Then it changes nothing, and the worker spins: it never runs idle by itself
(`Reachable.turn_progress`). This happens (`exists_hangup`): a session that is paused, because its
peer is blocked or still connecting, is told of a hangup and does nothing about it, so that the next
wait finds the same event again.
-/

namespace Sluice.Site

open Worker

variable {σ : Site} {arrange : List Event → List Event} {ready : ReadyList} {poller : Poller}
  {w' : Worker}

theorem Sound.turn_cameTo (h : σ.Sound) (hrounds : 0 < σ.worker.settings.maxOpsPerFd)
    (hprompt : σ.worker.Prompt)
    (hwait : σ.worker.poller.wait σ.worker.view = .ok (some ready, poller))
    (harrange : ∀ events, arrange events ⊆ events)
    (hturn : turnIn arrange σ.worker = .ok ⟨⟩ w') :
    σ.worker.CameTo (arrange ready.events) w' := by
  rw [turnIn, bind_of_ok (waitReady_ok hwait)] at hturn
  have hsup : ({ σ.worker with poller } : Worker).Supplied σ.unsent σ.given :=
    h.supplied.waited rfl rfl rfl rfl
  have hlead := leads_handleBatch_found (arrange ready.events) h.worker (h.worker.waited hwait) hsup
    hrounds hprompt (.of_wait h.worker hwait) fun e he =>
      h.worker.reported_of_wait hwait (harrange _ he)
  exact hlead.of_ok hturn

/-- A turn that finds something makes progress if and only if it finds other than bare events.
Otherwise it has found sockets with both directions shut, nothing changes, and the worker never runs
idle. -/
theorem Reachable.turn_progress (h : Reachable σ) (hrounds : 0 < σ.worker.settings.maxOpsPerFd)
    (hprompt : σ.worker.Prompt)
    (hwait : σ.worker.poller.wait σ.worker.view = .ok (some ready, poller))
    (hsome : ready.events ≠ [])
    (harrange : ∀ events, (arrange events).Perm events)
    (hturn : turnIn arrange σ.worker = .ok ⟨⟩ w') :
    (Progress σ.worker w' ↔ ∃ e ∈ ready.events, ¬ σ.worker.Bare e)
      ∧ (¬ Progress σ.worker w' →
        (∀ e ∈ ready.events, ∃ s st, σ.worker.session? (Session.ofToken e.token) = some s
          ∧ σ.worker.host.file s.fd = .stream st ∧ st.hungUp = true)
        ∧ ∀ limit, ∃ w'', runUntilIdle limit σ.worker = .ok false w'' ∧ Unmoved σ.worker w'') := by
  have hσ := h.sound.worker
  have hmem (e : Event) : e ∈ arrange ready.events ↔ e ∈ ready.events := (harrange _).mem_iff
  rcases h.sound.turn_cameTo hrounds hprompt hwait (fun _ => (harrange _).subset) hturn with
    ⟨hun, hall⟩ | ⟨hp, e, he, hnot⟩
  · have hbare (e : Event) (he : e ∈ ready.events) : σ.worker.Bare e := hall e ((hmem e).mpr he)
    refine ⟨iff_of_false hun.not_progress ?_, fun _ => ⟨fun e he => ?_, fun limit => ?_⟩⟩
    · rintro ⟨e, he, hnot⟩
      exact hnot (hbare e he)
    · obtain ⟨s, hs, hb⟩ := hbare e he
      rcases hσ.reported_of_wait hwait he with ⟨hcontrol, -⟩ | ⟨s', hs', hreport⟩
      · exact absurd (hbare e he) (hσ.not_bare_control hcontrol)
      · obtain rfl := Option.some.inj (hs.symm.trans hs')
        obtain ⟨st, hfile, hup⟩ := hb.hungUp hreport
        exact ⟨s, st, hs, hfile, hup⟩
    · exact hσ.run_of_spins limit ⟨ready, poller, hwait, hsome, hbare⟩
  · exact ⟨iff_of_true hp ⟨e, (hmem e).mp he, hnot⟩, fun hno => absurd hp hno⟩

/-! ## A session that is told of a hangup while it is paused -/

/-- A pair at work: the way out to the second far end is full, two bytes from the first one wait for
it, so that the first session is paused, and then the first far end closes. That hangup is all that
the next turn finds. -/
theorem exists_hangup : ∃ (σ : Site) (ready : ReadyList) (poller : Poller) (w' : Worker),
    Reachable σ ∧ 0 < σ.worker.settings.maxOpsPerFd ∧ σ.worker.Prompt
      ∧ σ.worker.poller.wait σ.worker.view = .ok (some ready, poller)
      ∧ ready.events ≠ [] ∧ (∀ e ∈ ready.events, σ.worker.Bare e)
      ∧ turnIn (fun events => events) σ.worker = .ok ⟨⟩ w' := by
  obtain ⟨w, hw, h, -⟩ := exists_pair
  have hall : pairedWorker.any (fun w =>
      let w₁ := w.withHost (w.host.play 4 .jam)
      let w₂ := w₁.withHost (w₁.host.play 3 (.write [1, 2]))
      (after turn w₂).any fun w₃ =>
        let w₄ := w₃.withHost (w₃.host.play 3 .close)
        (decide (0 < w₄.settings.maxOpsPerFd) && decide w₄.Prompt)
          && (found w₄).any (fun r => r.1.events == [⟨⟨0⟩, false, false, true⟩])
          && (w₄.session? 0).any (fun s => (w₄.half s).file.takeError.1.isNone)
          && (after turn w₄).isSome) = true := by
    decide +kernel
  rw [hw, Option.any_some] at hall
  obtain ⟨w₃, hw₃, hall⟩ := (Option.any_eq_true _ _).mp hall
  simp only [Bool.and_eq_true, decide_eq_true_iff] at hall
  obtain ⟨⟨⟨⟨hrounds, hprompt⟩, hwait⟩, hquiet⟩, hends⟩ := hall
  obtain ⟨s, hs, hnone⟩ := (Option.any_eq_true _ _).mp hquiet
  obtain ⟨w₅, hw₅⟩ := Option.isSome_iff_exists.mp hends
  obtain ⟨_, hturn₃⟩ := exists_of_after hw₃
  obtain ⟨_, hturn₅⟩ := exists_of_after hw₅
  have hreach : Reachable { worker := w₃.withHost (w₃.host.play 3 .close) } :=
    (((h.step (.move 4 .jam)).step (.move 3 (.write [1, 2]))).step (.turn hturn₃)).step
      (.move 3 .close)
  obtain ⟨⟨ready, poller⟩, hfound, hwait⟩ := (Option.any_eq_true _ _).mp hwait
  have hevents : ready.events = [⟨⟨0⟩, false, false, true⟩] := by simpa using hwait
  refine ⟨_, ready, poller, w₅, hreach, hrounds, hprompt, wait_of_found hfound, by simp [hevents],
    fun e he => ?_, hturn₅⟩
  rw [hevents, List.mem_singleton] at he
  subst he
  exact ⟨s, hs, rfl, rfl, Option.isNone_iff_eq_none.mp hnone⟩

/-- Not every turn that has found something makes progress: a hangup of a paused session is reported
again and again, and nothing is done about it. -/
theorem hangup_ignored : ¬ ∀ σ : Site, Reachable σ → 0 < σ.worker.settings.maxOpsPerFd →
    σ.worker.Prompt → ∀ ready poller w',
      σ.worker.poller.wait σ.worker.view = .ok (some ready, poller) → ready.events ≠ [] →
      turn σ.worker = .ok ⟨⟩ w' → Progress σ.worker w' := by
  intro hall
  obtain ⟨σ, ready, poller, w', h, hrounds, hprompt, hwait, hsome, hbare, hturn⟩ := exists_hangup
  have hp := hall σ h hrounds hprompt ready poller w' hwait hsome hturn
  rcases h.sound.turn_cameTo hrounds hprompt hwait (fun _ _ he => he) hturn with
    ⟨hun, -⟩ | ⟨-, e, he, hnot⟩
  · exact hun.not_progress hp
  · exact hnot (hbare e he)

/-- What the theorem says of that turn: the worker spins. -/
theorem hangup_spins : ∃ (σ : Site) (ready : ReadyList) (poller : Poller) (w' : Worker),
    Reachable σ ∧ 0 < σ.worker.settings.maxOpsPerFd ∧ σ.worker.Prompt
      ∧ σ.worker.poller.wait σ.worker.view = .ok (some ready, poller) ∧ ready.events ≠ []
      ∧ turnIn (fun events => events) σ.worker = .ok ⟨⟩ w' ∧ ¬ Progress σ.worker w'
      ∧ ∀ limit, ∃ w'', runUntilIdle limit σ.worker = .ok false w'' ∧ Unmoved σ.worker w'' := by
  obtain ⟨σ, ready, poller, w', h, hrounds, hprompt, hwait, hsome, hbare, hturn⟩ := exists_hangup
  obtain ⟨hiff, hnone⟩ := h.turn_progress hrounds hprompt hwait hsome (fun _ => .refl _) hturn
  have hno : ¬ Progress σ.worker w' := by
    rw [hiff]
    rintro ⟨e, he, hnot⟩
    exact hnot (hbare e he)
  exact ⟨σ, ready, poller, w', h, hrounds, hprompt, hwait, hsome, hturn, hno, (hnone hno).2⟩

end Sluice.Site
