import Sluice.Proofs.Worker.Progress

/-!
# Spinning

A worker spins when a wait finds something, but bare events only (`Worker.Spins`). A turn of such a
worker changes nothing, and the worker spins after it as before (`Sound.turn_of_spins`), because the
next wait finds what this one has found (`Poller.wait_again`). So it never runs idle, however many
turns it takes, as long as nothing happens at the far ends of its files (`Sound.run_of_spins`).
-/

namespace Sluice.Worker

variable {w w' : Worker} {e : Event}

/-- A wait finds something, and all that it finds are bare events. In this state a worker is busy
without doing anything. -/
def Spins (w : Worker) : Prop :=
  ∃ ready poller, w.poller.wait w.view = .ok (some ready, poller) ∧ ready.events ≠ []
    ∧ ∀ e ∈ ready.events, w.Bare e

/-! ## What the next wait finds -/

theorem Unmoved.view (h : Unmoved w w') : w'.view = w.view := by
  have hfiles : w'.host.file = w.host.file := funext h.files
  rw [Worker.view, Worker.view, viewWith, viewWith, h.control, hfiles, h.exhausted]

/-- Whatever is registered could be registered now. -/
theorem Sound.admits {m : Registration} (h : w.Sound) (hm : m ∈ w.poller.registrations) :
    w.poller.backend.Admits (w.view.status m.fd) := by
  rcases h.mem_registrations.mp hm with rfl | ⟨id, s, hs, rfl⟩
  · have hview : w.view.status w.control.readFd = .live w.control.conditions := if_pos rfl
    rw [hview]
    exact Poller.backend_admits_live
  · exact (h.held id s hs).admits_view

theorem Unmoved.spins (hun : Unmoved w w') (h : w.Sound) (h' : w'.Sound) (hspin : w.Spins) :
    w'.Spins := by
  obtain ⟨ready, poller, hwait, hsome, hbare⟩ := hspin
  obtain ⟨ready', poller', hwait', hperm⟩ := Poller.wait_again h.enrolled.poller h'.enrolled.poller
    hun.backend hun.watched (fun _ => h.admits) hwait
  refine ⟨ready', poller', hun.view ▸ hwait', fun hnil => hsome ?_, fun e he => ?_⟩
  · rwa [hnil, List.nil_perm] at hperm
  · exact hun.bare (hbare e (hperm.mem_iff.mp he))

theorem Spins.isReady (h : w.Spins) : w.isReady = true := by
  obtain ⟨ready, poller, hwait, hsome, -⟩ := h
  have hempty : ready.isEmpty = false := by simpa [ReadyList.isEmpty] using hsome
  rw [Worker.isReady, hwait]
  exact congrArg not hempty

/-! ## Turns -/

/-- A batch of bare events changes nothing, and does not stop. -/
theorem leads_handleBatch_bare (events : List Event) (h : w.Sound)
    (hbare : ∀ e ∈ events, w.Bare e) :
    Leads (handleBatch events) w (fun _ w' => w'.Sound ∧ Unmoved w w') never := by
  induction events generalizing w with
  | nil => exact ⟨h, .refl w⟩
  | cons e rest ih =>
    have hb := hbare e (List.mem_cons_self ..)
    rw [handleBatch, leads_ite]
    refine ⟨fun hcontrol => absurd hb (h.not_bare_control hcontrol), fun _ => ?_⟩
    refine Leads.bind (leads_onSessionReady h e fun hnone => ?_) fun stop w₁ hh => ?_
    · obtain ⟨s, hs, -⟩ := hb
      rw [hs] at hnone
      cases hnone
    · obtain ⟨rfl, hun⟩ := hh.unmoved h hb
      rw [leads_ite]
      refine ⟨fun hstop => absurd hstop Bool.false_ne_true, fun _ => ?_⟩
      refine (ih (h.handled hh)
        fun e' he' => hun.bare (hbare e' (List.mem_cons_of_mem e he'))).imp ?_
      rintro _ w' ⟨h', hun'⟩
      exact ⟨h', hun.trans hun'⟩

/-- A turn of a worker that spins comes to nothing. It does not stop either, and it spins again in
the turn after it. -/
theorem Sound.turn_of_spins (h : w.Sound) (hspin : w.Spins) :
    ∃ w', turn w = .ok ⟨⟩ w' ∧ w'.Sound ∧ Unmoved w w' := by
  obtain ⟨ready, poller, hwait, -, hbare⟩ := hspin
  have hun := Unmoved.of_wait h hwait
  obtain ⟨_, w', hbatch, h', hun'⟩ := (leads_handleBatch_bare ready.events (h.waited hwait)
    fun e he => hun.bare (hbare e he)).exists_ok
  exact ⟨w', (bind_of_ok (waitReady_ok hwait) _).trans hbatch, h', hun.trans hun'⟩

/-- A worker that spins never runs idle, whatever the limit, and gets nothing done. The induction is
on the limit, with the same worker before every turn. -/
theorem Sound.run_of_spins (limit : Nat) (h : w.Sound) (hspin : w.Spins) :
    ∃ w', runUntilIdle limit w = .ok false w' ∧ Unmoved w w' := by
  induction limit generalizing w with
  | zero => exact ⟨w, rfl, .refl w⟩
  | succ limit ih =>
    obtain ⟨w₁, hturn, h₁, hun⟩ := h.turn_of_spins hspin
    obtain ⟨w', hrest, hun'⟩ := ih h₁ (hun.spins h h₁ hspin)
    refine ⟨w', ?_, hun.trans hun'⟩
    have hget : (get : Act Worker) w = .ok w w := rfl
    rw [runUntilIdle, bind_of_ok hget, if_pos hspin.isReady, bind_of_ok hturn, hrest]

end Sluice.Worker
