import Sluice.Proofs.Run.Site
import Sluice.Proofs.Worker.Doomed

/-!
# Staged bytes that are never written

Bytes that were read from one side of a pair and wait to be written to the other are lost when that
other side is closed. On sockets where no call fails by itself this happens in two ways only
(`Reachable.closed_with_staged`): the socket's far end takes no more bytes, or it has ended its own
sending and the relay has read that end. In the second case the far end may still be reading:
`staged_bytes_cut_off` is such a run, in which nothing has failed. The peer of the session that ends
never loses anything.
-/

namespace Sluice

/-- Whether this is an open socket with no error pending, a far end that takes bytes, and no answers
in store. -/
def File.isCalm : File → Bool
  | .stream s =>
    s.nearOpen && s.isSocket && s.nearFault.isNone && !s.outbound.shut && s.reads.isEmpty
      && s.writes.isEmpty
  | .device _ => false

theorem File.faultless_of_isCalm {f : File} (h : f.isCalm = true) : f.Faultless := by
  cases f with
  | stream s =>
    simp only [isCalm, Bool.and_eq_true, Option.isNone_iff_eq_none, List.isEmpty_iff] at h
    obtain ⟨⟨⟨⟨⟨hopen, hsocket⟩, hfault⟩, -⟩, hreads⟩, hwrites⟩ := h
    refine ⟨s, rfl, hopen, ⟨hsocket, hfault, fun e he => ?_⟩, fun e he => ?_⟩
    · rw [hreads] at he
      cases he
    · rw [hwrites] at he
      cases he
  | device b => cases h

namespace Worker

def isCalm (w : Worker) : Bool :=
  w.sessions.toList.all fun x => (w.host.file x.2.fd).isCalm

/-- No call fails by itself on the socket of a session. What a far end does is no such failure: it
may stop sending, and it may take no more. -/
def Faultless (w : Worker) : Prop :=
  ∀ id s, w.session? id = some s → (w.half s).file.Faultless

theorem faultless_of_isCalm {w : Worker} (h : w.isCalm = true) : w.Faultless := by
  intro id s hs
  exact File.faultless_of_isCalm (List.all_eq_true.mp h (id, s) (Arena.mem_toList.mpr hs))

/-! ## A turn in two parts -/

/-- What a turn does before it destroys: it waits, and handles what it found until a session is
doomed. -/
def turnUntilDoomed (arrange : List Event → List Event) : Act (Option SessionId) := do
  findDoomedIn (arrange (← waitReady))

theorem turnIn_eq (arrange : List Event → List Event) :
    turnIn arrange = turnUntilDoomed arrange >>= destroyDoomed := by
  rw [turnIn, turnUntilDoomed, bind_assoc]
  exact bind_congr fun events => handleBatch_eq (arrange events)

theorem exists_of_turnIn {arrange : List Event → List Event} {w w' : Worker}
    (h : turnIn arrange w = .ok ⟨⟩ w') :
    ∃ found w₁, turnUntilDoomed arrange w = .ok found w₁ ∧ destroyDoomed found w₁ = .ok ⟨⟩ w' := by
  rw [turnIn_eq] at h
  cases hfirst : turnUntilDoomed arrange w with
  | ok found w₁ => exact ⟨found, w₁, rfl, (bind_of_ok hfirst _).symm.trans h⟩
  | error a w₁ =>
    have herror : (turnUntilDoomed arrange >>= destroyDoomed) w = .error a w₁ := by
      show EStateM.bind _ _ w = _
      rw [EStateM.bind, hfirst]
    rw [herror] at h
    cases h

end Worker

namespace Site

open Worker

variable {σ σ₀ : Site}

/-- Up to the point at which a turn destroys a session, all sessions are there; the doomed one is
condemned. -/
theorem Sound.leads_turnUntilDoomed (h : σ.Sound) (hf : σ.worker.Faultless)
    {arrange : List Event → List Event} (harrange : ∀ events, arrange events ⊆ events) :
    Leads (turnUntilDoomed arrange) σ.worker (fun found w₁ =>
      (∀ x, σ.worker.session? x ≠ none → w₁.session? x ≠ none)
        ∧ ∀ target, found = some target → w₁.Condemned target) anyhow := by
  refine Leads.bind ((leads_waitReady h.worker).mono (fun _ _ hq => hq) fun _ _ => trivial) ?_
  rintro events w₁ ⟨h₁, hsessions, hhost, hcontrol, hincoming, -, hknown⟩
  have hlook (x : SessionId) : w₁.session? x = σ.worker.session? x := by
    rw [session?, session?, hsessions]
  have hamong : w₁.FaultlessAmong fun id => w₁.session? id ≠ none := by
    intro id hid
    obtain ⟨s, hs⟩ := Option.ne_none_iff_exists'.mp hid
    refine ⟨s, hs, ?_, fun pid hpeer => ?_⟩
    · rw [half, hhost]
      exact hf id s (hlook id ▸ hs)
    · obtain ⟨p, hp, -⟩ := h₁.linked hs List.not_mem_nil hpeer
      rw [hp]
      exact Option.some_ne_none p
  have hsup := h.supplied.waited hsessions hhost hcontrol hincoming
  refine (leads_findDoomedIn (arrange events) h₁ hsup hamong
    fun e he => hknown e (harrange events he)).imp
    fun found w₂ hq => ⟨fun x hx => hq.1 x (by rwa [hlook]), hq.2⟩

/-- When a turn closes a session that has bytes to write, on sockets where no call fails by itself,
then it is the session that was doomed, and it was spent: its far end had ended its sending and all
of that was read, or it took no more bytes. All that a turn closes it closes after the point at
which this is seen. -/
theorem Reachable.closed_with_staged (h : Reachable σ) (hf : σ.worker.Faultless)
    {arrange : List Event → List Event} (harrange : ∀ events, arrange events ⊆ events) {w' : Worker}
    (hturn : turnIn arrange σ.worker = .ok ⟨⟩ w') :
    ∃ found w₁, turnUntilDoomed arrange σ.worker = .ok found w₁
      ∧ (∀ id, σ.worker.session? id ≠ none → w₁.session? id ≠ none)
      ∧ ∀ id s, w₁.session? id = some s → w'.session? id = none → 0 < s.pending →
        found = some id ∧ (w₁.half s).Spent := by
  obtain ⟨found, w₁, hfirst, hlast⟩ := exists_of_turnIn hturn
  obtain ⟨hstay, hdoomed⟩ := (h.sound.leads_turnUntilDoomed hf harrange).of_ok hfirst
  refine ⟨found, w₁, hfirst, hstay, fun id s hs hgone hpos => ?_⟩
  cases found with
  | none =>
    obtain rfl : w₁ = w' := by
      cases hlast
      rfl
    rw [hs] at hgone
    cases hgone
  | some target =>
    have hc := hdoomed target rfl
    by_cases hid : id = target
    · subst hid
      exact ⟨rfl, hc.spent s hs hpos⟩
    · have hzero := hc.alone w' hlast id s hs hgone hid
      omega

/-! ## A run in which staged bytes are lost -/

/-- A run in which the sockets of all sessions are calm at every site. -/
inductive CalmRun (σ₀ : Site) : Site → Prop
  | refl (calm : σ₀.worker.isCalm = true) : CalmRun σ₀ σ₀
  | step {σ σ' : Site} {d : Deed} (h : CalmRun σ₀ σ) (hs : Step σ d σ')
      (calm : σ'.worker.isCalm = true) : CalmRun σ₀ σ'

theorem CalmRun.calm {σ : Site} (h : CalmRun σ₀ σ) : σ.worker.isCalm = true := by
  cases h with
  | refl calm => exact calm
  | step _ _ calm => exact calm

theorem CalmRun.reachable (hrun : CalmRun σ₀ σ) (h : Reachable σ₀) : Reachable σ := by
  induction hrun with
  | refl => exact h
  | step _ hs _ ih => exact ih.step hs

/-- A pair at work: the way out to the first far end is full, three bytes from the second one wait
for it, and then the first far end ends its sending. The next turn closes the first socket over the
three bytes, although its far end still takes bytes. -/
theorem exists_cut_off : ∃ σ₀ σ : Site, Reachable σ₀ ∧ CalmRun σ₀ σ ∧ ∃ found w₁ w' s,
    turnUntilDoomed (fun events => events) σ.worker = .ok found w₁ ∧ turn σ.worker = .ok ⟨⟩ w'
      ∧ w₁.session? 0 = some s ∧ w'.session? 0 = none ∧ s.pending = 3 := by
  obtain ⟨w, hw, h, -⟩ := exists_pair
  have hall : pairedWorker.any (fun w =>
      let w₁ := w.withHost (w.host.play 3 .jam)
      let w₂ := w₁.withHost (w₁.host.play 4 (.write [1, 2, 3]))
      (w.isCalm && w₁.isCalm && w₂.isCalm) && (after turn w₂).any fun w₃ =>
        let w₄ := w₃.withHost (w₃.host.play 3 (.shutdown false true))
        (w₃.isCalm && w₄.isCalm) && (after (turnUntilDoomed fun events => events) w₄).any fun w₅ =>
          (w₅.session? 0).any (fun s => s.pending == 3)
            && (after turn w₄).any fun w₆ => (w₆.session? 0).isNone) = true := by
    decide +kernel
  rw [hw, Option.any_some, Bool.and_eq_true] at hall
  obtain ⟨hcalm, hall⟩ := hall
  simp only [Bool.and_eq_true] at hcalm
  obtain ⟨w₃, hw₃, hall⟩ := (Option.any_eq_true _ _).mp hall
  simp only [Bool.and_eq_true] at hall
  obtain ⟨⟨hcalm₃, hcalm₄⟩, hall⟩ := hall
  obtain ⟨w₅, hw₅, hall⟩ := (Option.any_eq_true _ _).mp hall
  obtain ⟨hstaged, hgone⟩ := (Bool.and_eq_true _ _).mp hall
  obtain ⟨s, hs, hpending⟩ := (Option.any_eq_true _ _).mp hstaged
  obtain ⟨w₆, hw₆, hgone⟩ := (Option.any_eq_true _ _).mp hgone
  obtain ⟨_, hturn₃⟩ := exists_of_after hw₃
  obtain ⟨found, hfirst⟩ := exists_of_after hw₅
  obtain ⟨_, hturn₆⟩ := exists_of_after hw₆
  have hrun : CalmRun { worker := w }
      { worker := w₃.withHost (w₃.host.play 3 (.shutdown false true)) } :=
    .step (.step (.step (.step (.refl hcalm.1.1) (.move 3 .jam) hcalm.1.2)
      (.move 4 (.write [1, 2, 3])) hcalm.2) (.turn hturn₃) hcalm₃)
        (.move 3 (.shutdown false true)) hcalm₄
  refine ⟨_, _, h, hrun, found, w₅, w₆, s, hfirst, hturn₆, hs, ?_, ?_⟩
  · simpa using hgone
  · simpa using hpending

/-- Not every run in which no error is pending anywhere and every far end takes bytes closes only
sockets that have no bytes to write. -/
theorem staged_bytes_cut_off : ¬ ∀ σ₀ σ : Site, Reachable σ₀ → CalmRun σ₀ σ →
    ∀ arrange found w₁ w' id s, turnUntilDoomed arrange σ.worker = .ok found w₁ →
      turnIn arrange σ.worker = .ok ⟨⟩ w' → w₁.session? id = some s → w'.session? id = none →
      s.pending = 0 := by
  intro hall
  obtain ⟨σ₀, σ, h, hrun, found, w₁, w', s, hfirst, hturn, hs, hgone, hpending⟩ := exists_cut_off
  have hzero := hall σ₀ σ h hrun _ found w₁ w' 0 s hfirst hturn hs hgone
  omega

/-- What the theorem says of that turn. -/
theorem closed_with_staged_half_closed : ∃ σ : Site, Reachable σ ∧ σ.worker.Faultless ∧ ∃ w' w₁ s,
    turnIn (fun events => events) σ.worker = .ok ⟨⟩ w' ∧ w₁.session? 0 = some s
      ∧ w'.session? 0 = none ∧ 0 < s.pending
      ∧ turnUntilDoomed (fun events => events) σ.worker = .ok (some 0) w₁ ∧ (w₁.half s).Spent := by
  obtain ⟨σ₀, σ, h, hrun, found, w₁, w', s, hfirst, hturn, hs, hgone, hpending⟩ := exists_cut_off
  have hσ := hrun.reachable h
  have hf := faultless_of_isCalm hrun.calm
  obtain ⟨found', w₁', hfirst', -, hclosed⟩ := hσ.closed_with_staged hf (fun _ _ he => he) hturn
  rw [hfirst] at hfirst'
  cases hfirst'
  have hpos : 0 < s.pending := by omega
  obtain ⟨rfl, hspent⟩ := hclosed 0 s hs hgone hpos
  exact ⟨σ, hσ, hf, w', w₁, s, hturn, hs, hgone, hpos, hfirst, hspent⟩

end Site

end Sluice
