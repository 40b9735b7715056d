import Sluice.Proofs.Socket.Directions
import Sluice.Proofs.Socket.Interruptions

/-!
# Flushing step by step

A flush of a script goes through the steps of the script, one call for each: a step that takes bytes
narrows the window, an interruption is passed over, and the first other step ends the flush
(`ScriptStep.stop?`). What one step does is said by `Script.flush_pass` and `Script.flush_stop`, and
from it, by induction on the steps, what a whole flush does (`Script.exists_flushed`). A flush that
stopped short goes on from there as if nothing had happened (`Flushed.resumed`).

What a flush offers to the stream is seen by looking on (`Observed`): it is the back of the window,
and never empty. `Staging.flush_window` has all of it together.
-/

namespace Sluice

/-! ## Looking on -/

section

variable {σ : Type} [ByteStream σ] {P : σ → Prop} {s : σ}

/-- What each call keeps, a write keeps, however often the call is made again. The bytes are the
same each time, so that nothing has to be known of other calls. -/
theorem writeSome_keeps {data : List UInt8} {hne : data ≠ []} {o : WriteOutcome} {s' : σ}
    (hwrite : writeSome s data hne = (o, s'))
    (hcall : ∀ s, P s → P (ByteStream.write s data).2) (h : P s) :
    P s' := by
  fun_induction writeSome s data hne with
  | case1 s r hinterrupted ih => exact ih hwrite (hcall s h)
  | case2 s r hanswered =>
    cases hwrite
    exact hcall s h

/-- What a call with the back of the window keeps, wherever the back begins, a flush keeps. A flush
makes no other calls: it begins behind what it has written already, and never behind the window's
end. -/
theorem Staging.flush_keeps {st : Staging}
    (hcall : ∀ s k, st.offset ≤ k → k < st.len → P s →
      P (ByteStream.write s (st.buffer.slice k (st.len - k))).2) (h : P s) :
      P (st.flush s).2.2 := by
  fun_induction Staging.flush st s with
  | case1 st s hopen n hpos s' hwrite ih =>
    have hkept := writeSome_keeps hwrite (fun s => hcall s _ (Nat.le_refl _) hopen) h
    refine ih (fun s k hk hlt => hcall s k (Nat.le_trans ?_ hk) hlt) hkept
    simp only [advance]
    omega
  | case2 st s hopen s' hwrite =>
    exact writeSome_keeps hwrite (fun s => hcall s _ (Nat.le_refl _) hopen) h
  | case3 st s hopen e s' hwrite =>
    exact writeSome_keeps hwrite (fun s => hcall s _ (Nat.le_refl _) hopen) h
  | case4 st s hclosed => exact h

end

/-- A stream, and what was offered to it call by call. It is a stream itself, so that the flush that
is looked at is the one that runs. -/
structure Observed (σ : Type) where
  stream : σ
  offers : List (List UInt8) := []

namespace Observed

variable {σ : Type} [ByteStream σ]

instance : ByteStream (Observed σ) where
  read s n :=
    let r := ByteStream.read s.stream n
    (r.1, { s with stream := r.2 })
  write s data :=
    let r := ByteStream.write s.stream data
    (r.1, ⟨r.2, s.offers ++ [data]⟩)
  interruptions s := ByteStream.interruptions s.stream
  length_read_le s := ByteStream.length_read_le s.stream
  write_le_length s := ByteStream.write_le_length s.stream
  interruptions_read s := ByteStream.interruptions_read s.stream
  interruptions_write s := ByteStream.interruptions_write s.stream

/-- Whatever was offered is the back of the window, from some byte of the window on. -/
def Backs (s : Observed σ) (st : Staging) : Prop :=
  ∀ offer ∈ s.offers, ∃ k, st.offset ≤ k ∧ k < st.len ∧ offer = st.buffer.slice k (st.len - k)

theorem backs_flush (st : Staging) (s : σ) :
    (st.flush ({ stream := s } : Observed σ)).2.2.Backs st := by
  refine Staging.flush_keeps (P := fun t : Observed σ => t.Backs st) ?_ fun _ hnone =>
    absurd hnone List.not_mem_nil
  intro s k hk hlt hbacks offer hmem
  rcases List.mem_append.mp hmem with hold | hnew
  · exact hbacks offer hold
  · exact ⟨k, hk, hlt, List.mem_singleton.mp hnew⟩

omit [ByteStream σ] in
theorem Backs.ne_nil {st : Staging} {s : Observed σ} (h : s.Backs st) {offer : List UInt8}
    (hmem : offer ∈ s.offers) : offer ≠ [] := by
  obtain ⟨k, -, hlt, rfl⟩ := h offer hmem
  have := st.len_le
  refine List.ne_nil_of_length_pos ?_
  rw [Buffer.length_slice]
  omega

/-- Looking on changes nothing. -/
theorem flush_stream (st : Staging) (s : Observed σ) :
    st.flush s.stream = ((st.flush s).1, (st.flush s).2.1, (st.flush s).2.2.stream) :=
  Staging.flush_map (g := Observed.stream) (fun _ _ => rfl) st s

end Observed

/-! ## The steps of a script -/

/-- How a flush ends at this step, unless it goes on past it. A step that takes no bytes ends it,
because otherwise it would go on without getting anywhere. -/
def ScriptStep.stop? : ScriptStep → Option Flush
  | .accepts 0 => some (.failed (.plain .writeZero))
  | .accepts (_ + 1) => none
  | .delivers _ => some (.failed (.plain .other))
  | .fails e =>
    if e.kind = .interrupted then none
    else if e.kind = .wouldBlock then some .wouldBlock
    else some (.failed e)

def ScriptStep.room : ScriptStep → Nat
  | .accepts n => n
  | _ => 0

def ScriptStep.totalRoom : List ScriptStep → Nat
  | [] => 0
  | x :: steps => x.room + totalRoom steps

namespace Staging

theorem flush_closed {σ : Type} [ByteStream σ] {st : Staging} (h : ¬ st.offset < st.len) (s : σ) :
    st.flush s = (.complete, st, s) := by
  rw [flush, dif_neg h]

theorem advance_zero (st : Staging) : st.advance 0 = st := by
  have := st.offset_le
  cases st
  simp only [advance, Nat.add_zero, Staging.mk.injEq, true_and, and_true]
  omega

/-- The window cannot be narrowed by more than it has. -/
theorem advance_min (st : Staging) (n : Nat) : st.advance (min n st.pending) = st.advance n := by
  have := st.offset_le
  simp only [advance, pending, Staging.mk.injEq, true_and, and_true]
  omega

theorem take_window (st : Staging) (n : Nat) :
    st.window.take n = st.buffer.slice st.offset ((st.advance n).offset - st.offset) := by
  have := st.offset_le
  simp only [window, pending, advance, Buffer.slice_eq, List.take_take]
  congr 1
  omega

variable {σ : Type} [ByteStream σ] {st : Staging} {s s' : σ}

theorem flush_again {e : IoError} (h : st.offset < st.len)
    (hwrite : ByteStream.write s st.window = (.error e, s')) (hkind : e.kind = .interrupted) :
    st.flush s = st.flush s' := by
  have hinterrupted : interruptedCall (ByteStream.write s st.window).1 = true := by
    rw [hwrite]
    exact interruptedCall_iff.mpr ⟨e, rfl, hkind⟩
  have hagain := (retries_write st.window (window_ne_nil h)).again s hinterrupted
  simp only [hwrite] at hagain
  rw [flush, dif_pos h, hagain]
  conv => rhs; rw [flush, dif_pos h]

/-- A flush whose first call is answered goes by the answer. With `flush_again` for the calls that
are interrupted, this is all that a flush can do with a stream. -/
theorem flush_answered {answer : Except IoError Nat} (h : st.offset < st.len)
    (hwrite : ByteStream.write s st.window = (answer, s'))
    (hanswered : interruptedCall answer = false) :
    st.flush s = match WriteOutcome.ofAnswer answer with
      | .done n _ => (st.advance n).flush s'
      | .wouldBlock => (.wouldBlock, st, s')
      | .failed e => (.failed e, st, s') := by
  have houtcome : writeSome s st.window (window_ne_nil h) = (.ofAnswer answer, s') := by
    rw [(retries_write st.window (window_ne_nil h)).answered s
      (by rw [hwrite, hanswered]; exact Bool.false_ne_true),
      hwrite]
  rw [flush, dif_pos h, houtcome]
  cases WriteOutcome.ofAnswer answer <;> rfl

end Staging

namespace ScriptStep

variable {e : IoError} {o : Flush}

theorem stop?_fails_eq_none : (fails e).stop? = none ↔ e.kind = .interrupted := by
  rw [stop?]
  by_cases hinterrupted : e.kind = .interrupted
  · rw [if_pos hinterrupted]
    exact iff_of_true rfl hinterrupted
  · rw [if_neg hinterrupted]
    refine iff_of_false ?_ hinterrupted
    split <;> exact Option.some_ne_none _

theorem stop?_fails_eq_some (h : (fails e).stop? = some o) :
    interruptedCall (.error e : Except IoError Nat) = false ∧
      ((o = .wouldBlock ∧ WriteOutcome.ofAnswer (.error e) = .wouldBlock)
        ∨ (o = .failed e ∧ WriteOutcome.ofAnswer (.error e) = .failed e)) := by
  rw [stop?] at h
  split at h
  · cases h
  · next hinterrupted =>
    refine ⟨beq_eq_false_iff_ne.mpr hinterrupted, ?_⟩
    split at h
    · next hblock =>
      cases h
      exact Or.inl ⟨rfl, if_pos hblock⟩
    · next hblock =>
      cases h
      exact Or.inr ⟨rfl, if_neg hblock⟩

theorem ne_complete_of_stop? {x : ScriptStep} (h : x.stop? = some o) : o ≠ .complete := by
  rintro rfl
  match x with
  | .accepts 0 => cases h
  | .accepts (_ + 1) => cases h
  | .delivers _ => cases h
  | .fails e =>
    obtain ⟨-, ⟨hblock, -⟩ | ⟨hfailed, -⟩⟩ := stop?_fails_eq_some h
    · cases hblock
    · cases hfailed

end ScriptStep

namespace Script

variable {st : Staging} {x : ScriptStep}

/-- A step that takes bytes takes them from the front of the window; an interruption takes none. -/
theorem flush_pass (h : st.offset < st.len) (hx : x.stop? = none)
    (rest : List ScriptStep) (calls : Nat)
    (written : List UInt8) :
    st.flush (⟨x :: rest, calls, written⟩ : Script)
      = (st.advance x.room).flush
      (⟨rest, calls + 1, written ++ st.window.take x.room⟩ : Script) := by
  match x with
  | .accepts 0 => cases hx
  | .accepts (n + 1) =>
    obtain ⟨m, hm⟩ : ∃ m, min (n + 1) st.window.length = m + 1 := by
      refine Nat.exists_eq_add_one.mpr ?_
      rw [Staging.length_window, Staging.pending]
      omega
    have hwrite : ByteStream.write (⟨.accepts (n + 1) :: rest, calls, written⟩ : Script) st.window
        = (.ok (m + 1), ⟨rest, calls + 1, written ++ st.window.take (n + 1)⟩) := by
      rw [← hm]
      rfl
    have hnarrowed : st.advance (m + 1) = st.advance (n + 1) := by
      rw [← hm, Staging.length_window, Staging.advance_min]
    rw [Staging.flush_answered h hwrite rfl]
    exact congrArg (Staging.flush · _) hnarrowed
  | .delivers _ => cases hx
  | .fails e =>
    have hkind := ScriptStep.stop?_fails_eq_none.mp hx
    rw [Staging.flush_again h rfl hkind]
    change st.flush _
        = (st.advance 0).flush (⟨rest, calls + 1, written ++ st.window.take 0⟩ : Script)
    rw [Staging.advance_zero, List.take_zero, List.append_nil]

theorem calls_write (s : Script) (data : List UInt8) : (s.write data).2.calls = s.calls + 1 := by
  unfold write
  split <;> rfl

/-- A script does not look at how many calls it has had. This moves the count out of the way where
two flushes are compared that begin after different numbers of calls. -/
theorem flush_called (st : Staging) (s : Script) :
    st.flush { s with calls := s.calls + 1 }
      = ((st.flush s).1, (st.flush s).2.1,
        { (st.flush s).2.2 with calls := (st.flush s).2.2.calls + 1 }) := by
  refine Staging.flush_map (g := fun s : Script => { s with calls := s.calls + 1 }) ?_ st s
  rintro ⟨steps, calls, written⟩ data
  match steps with
  | [] => rfl
  | .accepts _ :: _ => rfl
  | .delivers _ :: _ => rfl
  | .fails _ :: _ => rfl

/-- Any other step ends the flush with the window as it is. A script that is used up takes
nothing. -/
theorem flush_stop (h : st.offset < st.len) {steps : List ScriptStep} {o : Flush}
    (hstop : (steps.headD (.accepts 0)).stop? = some o) (calls : Nat) (written : List UInt8) :
    st.flush (⟨steps, calls, written⟩ : Script)
      = (o, st, (⟨steps.tail, calls + 1, written⟩ : Script)) := by
  match steps with
  | [] =>
    cases hstop
    exact Staging.flush_answered h rfl rfl
  | .accepts 0 :: rest =>
    cases hstop
    have hwrite : ByteStream.write (⟨.accepts 0 :: rest, calls, written⟩ : Script) st.window
        = (.ok 0, ⟨rest, calls + 1, written⟩) := by
      change (Except.ok (min 0 st.window.length),
          (⟨rest, calls + 1, written ++ st.window.take 0⟩ : Script)) = _
      rw [Nat.zero_min, List.take_zero, List.append_nil]
    exact Staging.flush_answered h hwrite rfl
  | .accepts (_ + 1) :: _ => cases hstop
  | .delivers _ :: rest =>
    cases hstop
    exact Staging.flush_answered h rfl rfl
  | .fails e :: rest =>
    have hwrite : ByteStream.write (⟨.fails e :: rest, calls, written⟩ : Script) st.window
        = (.error e, ⟨rest, calls + 1, written⟩) := rfl
    obtain ⟨hanswered, ⟨rfl, houtcome⟩ | ⟨rfl, houtcome⟩⟩ := ScriptStep.stop?_fails_eq_some hstop
    · rw [Staging.flush_answered h hwrite hanswered, houtcome]
      rfl
    · rw [Staging.flush_answered h hwrite hanswered, houtcome]
      rfl

end Script

/-! ## A whole flush -/

/-- The window of `st` has moved past the steps `passed`, and what it has lost on the way was
written. -/
structure Moved (st : Staging) (written : List UInt8) (passed : List ScriptStep) (st' : Staging)
    (written' : List UInt8) : Prop where
  buffer : st'.buffer = st.buffer
  len : st'.len = st.len
  forward : st.offset ≤ st'.offset
  bounds : st'.offset ≤ st'.len ∧ st'.len ≤ st'.buffer.length
  /-- The steps have taken what they were ready to take, as far as it was there. -/
  offset : st'.offset = min (st.offset + ScriptStep.totalRoom passed) st.len
  written : written' = written ++ st.buffer.slice st.offset (st'.offset - st.offset)

/-- A flush of the window of `st` through the script `s` went past the steps `passed` and got as far
as `rest`. It came to `o` and left `st'` and `s'`. -/
structure Flushed (st : Staging) (s : Script) (passed rest : List ScriptStep) (o : Flush)
    (st' : Staging)
    (s' : Script) : Prop extends Moved st s.written passed st' s'.written where
  steps : s.steps = passed ++ rest
  passes : ∀ x ∈ passed, x.stop? = none
  complete_iff : o = .complete ↔ st'.offset = st'.len
  completed : o = .complete → s'.steps = rest ∧ s'.calls = s.calls + passed.length
  /-- Short of that, the first of the other steps has ended the flush. Where there are none, nothing
  is accepted. -/
  stopped : o ≠ .complete → st'.offset < st'.len ∧ (rest.headD (.accepts 0)).stop? = some o
    ∧ s'.steps = rest.tail ∧ s'.calls = s.calls + passed.length + 1
  /-- Whatever steps come later, the next flush takes them as this one would have done without the
  step that ended it. -/
  resumed : o ≠ .complete → ∀ later,
    let unbroken := st.flush { s with steps := passed ++ later }
    st'.flush { s' with steps := later }
      = (unbroken.1, unbroken.2.1, { unbroken.2.2 with calls := unbroken.2.2.calls + 1 })

section

variable {st st' : Staging} {s s' : Script} {x : ScriptStep}
  {steps passed rest : List ScriptStep} {o : Flush}
  {written written' : List UInt8} {calls : Nat}

theorem Moved.refl (st : Staging) (written : List UInt8) : Moved st written [] st written where
  buffer := rfl
  len := rfl
  forward := Nat.le_refl _
  bounds := ⟨st.offset_le, st.len_le⟩
  offset := (Nat.min_eq_left st.offset_le).symm
  written := by rw [Nat.sub_self, Buffer.slice_eq, List.take_zero, List.append_nil]

theorem Moved.cons
    (h : Moved (st.advance x.room) (written ++ st.window.take x.room) passed st' written') :
    Moved st written (x :: passed) st' written' := by
  have hoffset := st.offset_le
  have hforward := h.forward
  have hfirst : (st.advance x.room).offset = min (st.offset + x.room) st.len := rfl
  have hmoved : st.offset ≤ (st.advance x.room).offset := by omega
  constructor
  case buffer => exact h.buffer
  case len => exact h.len
  case forward => exact hmoved.trans hforward
  case bounds => exact h.bounds
  case offset =>
    have hrest : st'.offset
        = min ((st.advance x.room).offset + ScriptStep.totalRoom passed) st.len := h.offset
    rw [hrest, hfirst, ScriptStep.totalRoom]
    omega
  case written =>
    have hjoin := st.buffer.slice_append_slice st.offset ((st.advance x.room).offset - st.offset)
      (st'.offset - (st.advance x.room).offset)
    rw [Nat.add_sub_cancel' hmoved] at hjoin
    rw [h.written, Staging.take_window, List.append_assoc]
    refine congrArg (written ++ ·) (hjoin.trans (congrArg (st.buffer.slice st.offset) ?_))
    omega

namespace Flushed

theorem closed (h : ¬ st.offset < st.len) (s : Script) :
    Flushed st s [] s.steps .complete st s where
  toMoved := .refl st s.written
  steps := rfl
  passes _ hx := absurd hx List.not_mem_nil
  complete_iff := iff_of_true rfl (Nat.le_antisymm st.offset_le (Nat.le_of_not_lt h))
  completed _ := ⟨rfl, rfl⟩
  stopped hne := absurd rfl hne
  resumed hne := absurd rfl hne

theorem stop (h : st.offset < st.len)
    (hstop : (steps.headD (.accepts 0)).stop? = some o) (calls : Nat)
    (written : List UInt8) :
    Flushed st ⟨steps, calls, written⟩ [] steps o st ⟨steps.tail, calls + 1, written⟩ where
  toMoved := .refl st written
  steps := rfl
  passes _ hx := absurd hx List.not_mem_nil
  complete_iff := iff_of_false (ScriptStep.ne_complete_of_stop? hstop) (Nat.ne_of_lt h)
  completed ho := absurd ho (ScriptStep.ne_complete_of_stop? hstop)
  stopped _ := ⟨h, hstop, rfl, rfl⟩
  resumed _ later := Script.flush_called st ⟨later, calls, written⟩

theorem pass (h : st.offset < st.len) (hx : x.stop? = none)
    (hrest : Flushed (st.advance x.room) ⟨steps, calls + 1,
      written ++ st.window.take x.room⟩ passed rest o st'
      s') :
    Flushed st ⟨x :: steps, calls, written⟩ (x :: passed) rest o st' s' where
  toMoved := hrest.toMoved.cons
  steps := congrArg (x :: ·) hrest.steps
  passes := List.forall_mem_cons.mpr ⟨hx, hrest.passes⟩
  complete_iff := hrest.complete_iff
  completed ho := by
    obtain ⟨hsteps, hcalls⟩ := hrest.completed ho
    exact ⟨hsteps, hcalls.trans (Nat.succ_add_eq_add_succ ..)⟩
  stopped ho := by
    obtain ⟨hlt, hstop, hsteps, hcalls⟩ := hrest.stopped ho
    exact ⟨hlt, hstop, hsteps, hcalls.trans (congrArg (· + 1) (Nat.succ_add_eq_add_succ ..))⟩
  resumed ho later := by
    have hunbroken := hrest.resumed ho later
    rw [← Script.flush_pass h hx] at hunbroken
    exact hunbroken

end Flushed

end

namespace Script

/-- Every flush of a script goes past some of its steps and comes to an end. The induction is on the
steps, for any window: a step takes bytes from it, or ends the flush. -/
theorem exists_flushed (st : Staging) (s : Script) :
    ∃ passed rest, Flushed st s passed rest (st.flush s).1 (st.flush s).2.1 (st.flush s).2.2 := by
  obtain ⟨steps, calls, written⟩ := s
  induction steps generalizing st calls written with
  | nil =>
    by_cases hopen : st.offset < st.len
    · rw [flush_stop hopen rfl]
      exact ⟨_, _, .stop hopen rfl calls written⟩
    · rw [Staging.flush_closed hopen]
      exact ⟨_, _, .closed hopen _⟩
  | cons x steps ih =>
    by_cases hopen : st.offset < st.len
    · cases hx : x.stop? with
      | none =>
        rw [flush_pass hopen hx]
        obtain ⟨passed, rest, hrest⟩ :=
          ih (st.advance x.room) (calls + 1) (written ++ st.window.take x.room)
        exact ⟨_, _, hrest.pass hopen hx⟩
      | some o =>
        have hstop : ((x :: steps).headD (.accepts 0)).stop? = some o := hx
        rw [flush_stop hopen hstop]
        exact ⟨_, _, .stop hopen hstop calls written⟩
    · rw [Staging.flush_closed hopen]
      exact ⟨_, _, .closed hopen _⟩

end Script

namespace Staging

/-- Every call of a flush of a script is an offer, so that what is known of the offers is known of
all calls. -/
theorem length_offers_flush (st : Staging) (s : Script) :
    (st.flush ({ stream := s } : Observed Script)).2.2.offers.length + s.calls
      = (st.flush ({ stream := s } : Observed Script)).2.2.stream.calls := by
  refine flush_keeps (P := fun t : Observed Script => t.offers.length + s.calls = t.stream.calls) ?_
    (Nat.zero_add _)
  intro t k _ _ hcount
  change (t.offers ++ [_]).length + s.calls = (t.stream.write _).2.calls
  rw [Script.calls_write, List.length_append, List.length_singleton, ← hcount]
  omega

structure Staged (st : Staging) (data : List UInt8) (st' : Staging) : Prop where
  offset : st'.offset = 0
  len : st'.len = data.length
  bounds : st'.offset ≤ st'.len ∧ st'.len ≤ st'.buffer.length
  capacity : st'.buffer.length = st.buffer.length
  window : st'.window = data

theorem staged_stage (st : Staging) (data : List UInt8) (fits : data.length ≤ st.buffer.length) :
    Staged st data (st.stage data fits) where
  offset := rfl
  len := rfl
  bounds := ⟨(st.stage data fits).offset_le, (st.stage data fits).len_le⟩
  capacity := length_buffer_stage st data fits
  window := window_stage st data fits

/-- Whatever the script, a flush goes past the steps that let it, writes what its window loses, and
ends when nothing is left of the window or a step ends it; then it can be taken up again. It makes
each call with bytes to write. Bytes that fit can be staged in place of any window. -/
theorem flush_window (st : Staging) (s : Script) :
    (∃ passed rest, Flushed st s passed rest (st.flush s).1 (st.flush s).2.1 (st.flush s).2.2)
      ∧ (let watched := st.flush ({ stream := s } : Observed Script)
        st.flush s = (watched.1, watched.2.1, watched.2.2.stream)
          ∧ watched.2.2.offers.length + s.calls = watched.2.2.stream.calls
          ∧ watched.2.2.Backs st ∧ ∀ offer ∈ watched.2.2.offers, offer ≠ [])
      ∧ ∀ data (fits : data.length ≤ st.buffer.length), Staged st data (st.stage data fits) := by
  have hbacks := Observed.backs_flush st s
  exact ⟨s.exists_flushed st,
    ⟨Observed.flush_stream st { stream := s }, st.length_offers_flush s, hbacks,
    fun _ => hbacks.ne_nil⟩, st.staged_stage⟩

/-- Five bytes, of which two are taken before an interruption and a socket that would block; the
next flush offers the other three. -/
theorem flush_window_of_five :
    let st := (Staging.empty (.blank 8)).stage [1, 2, 3, 4, 5] (by decide)
    let s : Script :=
      { steps := [.accepts 2, .fails (.os .interrupted), .fails (.os .tryAgain), .accepts 9] }
    let blocked := st.flush s
    let watched := st.flush ({ stream := s } : Observed Script)
    (∃ passed rest, Flushed st s passed rest .wouldBlock blocked.2.1 blocked.2.2)
      ∧ blocked.2.1.offset = 2 ∧ blocked.2.2.written = [1, 2]
      ∧ watched.2.2.offers = [[1, 2, 3, 4, 5], [3, 4, 5], [3, 4, 5]]
      ∧ (∀ offer ∈ watched.2.2.offers, offer ≠ [])
      ∧ (blocked.2.1.flush blocked.2.2).1 = .complete
      ∧ (blocked.2.1.flush blocked.2.2).2.2.written = [1, 2, 3, 4, 5]
      ∧ Staged st [6, 7] (st.stage [6, 7] (by decide)) := by
  intro st s blocked watched
  obtain ⟨hflushed, ⟨-, -, -, hoffers⟩, hstaged⟩ := flush_window st s
  have hblocked : (st.flush s).1 = .wouldBlock := by decide +kernel
  rw [hblocked] at hflushed
  exact ⟨hflushed, by decide +kernel, by decide +kernel, by decide +kernel, hoffers,
    by decide +kernel, by decide +kernel, hstaged [6, 7] (by decide)⟩

end Staging

end Sluice
