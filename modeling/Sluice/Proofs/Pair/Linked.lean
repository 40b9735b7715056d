import Sluice.Proofs.Pair.Flags
import Sluice.Proofs.Pair.Half

/-!
# Linked halves

The invariant of a pair (`Half.Linked`): the flags of the two sessions are in order, and the ledger
of each direction closes, that is, all that was read from one file was written to the other or waits
in the window of the other (`Half.Ledger`). Because a half reads only while the other has nothing to
write, the one buffer of each half is never overwritten before it is empty.

Each handler keeps the invariant unless it dooms the peer, and leaves a half behind that can go on
alone (`keeps_onEvent`). A half that was left alone with bytes to write stays that way until it is
doomed as well (`draining_drain`).
-/

namespace Sluice

namespace Half

/-! ## The invariant -/

def passed (a : Half) : List UInt8 :=
  a.file.sent ++ a.session.staging.window

/-- All that was read from `a` was written to `b` or waits in the window of `b`. It speaks of what
has ever gone through the two files, so that bytes cannot be lost, doubled or reordered without
breaking it. -/
structure Ledger (a b : Half) : Prop where
  sound : a.file.Sound
  bytes : a.file.received = b.passed

/-- The flags and both directions of a pair are in order. The flags are needed for the ledgers: they
say that the window of one half is empty whenever the other reads. -/
structure Linked (a b : Half) : Prop where
  paired : a.session.Paired b.session
  there : Ledger a b
  back : Ledger b a

/-- A half that can go on without its peer. Its ledger ends with the peer, and what stays of it is
what waits in its own window. -/
structure Fit (a : Half) : Prop where
  session : a.session.Fit
  sound : a.file.Sound

/-- A half that was left alone with bytes to write. -/
structure Draining (a : Half) : Prop where
  session : a.session.Draining
  sound : a.file.Sound

variable {a a' b b' : Half}

theorem Linked.symm (h : Linked a b) : Linked b a :=
  ⟨h.paired.symm, h.back, h.there⟩

theorem Linked.fit (h : Linked a b) : Fit a :=
  ⟨h.paired.there.fit, h.there.sound⟩

theorem window_eq_nil_iff : a.session.staging.window = [] ↔ a.session.pending = 0 := by
  rw [← List.length_eq_zero_iff, Staging.length_window]
  rfl

/-- A half reads only when the other has nothing to write. So what it reads is staged in an empty
buffer, and nothing that waits there is overwritten. -/
theorem Linked.window_of_reading (h : Linked a b) (hr : a.session.awaitingReadable = true) :
    b.session.staging.window = [] := by
  obtain ⟨-, -, hw⟩ := h.paired.there.reading_iff.mp hr
  exact window_eq_nil_iff.mpr (h.paired.back.pending_eq_zero hw)

/-! ## Ledgers -/

theorem passed_read {file : File} {data : List UInt8} (hr : a.file.Reads data file) :
    (a.withFile file).passed = a.passed := by
  rw [passed, passed, ← hr.sent]
  rfl

theorem passed_flush (a : Half) : a.flush.2.passed = a.passed := by
  obtain ⟨data, hw, hwin, -⟩ := a.session.staging.flush_writes a.file
  calc a.flush.2.passed = (a.file.sent ++ data) ++ a.flush.2.session.staging.window := by
        rw [← hw.sent]; rfl
    _ = a.passed := by rw [passed, hwin, List.append_assoc]; rfl

theorem passed_takeError (a : Half) : a.takeError.2.passed = a.passed :=
  passed_read a.file.takeError_reads

theorem Ledger.read {file : File} {data : List UInt8} (h : Ledger a b)
    (hr : a.file.Reads data file) (hwin : b.session.staging.window = [])
    (fits : data.length ≤ b.session.staging.buffer.length) :
    Ledger (a.withFile file) (b.stage data fits) := by
  obtain ⟨hsound, hrec⟩ := hr.received h.sound
  refine ⟨hsound, ?_⟩
  calc file.received = a.file.received ++ data := hrec
    _ = b.file.sent ++ data := by rw [h.bytes, passed, hwin, List.append_nil]
    _ = (b.stage data fits).passed := by rw [passed, stage, Staging.window_stage]

theorem Ledger.read_nothing {file : File} (h : Ledger a b) (hr : a.file.Reads [] file) :
    Ledger (a.withFile file) b := by
  obtain ⟨hsound, hrec⟩ := hr.received h.sound
  refine ⟨hsound, ?_⟩
  rw [List.append_nil] at hrec
  exact hrec.trans h.bytes

/-- Reading from a half leaves the bytes on their way to it alone, and so does writing to it with
those on their way from it (`Ledger.flush_back`): no file has its two directions mixed up. -/
theorem Ledger.read_back {file : File} {data : List UInt8} (h : Ledger b a)
    (hr : a.file.Reads data file) : Ledger b (a.withFile file) :=
  ⟨h.sound, h.bytes.trans (passed_read hr).symm⟩

theorem Ledger.flush (h : Ledger a b) : Ledger a b.flush.2 :=
  ⟨h.sound, h.bytes.trans (passed_flush b).symm⟩

theorem Ledger.flush_back (h : Ledger b a) : Ledger b.flush.2 a := by
  obtain ⟨data, hw, -, -⟩ := b.session.staging.flush_writes b.file
  refine ⟨hw.sound h.sound, ?_⟩
  exact hw.received.trans h.bytes

theorem Ledger.of_same (h : Ledger a b) (ha : a'.file = a.file) (hb : b'.file = b.file)
    (hwin : b'.session.staging.window = b.session.staging.window) : Ledger a' b' :=
  ⟨ha ▸ h.sound, by rw [ha, passed, hb, hwin]; exact h.bytes⟩

/-! ## Reading and flushing a linked half -/

theorem Linked.read_nothing {file : File} (h : Linked a b) (hr : a.file.Reads [] file) :
    Linked (a.withFile file) b :=
  ⟨h.paired, h.there.read_nothing hr, h.back.read_back hr⟩

theorem Linked.takeError (h : Linked a b) : Linked a.takeError.2 b :=
  h.read_nothing a.file.takeError_reads

theorem flush_complete_iff : a.flush.1 = .complete ↔ a.flush.2.session.pending = 0 :=
  a.session.staging.flush_complete_iff a.file

theorem pending_of_flush (h : a.flush.1 ≠ .complete) : 0 < a.flush.2.session.pending :=
  Nat.pos_of_ne_zero (mt flush_complete_iff.mpr h)

/-- A flush that leaves bytes waiting changes nothing that the flags show: the half was blocked
before, and it is blocked still. -/
theorem Linked.flush (h : Linked a b) (hpend : 0 < a.flush.2.session.pending)
    (hw : a.session.awaitingWritable = true) : Linked a.flush.2 b := by
  have hpos := h.paired.there.settled.mp hw
  exact {
    paired := h.paired.restage (iff_of_true hpend hpos) Iff.rfl
    there := h.there.flush_back
    back := h.back.flush }

end Half

/-! ## The handlers keep the invariant -/

open Half

/-- Both halves are what they were; they are linked, unless the peer is doomed, and `self` can go on
alone then. -/
structure Outcome.Keeps (a b : Half) (r : Outcome) : Prop where
  self : a.Alike r.self
  peer : b.Alike r.peer
  linked : r.doomed ≠ some .peer → r.self.Linked r.peer
  fit : r.self.Fit

namespace Outcome

variable {a b : Half} {r : Outcome}

theorem Keeps.of_linked (hself : a.Alike r.self) (hpeer : b.Alike r.peer)
    (h : r.self.Linked r.peer) : r.Keeps a b :=
  ⟨hself, hpeer, fun _ => h, h.fit⟩

/-- What a handler keeps of an outcome was kept from the start. -/
theorem Keeps.trans {r' : Outcome} (h : r.Keeps a b) (h' : r'.Keeps r.self r.peer) :
    r'.Keeps a b :=
  ⟨h.self.trans h'.self, h.peer.trans h'.peer, h'.linked, h'.fit⟩

theorem Keeps.linked_of_none (h : r.Keeps a b) (hd : r.doomed = none) : r.self.Linked r.peer := by
  refine h.linked ?_
  rw [hd]
  exact Option.some_ne_none _ |>.symm

theorem Keeps.linked_of_self (h : r.Keeps a b) (hd : r.doomed = some .self) :
    r.self.Linked r.peer := by
  refine h.linked ?_
  rw [hd]
  decide

theorem Keeps.next (h : r.Keeps a b) (called : Bool) {handler : Half → Half → Outcome}
    (hh : ∀ a b, Linked a b → (handler a b).Keeps a b) : (r.next called handler).Keeps a b := by
  unfold Outcome.next
  split
  · next hcond =>
    simp only [Bool.and_eq_true, Option.isNone_iff_eq_none] at hcond
    exact h.trans (hh _ _ (h.linked_of_none hcond.1))
  · exact h

end Outcome

namespace Half

variable {a b : Half}

theorem keeps_onError (h : Linked a b) : (onError a b).Keeps a b :=
  .of_linked (alike_takeError a) (.refl b) h.takeError

/-- Both ledgers close after bytes were read, staged and flushed as far as they go. Whether the
flush was complete makes no difference here, only for the flags. -/
theorem Linked.relayed_ledgers {file : File} {data : List UInt8} (h : Linked a b)
    (hread : a.session.awaitingReadable = true) (hr : a.file.Reads data file)
    (fits : data.length ≤ b.session.staging.buffer.length) :
    Ledger (a.withFile file) (b.stage data fits).flush.2
      ∧ Ledger (b.stage data fits).flush.2 (a.withFile file) := by
  have hback : Ledger (b.stage data fits) (a.withFile file) :=
    (h.back.read_back hr).of_same rfl rfl rfl
  exact ⟨(h.there.read hr (h.window_of_reading hread) fits).flush, hback.flush_back⟩

theorem Linked.relayed {file : File} {data : List UInt8} (h : Linked a b)
    (hread : a.session.awaitingReadable = true) (hr : a.file.Reads data file)
    (fits : data.length ≤ b.session.staging.buffer.length)
    (hfl : (b.stage data fits).flush.1 = .complete) :
    Linked (a.withFile file) (b.stage data fits).flush.2 := by
  obtain ⟨hthere, hback⟩ := h.relayed_ledgers hread hr fits
  have hidle : ¬ 0 < b.session.pending := by
    rw [window_eq_nil_iff.mp (h.window_of_reading hread)]
    exact Nat.lt_irrefl 0
  have hdone : ¬ 0 < (b.stage data fits).flush.2.session.pending := by
    rw [flush_complete_iff.mp hfl]
    exact Nat.lt_irrefl 0
  exact ⟨h.paired.restage Iff.rfl (iff_of_false hdone hidle), hthere, hback⟩

/-- One round of a relay that moved bytes, if the rounds after it keep the invariant. It is apart
from `keeps_relay` because it is the one case in which the halves stay linked, come to be blocked or
are parted, all depending on the flush. -/
theorem keeps_relayed {file : File} {data : List UInt8} {rounds : Nat} (h : Linked a b)
    (hread : a.session.awaitingReadable = true) (hr : a.file.Reads data file)
    (fits : data.length ≤ b.session.staging.buffer.length)
    (hrest : Linked (a.withFile file) (b.stage data fits).flush.2 →
      (relay (a.withFile file) (b.stage data fits).flush.2 rounds).Keeps (a.withFile file)
        (b.stage data fits).flush.2) :
    Outcome.Keeps a b (match (b.stage data fits).flush.1 with
      | .complete => relay (a.withFile file) (b.stage data fits).flush.2 rounds
      | .wouldBlock =>
        ⟨none, (a.withFile file).set fun s => { s with awaitingReadable := false },
          (b.stage data fits).flush.2.set fun s => { s with awaitingWritable := true }⟩
      | .failed _ => ⟨some .peer, a.withFile file, (b.stage data fits).flush.2⟩) := by
  have hself : a.Alike (a.withFile file) := alike_withFile hr.used
  have hpeer : b.Alike (b.stage data fits).flush.2 :=
    (alike_stage b data fits).trans (alike_flush _)
  obtain ⟨hthere, hback⟩ := h.relayed_ledgers hread hr fits
  split
  · next hfl =>
    have hk := hrest (h.relayed hread hr fits hfl)
    exact ⟨hself.trans hk.self, hpeer.trans hk.peer, hk.linked, hk.fit⟩
  · next hfl =>
    have hpend := pending_of_flush (a := b.stage data fits) (by rw [hfl]; exact nofun)
    refine .of_linked (hself.of_same rfl rfl rfl rfl rfl)
      (hpeer.of_same rfl rfl rfl rfl rfl) ?_
    exact {
      paired := h.paired.block hread hpend
      there := hthere.of_same rfl rfl rfl
      back := hback.of_same rfl rfl rfl }
  · exact ⟨hself, hpeer, fun hd => absurd rfl hd, ⟨h.paired.there.fit, hthere.sound⟩⟩

theorem keeps_relay (rounds : Nat) (h : Linked a b) (hread : a.session.awaitingReadable = true) :
    (relay a b rounds).Keeps a b := by
  induction rounds generalizing a b with
  | zero => exact .of_linked (.refl a) (.refl b) h
  | succ rounds ih =>
    have hwin := h.window_of_reading hread
    have hsome := File.readSome_reads a.file b.session.staging.buffer.length
    rw [relay]
    split
    · next file hr =>
      rw [hr] at hsome
      exact .of_linked (alike_withFile hsome.used) (.refl b) (h.read_nothing hsome)
    · next file hr =>
      rw [hr] at hsome
      exact .of_linked (alike_withFile hsome.used) (.refl b) (h.read_nothing hsome)
    · next e file hr =>
      rw [hr] at hsome
      exact .of_linked (alike_withFile hsome.used) (.refl b) (h.read_nothing hsome)
    · next data file hr =>
      rw [hr] at hsome
      have fits := length_readSome_le _ _ hr
      exact keeps_relayed h hread hsome fits fun hb => ih hb hread

theorem keeps_onReadable (rounds : Nat) (h : Linked a b) : (onReadable rounds a b).Keeps a b := by
  unfold onReadable
  split
  · next hread => exact keeps_relay rounds h hread
  · exact .of_linked (.refl a) (.refl b) h

theorem keeps_onConnected (h : Linked a b) (hc : a.session.awaitingConnect = true) :
    (onConnected a b).Keeps a b := by
  have ht := h.takeError
  unfold onConnected
  dsimp only
  split
  · refine .of_linked ((alike_takeError a).of_same rfl rfl rfl rfl rfl) (alike_resume b) ?_
    exact {
      paired := h.paired.connect hc
      there := ht.there.of_same rfl rfl rfl
      back := ht.back.of_same rfl rfl rfl }
  · exact .of_linked (alike_takeError a) (.refl b) ht

theorem keeps_onUnblocked (h : Linked a b) (hw : a.session.awaitingWritable = true) :
    (onUnblocked a b).Keeps a b := by
  have hcomplete := flush_complete_iff (a := a)
  unfold onUnblocked
  dsimp only
  split
  · next hfl =>
    have hpend := pending_of_flush (a := a) (by rw [hfl]; exact nofun)
    exact .of_linked (alike_flush a) (.refl b) (h.flush hpend hw)
  · next e hfl =>
    have hpend := pending_of_flush (a := a) (by rw [hfl]; exact nofun)
    exact .of_linked (alike_flush a) (.refl b) (h.flush hpend hw)
  · next hfl =>
    -- all is written, so that nothing is lost when the window is closed
    have hnil := window_eq_nil_iff.mpr (hcomplete.mp hfl)
    rw [if_neg (by rw [h.paired.there.stays]; exact Bool.false_ne_true)]
    refine .of_linked ((alike_flush a).of_same rfl rfl rfl rfl rfl) (alike_resume b) ?_
    exact {
      paired := h.paired.unblock hw (Nat.sub_self 0)
      there := h.there.flush_back.of_same rfl rfl rfl
      back := h.back.flush.of_same rfl rfl (by rw [hnil]; exact Staging.window_clear _) }

theorem keeps_onWritable (h : Linked a b) : (onWritable a b).Keeps a b := by
  unfold onWritable
  split
  · next hc => exact keeps_onConnected h hc
  · split
    · next hw => exact keeps_onUnblocked h hw
    · exact .of_linked (.refl a) (.refl b) h

/-- An event keeps a pair linked, or leaves the side that is not doomed fit to be alone. This is the
one step that all invariants of pairs come from. -/
theorem keeps_onEvent (rounds : Nat) (e : Event) (h : Linked a b) :
    (onEvent rounds e a b).Keeps a b := by
  have h0 : (⟨none, a, b⟩ : Outcome).Keeps a b := .of_linked (.refl a) (.refl b) h
  exact ((h0.next _ fun _ _ => keeps_onError).next _ fun _ _ => keeps_onReadable rounds).next _
    fun _ _ => keeps_onWritable

/-! ## Draining -/

theorem Draining.takeError (h : Draining a) : Draining a.takeError.2 :=
  ⟨h.session, (a.file.takeError_reads.received h.sound).1⟩

theorem Draining.flush (h : Draining a) (hfl : a.flush.1 = .wouldBlock) : Draining a.flush.2 := by
  obtain ⟨data, hw, -, -⟩ := a.session.staging.flush_writes a.file
  have hpend := pending_of_flush (a := a) (by rw [hfl]; exact nofun)
  exact ⟨⟨h.session.closing, h.session.blocked, hpend, h.session.paused, h.session.connected⟩,
    hw.sound h.sound⟩

/-- A half that is left alone goes on draining until it is doomed, and no byte is lost meanwhile. -/
theorem draining_drain (e : Event) (h : Draining a) :
    a.Alike (drain e a).2 ∧ (drain e a).2.passed = a.passed
      ∧ ((drain e a).1 = false → Draining (drain e a).2) := by
  -- taking the error first changes nothing of this
  obtain ⟨hlike, hpassed, hdrain⟩ : a.Alike (if e.error then a.takeError else (none, a)).2
      ∧ (if e.error then a.takeError else (none, a)).2.passed = a.passed
      ∧ Draining (if e.error then a.takeError else (none, a)).2 := by
    split
    · exact ⟨alike_takeError a, passed_takeError a, h.takeError⟩
    · exact ⟨.refl a, rfl, h⟩
  unfold drain
  dsimp only
  generalize (if e.error then a.takeError else (none, a)) = r at hlike hpassed hdrain ⊢
  split
  · exact ⟨hlike, hpassed, nofun⟩
  · split
    · refine ⟨hlike.trans (alike_flush _), (passed_flush _).trans hpassed, ?_⟩
      intro hfl
      exact hdrain.flush (by simpa using hfl)
    · exact ⟨hlike, hpassed, fun _ => hdrain⟩

theorem interest_drain (e : Event) (a : Half) :
    (drain e a).2.session.interest = a.session.interest := by
  unfold drain
  dsimp only
  split <;> split <;> (try split) <;> rfl

end Half

end Sluice
