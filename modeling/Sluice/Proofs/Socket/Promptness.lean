import Sluice.Proofs.Socket.Ledger
import Sluice.Readiness.Scan

/-!
# Calls on files that are ready

A stream may answer that a call would have to wait although it is ready. One that never does so is
prompt (`Stream.Prompt`). A prompt file that is readable gives bytes, its end or an error to the
next read (`File.readSome_prompt`), and one that is writable takes a byte of the next flush or fails
(`File.flush_prompt`).
-/

namespace Sluice

namespace IoError

theorem errno_of_wouldBlock {e : Errno} (h : (IoError.os e).kind = .wouldBlock) :
    e = .tryAgain := by
  rw [kind_os, Kind.ofErrno] at h
  split at h
  · cases h
  · split at h
    · assumption
    · repeat' split at h
      all_goals cases h

end IoError

/-! ## Streams -/

/-- No answer in store says that a call would have to wait. A stream with such an answer says that
it is ready and then is not, and a poller could report it for ever. -/
structure Stream.Prompt (s : Stream) : Prop where
  reads : .wouldBlock ∉ s.reads ∧ .failed .tryAgain ∉ s.reads
  writes : .wouldBlock ∉ s.writes ∧ .failed .tryAgain ∉ s.writes

namespace Stream

variable {s s' : Stream} {n : Nat} {data : List UInt8}

instance (s : Stream) : Decidable s.Prompt :=
  decidable_of_iff ((.wouldBlock ∉ s.reads ∧ .failed .tryAgain ∉ s.reads)
      ∧ (.wouldBlock ∉ s.writes ∧ .failed .tryAgain ∉ s.writes))
    ⟨fun h => ⟨h.1, h.2⟩, fun h => ⟨h.reads, h.writes⟩⟩

theorem Prompt.used (h : s.Prompt) (hu : s.Used s') : s'.Prompt where
  reads := ⟨fun hm => h.reads.1 (hu.reads.subset hm), fun hm => h.reads.2 (hu.reads.subset hm)⟩
  writes := ⟨fun hm => h.writes.1 (hu.writes.subset hm), fun hm => h.writes.2 (hu.writes.subset hm)⟩

theorem kind_obstacle_ne_wouldBlock {e : Errno} (h : s.obstacle? = some e) :
    (IoError.os e).kind ≠ .wouldBlock := by
  unfold obstacle? at h
  split at h
  · cases h; decide
  · split at h <;> cases h
    decide

theorem readFreely_prompt {e : IoError} (hready : s.conditions.readable = true)
    (hfault : s.nearFault = none) (h : (s.readFreely n).1 = .error e) : e.kind ≠ .wouldBlock := by
  unfold readFreely at h
  split at h
  · next e' he =>
    cases h
    exact kind_obstacle_ne_wouldBlock he
  · rw [hfault] at h
    split at h
    · next hempty =>
      have hshut : s.inbound.shut = true := by
        simpa [conditions, hempty] using hready
      rw [if_pos hshut] at h
      cases h
    · cases h

theorem read_prompt {e : IoError} (hp : s.Prompt) (hready : s.conditions.readable = true)
    (hfault : s.nearFault = none) (h : (s.read n).1 = .error e) : e.kind ≠ .wouldBlock := by
  obtain ⟨hwait, hagain⟩ := hp.reads
  unfold read at h
  split at h
  · exact readFreely_prompt hready hfault h
  · cases h
    decide
  · next rest hstore =>
    rw [hstore] at hwait
    exact absurd (List.mem_cons_self ..) hwait
  · next e' rest hstore =>
    cases h
    intro hk
    rw [IoError.errno_of_wouldBlock hk] at hstore
    rw [hstore] at hagain
    exact hagain (List.mem_cons_self ..)
  · next limit rest _ => exact readFreely_prompt (s := { s with reads := rest }) hready hfault h

/-- A call that read nothing leaves a readable stream readable. It is what carries readiness through
the calls that are interrupted, up to the one that is answered. -/
theorem Reads.readable (h : s.Reads [] s') (hready : s.conditions.readable = true) :
    s'.conditions.readable = true := by
  have hqueued : s'.inbound.queued = s.inbound.queued := h.queued.symm
  have hempty : s'.inbound.isEmpty = s.inbound.isEmpty := by
    rw [Bool.eq_iff_iff, Lane.isEmpty_iff, Lane.isEmpty_iff, hqueued]
  rw [conditions, hempty, h.shut]
  exact hready

theorem readSome_prompt (hp : s.Prompt) (hready : s.conditions.readable = true)
    (hfault : s.nearFault = none) : (readSome s n).1 ≠ .wouldBlock := by
  fun_induction readSome s n with
  | case1 s r hi ih =>
    obtain ⟨e, he, -⟩ := interruptedCall_iff.mp hi
    have hr : s.Reads (readData r.1) r.2 := read_reads s n
    rw [he] at hr
    refine ih (hp.used hr.used) (hr.readable hready) ?_
    rcases hr.fault with hsame | hnone
    · exact hsame.trans hfault
    · exact hnone
  | case2 s r hi =>
    intro h
    cases hr : r.1 with
    | ok data =>
      rw [hr] at h
      cases data <;> cases h
    | error e =>
      have hk := read_prompt hp hready hfault hr
      rw [hr, ReadOutcome.ofAnswer, if_neg hk] at h
      cases h

theorem writeFreely_prompt {e : IoError} (hjam : s.jammed = false)
    (h : (s.writeFreely data).1 = .error e) : e.kind ≠ .wouldBlock := by
  unfold writeFreely at h
  split at h
  · next e' he =>
    cases h
    exact kind_obstacle_ne_wouldBlock he
  · split at h
    · cases h
      decide
    · rw [hjam] at h
      cases h

theorem write_prompt {e : IoError} (hp : s.Prompt) (hjam : s.jammed = false)
    (h : (s.write data).1 = .error e) : e.kind ≠ .wouldBlock := by
  obtain ⟨hwait, hagain⟩ := hp.writes
  unfold write at h
  split at h
  · exact writeFreely_prompt hjam h
  · cases h
    decide
  · next rest hstore =>
    rw [hstore] at hwait
    exact absurd (List.mem_cons_self ..) hwait
  · next e' rest hstore =>
    cases h
    intro hk
    rw [IoError.errno_of_wouldBlock hk] at hstore
    rw [hstore] at hagain
    exact hagain (List.mem_cons_self ..)
  · next limit rest _ => exact writeFreely_prompt (s := { s with writes := rest }) hjam h

theorem writeSome_prompt {hne : data ≠ []} (hp : s.Prompt) (hjam : s.jammed = false) :
    (writeSome s data hne).1 ≠ .wouldBlock := by
  fun_induction writeSome s data hne with
  | case1 s r hi ih =>
    have hw : s.Writes (data.take (writeCount r.1)) r.2 := write_writes s data
    have hrest := congrArg Stream.jammed hw.rest
    exact ih (hp.used hw.used) (hrest.trans hjam)
  | case2 s r hi =>
    intro h
    cases hr : r.1 with
    | ok n =>
      rw [hr] at h
      cases n <;> cases h
    | error e =>
      have hk := write_prompt hp hjam hr
      rw [hr, WriteOutcome.ofAnswer, if_neg hk] at h
      cases h

end Stream

/-! ## Files -/

namespace File

def ready : File → Conditions
  | .stream s => s.conditions
  | .device _ => ⟨true, true, false⟩

def fault? : File → Option Errno
  | .stream s => s.nearFault
  | .device _ => none

def Prompt : File → Prop
  | .stream s => s.Prompt
  | .device _ => True

instance : (f : File) → Decidable f.Prompt
  | .stream s => inferInstanceAs (Decidable s.Prompt)
  | .device _ => .isTrue trivial

variable {f : File} {n : Nat}

theorem scanned_status (fd : Descriptor) (h : f.isOpen = true) : f.status.scanned fd = f.ready := by
  cases f with
  | stream s =>
    have ho : s.nearOpen = true := h
    rw [status, if_pos ho]
    rfl
  | device b =>
    have ho : b = true := h
    rw [status, if_pos ho]
    rfl

theorem fault?_eq_none (h : f.takeError.1 = none) : f.fault? = none := by
  cases f with
  | stream s =>
    rw [takeError, Stream.takeError] at h
    split at h
    · cases h
    · exact Option.map_eq_none_iff.mp h
  | device b => rfl

theorem takeError_eq (h : f.takeError.1 = none) : f.takeError.2 = f := by
  have hfault := fault?_eq_none h
  cases f with
  | stream s =>
    have hnone : s.nearFault = none := hfault
    have hstream : s.takeError.2 = s := by
      unfold Stream.takeError
      split
      · rfl
      · rw [← hnone]
    rw [takeError, hstream]
  | device b => rfl

/-- A pending error is a condition that is always reported, whatever was asked for. -/
theorem ready_error (h : f.fault? ≠ none) : f.ready.error = true := by
  cases f with
  | stream s =>
    have hsome : s.nearFault.isSome = true := Option.isSome_iff_ne_none.mpr h
    rw [ready, Stream.conditions, hsome, Bool.true_or]
  | device b => exact absurd rfl h

/-- Asking for an error fails for another reason than that a connection is still being made. -/
theorem takeError_ne_inProgress (h : f.fault? = none) : f.takeError.1 ≠ some (.os .inProgress) := by
  cases f with
  | stream s =>
    have hnone : s.nearFault = none := h
    rw [takeError, Stream.takeError]
    split
    · next e he =>
      intro heq
      cases heq
      unfold Stream.obstacle? at he
      split at he
      · cases he
      · split at he <;> cases he
    · rw [hnone]
      exact nofun
  | device b => cases b <;> decide

/-- Reading a file that is readable is not told to wait. A pending error is excluded, because the
first call takes it away and the file may not be readable without it. -/
theorem readSome_prompt (hp : f.Prompt) (hready : f.ready.readable = true)
    (hfault : f.fault? = none) :
    (readSome f n).1 ≠ .wouldBlock := by
  cases f with
  | stream s =>
    rw [readSome_stream]
    exact Stream.readSome_prompt hp hready hfault
  | device b =>
    rw [readSome_device]
    cases b <;> decide

theorem writeSome_prompt {data : List UInt8} {hne : data ≠ []} (hp : f.Prompt)
    (hready : f.ready.writable = true) : (writeSome f data hne).1 ≠ .wouldBlock := by
  cases f with
  | stream s =>
    rw [writeSome_stream]
    have hjam : s.jammed = false := by simpa [ready, Stream.conditions] using hready
    exact Stream.writeSome_prompt hp hjam
  | device b =>
    rw [writeSome_device]
    cases b <;> decide

/-- Flushing to a file that is writable writes at least a byte, or fails. That there is anything to
write has to be known, since a flush of an empty window is complete without a call. -/
theorem flush_prompt (st : Staging) (hp : f.Prompt) (hready : f.ready.writable = true)
    (hpos : 0 < st.pending) :
    (∃ e, (st.flush f).1 = .failed e) ∨ f.sent.length < (st.flush f).2.2.sent.length := by
  have hlt : st.offset < st.len := by
    rw [Staging.pending] at hpos
    omega
  have hwrites := writeSome_writes f st.window (Staging.window_ne_nil hlt)
  have hwait : (writeSome f st.window (Staging.window_ne_nil hlt)).1 ≠ .wouldBlock :=
    writeSome_prompt hp hready
  rw [Staging.flush, dif_pos hlt]
  split
  · next m hm f' hw =>
    rw [hw] at hwrites
    obtain ⟨data, hrest, -, -⟩ := (st.advance m).flush_writes f'
    refine Or.inr ?_
    have hwindow : 0 < (st.window.take m).length := by
      rw [List.length_take, Staging.length_window]
      omega
    have hsent : f'.sent = f.sent ++ st.window.take m := hwrites.sent
    rw [hrest.sent, hsent, List.length_append, List.length_append]
    omega
  · next f' hw =>
    rw [hw] at hwait
    exact absurd rfl hwait
  · next e f' hw => exact Or.inl ⟨e, rfl⟩

end File

end Sluice
