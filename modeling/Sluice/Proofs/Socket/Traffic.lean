import Mathlib.Data.List.Infix
import Sluice.Session.Staging
import Sluice.Socket.Host

/-!
# Traffic at the near end

What one transfer does to a connection. A transfer may take several calls, some of them interrupted,
and moves some bytes, possibly none: `Stream.Reads s data s'` and `Stream.Writes s data s'` say that
`data` was moved and that everything on the other side of the stream stays as it was. Reading takes
the bytes off the front of the incoming lane, so that what was read and what is queued are together
what was sent (`Lane.Sound`); writing puts them behind the outgoing lane.

A read or a write fails only for a reason that was there before it (`readSome_failed`,
`writeSome_failed`).
-/

namespace Sluice

/-! ## Lanes -/

namespace Lane

def taken (l : Lane) : List UInt8 :=
  l.written.take (l.written.length - l.queued.length)

def Sound (l : Lane) : Prop :=
  l.queued <:+ l.written

variable {l l' : Lane} {data : List UInt8}

theorem taken_of_written {front : List UInt8} (h : l.written = front ++ l.queued) :
    l.taken = front := by
  rw [taken, h, List.length_append, Nat.add_sub_cancel, List.take_left]

theorem Sound.written_eq (h : l.Sound) : l.written = l.taken ++ l.queued := by
  obtain ⟨front, hfront⟩ := h
  rw [taken_of_written hfront.symm, hfront]

/-- Taking bytes off the front of the queue adds them to what was taken. What was taken is not kept
anywhere: it is what was written less what is queued. -/
theorem Sound.taken_append (h : l.Sound) (hq : l.queued = data ++ l'.queued)
    (hh : l'.history = l.history) : l'.Sound ∧ l'.taken = l.taken ++ data := by
  have hw : l'.written = (l.taken ++ data) ++ l'.queued := by
    calc l'.written = l.written := by rw [written, written, hh]
      _ = l.taken ++ l.queued := h.written_eq
      _ = (l.taken ++ data) ++ l'.queued := by rw [hq, List.append_assoc]
  exact ⟨⟨_, hw.symm⟩, taken_of_written hw⟩

theorem isEmpty_iff : l.isEmpty = true ↔ l.queued = [] :=
  Fifo.isEmpty_iff _

end Lane

/-! ## Reading -/

theorem readSome_ne_nil {σ : Type} [ByteStream σ] {s : σ} {n : Nat} {data : List UInt8}
    (h : (readSome s n).1 = .done data) : data ≠ [] := by
  fun_induction readSome s n with
  | case1 s r hi ih => exact ih h
  | case2 s r hi =>
    rintro rfl
    unfold ReadOutcome.ofAnswer at h
    split at h
    · split at h
      · cases h
      · next hne =>
        cases h
        exact hne rfl
    · split at h <;> cases h

def ReadOutcome.data : ReadOutcome → List UInt8
  | .done data => data
  | _ => []

namespace Stream

/-- Reading has moved `data` from `s`, which is `s'` then. All fields that a read may change are
listed, and of the others it is said that they are the same. -/
structure Reads (s : Stream) (data : List UInt8) (s' : Stream) : Prop where
  queued : s.inbound.queued = data ++ s'.inbound.queued
  history : s'.inbound.history = s.inbound.history
  shut : s'.inbound.shut = s.inbound.shut
  fault : s'.nearFault = s.nearFault ∨ s'.nearFault = none
  reads : s'.reads <:+ s.reads
  rest : { s' with inbound := s.inbound, nearFault := s.nearFault, reads := s.reads } = s

variable {s s' s'' : Stream} {data data' : List UInt8} {n : Nat}

theorem Reads.refl (s : Stream) : s.Reads [] s :=
  ⟨rfl, rfl, rfl, Or.inl rfl, List.suffix_rfl, rfl⟩

theorem Reads.trans (h : s.Reads data s') (h' : s'.Reads data' s'') :
    s.Reads (data ++ data') s'' where
  queued := by rw [h.queued, h'.queued, List.append_assoc]
  history := h'.history.trans h.history
  shut := h'.shut.trans h.shut
  fault := by
    rcases h'.fault with h2 | h2
    · rw [h2]; exact h.fault
    · exact Or.inr h2
  reads := h'.reads.trans h.reads
  rest := by
    have h1 := h.rest
    rw [← h'.rest] at h1
    exact h1

theorem Reads.outbound (h : s.Reads data s') : s'.outbound = s.outbound := by
  have h1 := congrArg Stream.outbound h.rest
  exact h1

theorem Reads.nearOpen (h : s.Reads data s') : s'.nearOpen = s.nearOpen := by
  have h1 := congrArg Stream.nearOpen h.rest
  exact h1

def readData : Except IoError (List UInt8) → List UInt8
  | .ok data => data
  | .error _ => []

theorem readFreely_reads (s : Stream) (n : Nat) :
    s.Reads (readData (s.readFreely n).1) (s.readFreely n).2 := by
  unfold readFreely
  split
  · exact Reads.refl s
  · split
    · split
      · exact ⟨rfl, rfl, rfl, Or.inr rfl, List.suffix_rfl, rfl⟩
      · split <;> exact Reads.refl s
    · refine ⟨?_, rfl, rfl, Or.inl rfl, List.suffix_rfl, rfl⟩
      simp only [readData, Lane.read_fst, Lane.queued_read_snd, List.take_append_drop]

theorem reads_store {d : Disturbance} {rest : List Disturbance} (h : s.reads = d :: rest) :
    s.Reads [] { s with reads := rest } :=
  ⟨rfl, rfl, rfl, Or.inl rfl, h ▸ List.suffix_cons .., rfl⟩

theorem read_reads (s : Stream) (n : Nat) : s.Reads (readData (s.read n).1) (s.read n).2 := by
  unfold read
  split
  · exact readFreely_reads s n
  · next h => exact reads_store h
  · next h => exact reads_store h
  · next h => exact reads_store h
  · next h => exact (reads_store h).trans (readFreely_reads _ _)

theorem readSome_reads (s : Stream) (n : Nat) :
    s.Reads (readSome s n).1.data (readSome s n).2 := by
  fun_induction readSome s n with
  | case1 s r hi ih =>
    obtain ⟨e, he, -⟩ := interruptedCall_iff.mp hi
    have h1 : s.Reads (readData r.1) r.2 := read_reads s n
    rw [he] at h1
    exact h1.trans ih
  | case2 s r hi =>
    have h1 : s.Reads (readData r.1) r.2 := read_reads s n
    have hdata : (ReadOutcome.ofAnswer r.1).data = readData r.1 := by
      cases hr : r.1 with
      | ok data =>
        unfold ReadOutcome.ofAnswer
        cases data <;> rfl
      | error e =>
        unfold ReadOutcome.ofAnswer
        dsimp only
        split <;> rfl
    rw [hdata]
    exact h1

/-! ### Why a read gives no bytes -/

/-- Something about the stream makes its reads fail. -/
def ReadFault (s : Stream) : Prop :=
  s.obstacle? ≠ none ∨ s.nearFault ≠ none ∨ ∃ e, .failed e ∈ s.reads

/-- A fault that shows after a read was there before, since a read takes answers out of the store
and puts none in. -/
theorem Reads.readFault (h : s.Reads data s') (hf : s'.ReadFault) : s.ReadFault := by
  have hrest := h.rest
  rcases hf with ho | hn | ⟨e, he⟩
  · refine Or.inl ?_
    rw [← hrest]
    exact ho
  · rcases h.fault with h2 | h2
    · exact Or.inr (Or.inl (h2 ▸ hn))
    · exact absurd h2 hn
  · exact Or.inr (Or.inr ⟨e, h.reads.subset he⟩)

theorem readFreely_ended (hn : 0 < n) (h : (s.readFreely n).1 = .ok []) :
    s.inbound.queued = [] ∧ s.inbound.shut = true := by
  unfold readFreely at h
  split at h
  · cases h
  · split at h
    · next hq =>
      refine ⟨Lane.isEmpty_iff.mp hq, ?_⟩
      split at h
      · cases h
      · split at h
        · next hs => exact hs
        · cases h
    · next hq =>
      have htake := Except.ok.inj h
      rw [Lane.read_fst, List.take_eq_nil_iff] at htake
      rcases htake with h0 | hnil
      · omega
      · exact absurd (Lane.isEmpty_iff.mpr hnil) hq

theorem readFreely_failed {e : IoError} (h : (s.readFreely n).1 = .error e)
    (hk : e.kind ≠ .wouldBlock) : s.obstacle? ≠ none ∨ s.nearFault ≠ none := by
  unfold readFreely at h
  split at h
  · next e' he => exact Or.inl (by rw [he]; exact Option.some_ne_none _)
  · split at h
    · split at h
      · next e' he => exact Or.inr (by rw [he]; exact Option.some_ne_none _)
      · split at h
        · cases h
        · cases h; exact absurd rfl hk
    · cases h

theorem read_ended (hn : 0 < n) (h : (s.read n).1 = .ok []) :
    s.inbound.queued = [] ∧ s.inbound.shut = true := by
  unfold read at h
  split at h
  · exact readFreely_ended hn h
  · cases h
  · cases h
  · cases h
  · next limit rest _ =>
    exact readFreely_ended (s := { s with reads := rest }) (by omega) h

theorem read_failed {e : IoError} (h : (s.read n).1 = .error e)
    (hk : e.kind ≠ .wouldBlock) (hi : e.kind ≠ .interrupted) : s.ReadFault := by
  unfold read at h
  split at h
  · rcases readFreely_failed h hk with ho | hf
    · exact Or.inl ho
    · exact Or.inr (Or.inl hf)
  · cases h; exact absurd rfl hi
  · cases h; exact absurd rfl hk
  · next e' rest hr => exact Or.inr (Or.inr ⟨e', by rw [hr]; exact List.mem_cons_self ..⟩)
  · rcases readFreely_failed h hk with ho | hf
    · exact Or.inl ho
    · exact Or.inr (Or.inl hf)

/-- The end of a stream is met when nothing is queued and its far end has stopped sending. A pending
error comes first, and a read of no bytes would say nothing about the end. -/
theorem readSome_ended (hn : 0 < n) (h : (readSome s n).1 = .endOfStream) :
    (readSome s n).2.inbound.queued = [] ∧ s.inbound.shut = true := by
  fun_induction readSome s n with
  | case1 s r hi ih =>
    have h1 : s.Reads (readData r.1) r.2 := read_reads s n
    obtain ⟨hq, hs⟩ := ih h
    exact ⟨hq, h1.shut ▸ hs⟩
  | case2 s r hi =>
    have h1 : s.Reads (readData r.1) r.2 := read_reads s n
    have hnil : r.1 = .ok [] := by
      cases hr : r.1 with
      | ok data =>
        cases data with
        | nil => rfl
        | cons b rest => rw [hr] at h; cases h
      | error e =>
        rw [hr] at h
        unfold ReadOutcome.ofAnswer at h
        dsimp only at h
        split at h <;> cases h
    obtain ⟨hq, hs⟩ := read_ended hn hnil
    have hq' := h1.queued
    rw [hnil, hq] at hq'
    exact ⟨(List.append_eq_nil_iff.mp hq'.symm).2, hs⟩

theorem readSome_failed {e : IoError} (h : (readSome s n).1 = .failed e) : s.ReadFault := by
  fun_induction readSome s n with
  | case1 s r hi ih =>
    have h1 : s.Reads (readData r.1) r.2 := read_reads s n
    exact h1.readFault (ih h)
  | case2 s r hi =>
    cases hr : r.1 with
    | ok data =>
      rw [hr] at h
      cases data <;> cases h
    | error e' =>
      have hint : e'.kind ≠ .interrupted := fun hk =>
        hi (interruptedCall_iff.mpr ⟨e', hr, hk⟩)
      rw [hr] at h
      unfold ReadOutcome.ofAnswer at h
      dsimp only at h
      split at h
      · cases h
      · next hk => exact read_failed hr hk hint

/-! ## Writing -/

/-- Writing has moved `data` into `s`, which is `s'` then. -/
structure Writes (s : Stream) (data : List UInt8) (s' : Stream) : Prop where
  written : s'.outbound.written = s.outbound.written ++ data
  shut : s'.outbound.shut = s.outbound.shut
  writes : s'.writes <:+ s.writes
  rest : { s' with outbound := s.outbound, writes := s.writes } = s

theorem Writes.refl (s : Stream) : s.Writes [] s :=
  ⟨(List.append_nil _).symm, rfl, List.suffix_rfl, rfl⟩

theorem Writes.trans (h : s.Writes data s') (h' : s'.Writes data' s'') :
    s.Writes (data ++ data') s'' where
  written := by rw [h'.written, h.written, List.append_assoc]
  shut := h'.shut.trans h.shut
  writes := h'.writes.trans h.writes
  rest := by
    have h1 := h.rest
    rw [← h'.rest] at h1
    exact h1

theorem Writes.inbound (h : s.Writes data s') : s'.inbound = s.inbound := by
  have h1 := congrArg Stream.inbound h.rest
  exact h1

theorem Writes.nearOpen (h : s.Writes data s') : s'.nearOpen = s.nearOpen := by
  have h1 := congrArg Stream.nearOpen h.rest
  exact h1

def writeCount : Except IoError Nat → Nat
  | .ok n => n
  | .error _ => 0

theorem writeFreely_writes (s : Stream) (data : List UInt8) :
    s.Writes (data.take (writeCount (s.writeFreely data).1)) (s.writeFreely data).2 := by
  unfold writeFreely
  split
  · exact Writes.refl s
  · split
    · exact Writes.refl s
    · split
      · exact Writes.refl s
      · refine ⟨?_, rfl, List.suffix_rfl, rfl⟩
        rw [writeCount, List.take_length]
        exact Lane.written_write ..

theorem writes_store {d : Disturbance} {rest : List Disturbance} (h : s.writes = d :: rest) :
    s.Writes [] { s with writes := rest } :=
  ⟨(List.append_nil _).symm, rfl, h ▸ List.suffix_cons .., rfl⟩

theorem write_writes (s : Stream) (data : List UInt8) :
    s.Writes (data.take (writeCount (s.write data).1)) (s.write data).2 := by
  unfold write
  split
  · exact writeFreely_writes s data
  · next h => exact writes_store h
  · next h => exact writes_store h
  · next h => exact writes_store h
  · next limit rest h =>
    -- a short write offers less, and takes all that it is offered or nothing
    have hfree := writeFreely_writes { s with writes := rest } (data.take (limit + 1))
    have htake : (data.take (limit + 1)).take (writeCount
          (({ s with writes := rest } : Stream).writeFreely (data.take (limit + 1))).1)
        = data.take (writeCount
          (({ s with writes := rest } : Stream).writeFreely (data.take (limit + 1))).1) := by
      cases hr : (({ s with writes := rest } : Stream).writeFreely (data.take (limit + 1))).1 with
      | ok m =>
        have hm := writeFreely_ok hr
        rw [writeCount, List.take_take]
        rw [List.length_take] at hm
        congr 1
        omega
      | error e => rfl
    rw [htake] at hfree
    exact (writes_store h).trans hfree

end Stream

def WriteOutcome.count : WriteOutcome → Nat
  | .done n _ => n
  | _ => 0

namespace Stream

variable {s s' : Stream} {data : List UInt8}

theorem writeSome_writes (s : Stream) (data : List UInt8) (hne : data ≠ []) :
    s.Writes (data.take (writeSome s data hne).1.count) (writeSome s data hne).2 := by
  fun_induction writeSome s data hne with
  | case1 s r hi ih =>
    obtain ⟨e, he, -⟩ := interruptedCall_iff.mp hi
    have h1 : s.Writes (data.take (writeCount r.1)) r.2 := write_writes s data
    rw [he] at h1
    exact h1.trans ih
  | case2 s r hi =>
    have h1 : s.Writes (data.take (writeCount r.1)) r.2 := write_writes s data
    have hcount : (WriteOutcome.ofAnswer r.1).count = writeCount r.1 := by
      cases hr : r.1 with
      | ok n => cases n <;> rfl
      | error e =>
        unfold WriteOutcome.ofAnswer
        dsimp only
        split <;> rfl
    rw [hcount]
    exact h1

/-! ### Why a write fails -/

def WriteFault (s : Stream) : Prop :=
  s.obstacle? ≠ none ∨ s.outbound.shut = true ∨ ∃ e, .failed e ∈ s.writes

theorem Writes.writeFault (h : s.Writes data s') (hf : s'.WriteFault) : s.WriteFault := by
  have hrest := h.rest
  rcases hf with ho | hn | ⟨e, he⟩
  · refine Or.inl ?_
    rw [← hrest]
    exact ho
  · exact Or.inr (Or.inl (h.shut ▸ hn))
  · exact Or.inr (Or.inr ⟨e, h.writes.subset he⟩)

theorem writeFreely_failed {e : IoError} (h : (s.writeFreely data).1 = .error e)
    (hk : e.kind ≠ .wouldBlock) : s.obstacle? ≠ none ∨ s.outbound.shut = true := by
  unfold writeFreely at h
  split at h
  · next e' he => exact Or.inl (by rw [he]; exact Option.some_ne_none _)
  · split at h
    · next hs => exact Or.inr hs
    · split at h
      · cases h; exact absurd rfl hk
      · cases h

theorem write_failed {e : IoError} (h : (s.write data).1 = .error e)
    (hk : e.kind ≠ .wouldBlock) (hi : e.kind ≠ .interrupted) : s.WriteFault := by
  unfold write at h
  split at h
  · rcases writeFreely_failed h hk with ho | hf
    · exact Or.inl ho
    · exact Or.inr (Or.inl hf)
  · cases h; exact absurd rfl hi
  · cases h; exact absurd rfl hk
  · next e' rest hr => exact Or.inr (Or.inr ⟨e', by rw [hr]; exact List.mem_cons_self ..⟩)
  · rcases writeFreely_failed h hk with ho | hf
    · exact Or.inl ho
    · exact Or.inr (Or.inl hf)

theorem write_ne_zero (hne : data ≠ []) : (s.write data).1 ≠ .ok 0 := by
  have hfree (s : Stream) (data : List UInt8) (hne : data ≠ []) :
      (s.writeFreely data).1 ≠ .ok 0 := fun h =>
    hne (List.length_eq_zero_iff.mp (writeFreely_ok h).symm)
  unfold write
  split
  · exact hfree s data hne
  · intro h; cases h
  · intro h; cases h
  · intro h; cases h
  · exact hfree _ _ (by simp [hne])

theorem writeSome_failed {hne : data ≠ []} {e : IoError}
    (h : (writeSome s data hne).1 = .failed e) : s.WriteFault := by
  fun_induction writeSome s data hne with
  | case1 s r hi ih =>
    have h1 : s.Writes (data.take (writeCount r.1)) r.2 := write_writes s data
    exact h1.writeFault (ih h)
  | case2 s r hi =>
    cases hr : r.1 with
    | ok n =>
      rw [hr] at h
      cases n with
      | zero => exact absurd hr (write_ne_zero hne)
      | succ n => cases h
    | error e' =>
      have hint : e'.kind ≠ .interrupted := fun hk =>
        hi (interruptedCall_iff.mpr ⟨e', hr, hk⟩)
      rw [hr] at h
      unfold WriteOutcome.ofAnswer at h
      dsimp only at h
      split at h
      · cases h
      · next hk => exact write_failed hr hk hint

end Stream

end Sluice
