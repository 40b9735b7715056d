import Sluice.Proofs.Socket.Traffic

/-!
# The bytes that pass a file

For every file, the bytes that its far end has offered, the bytes read from it and the bytes written
to it, and what a read and a flush do to them. A device passes no bytes. Beside the bytes, any use
of the near end keeps what the outside has done to the file (`File.Used`).
-/

namespace Sluice

namespace File

def offered : File → List UInt8
  | .stream s => s.inbound.written
  | .device _ => []

def received : File → List UInt8
  | .stream s => s.inbound.taken
  | .device _ => []

def sent : File → List UInt8
  | .stream s => s.outbound.written
  | .device _ => []

def ended : File → Bool
  | .stream s => s.inbound.shut
  | .device _ => true

def Sound : File → Prop
  | .stream s => s.inbound.Sound
  | .device _ => True

theorem Sound.received_prefix {f : File} (h : f.Sound) : f.received <+: f.offered := by
  cases f with
  | stream s => exact ⟨_, (Lane.Sound.written_eq h).symm⟩
  | device b => exact List.prefix_rfl

/-- Reading has moved `data` from the file. Nothing is said of how many calls it took, and a read
that fails or finds nothing has moved no bytes. -/
inductive Reads : File → List UInt8 → File → Prop
  | stream {s s' : Stream} {data : List UInt8} (h : s.Reads data s') :
      Reads (.stream s) data (.stream s')
  | device (nearOpen : Bool) : Reads (.device nearOpen) [] (.device nearOpen)

inductive Writes : File → List UInt8 → File → Prop
  | stream {s s' : Stream} {data : List UInt8} (h : s.Writes data s') :
      Writes (.stream s) data (.stream s')
  | device (nearOpen : Bool) : Writes (.device nearOpen) [] (.device nearOpen)

variable {f f' f'' : File} {data data' : List UInt8}

namespace Reads

theorem received (h : Reads f data f') (hs : f.Sound) :
    f'.Sound ∧ f'.received = f.received ++ data := by
  cases h with
  | stream h => exact Lane.Sound.taken_append hs h.queued h.history
  | device b => exact ⟨trivial, rfl⟩

theorem sent (h : Reads f data f') : f'.sent = f.sent := by
  cases h with
  | stream h => simp only [File.sent, h.outbound]
  | device b => rfl

end Reads

namespace Writes

theorem refl (f : File) : Writes f [] f := by
  cases f with
  | stream s => exact .stream (.refl s)
  | device b => exact .device b

theorem trans (h : Writes f data f') (h' : Writes f' data' f'') :
    Writes f (data ++ data') f'' := by
  cases h with
  | stream h =>
    cases h' with
    | stream h' => exact .stream (h.trans h')
  | device b =>
    cases h'
    exact .device b

theorem sent (h : Writes f data f') : f'.sent = f.sent ++ data := by
  cases h with
  | stream h => exact h.written
  | device b => rfl

theorem received (h : Writes f data f') : f'.received = f.received := by
  cases h with
  | stream h => simp only [File.received, h.inbound]
  | device b => rfl

theorem sound (h : Writes f data f') (hs : f.Sound) : f'.Sound := by
  cases h with
  | stream h => simp only [File.Sound, h.inbound]; exact hs
  | device b => trivial

end Writes

/-! ## Use of the near end

Whatever is done at the near end of a file short of closing it keeps what the outside has done, and
uses answers up. -/

end File

/-- From `s` to `s'` the near end was used. -/
structure Stream.Used (s s' : Stream) : Prop where
  history : s'.inbound.history = s.inbound.history
  inShut : s'.inbound.shut = s.inbound.shut
  outShut : s'.outbound.shut = s.outbound.shut
  nearOpen : s'.nearOpen = s.nearOpen
  medium : s'.medium = s.medium
  fault : s'.nearFault = s.nearFault ∨ s'.nearFault = none
  reads : s'.reads <:+ s.reads
  writes : s'.writes <:+ s.writes

namespace Stream

variable {s s' s'' : Stream} {data : List UInt8}

theorem Used.refl (s : Stream) : s.Used s :=
  ⟨rfl, rfl, rfl, rfl, rfl, Or.inl rfl, List.suffix_rfl, List.suffix_rfl⟩

theorem Used.trans (h : s.Used s') (h' : s'.Used s'') : s.Used s'' where
  history := h'.history.trans h.history
  inShut := h'.inShut.trans h.inShut
  outShut := h'.outShut.trans h.outShut
  nearOpen := h'.nearOpen.trans h.nearOpen
  medium := h'.medium.trans h.medium
  fault := by
    rcases h'.fault with h2 | h2
    · rw [h2]; exact h.fault
    · exact Or.inr h2
  reads := h'.reads.trans h.reads
  writes := h'.writes.trans h.writes

theorem Reads.used (h : s.Reads data s') : s.Used s' where
  history := h.history
  inShut := h.shut
  outShut := congrArg Lane.shut h.outbound
  nearOpen := h.nearOpen
  medium := by have h1 := congrArg Stream.medium h.rest; exact h1
  fault := h.fault
  reads := h.reads
  writes := by
    have h1 := congrArg Stream.writes h.rest
    exact h1 ▸ List.suffix_rfl

theorem Writes.used (h : s.Writes data s') : s.Used s' where
  history := congrArg Lane.history h.inbound
  inShut := congrArg Lane.shut h.inbound
  outShut := h.shut
  nearOpen := h.nearOpen
  medium := by have h1 := congrArg Stream.medium h.rest; exact h1
  fault := by
    have h1 := congrArg Stream.nearFault h.rest
    exact Or.inl h1
  reads := by
    have h1 := congrArg Stream.reads h.rest
    exact h1 ▸ List.suffix_rfl
  writes := h.writes

theorem takeError_fault {e : IoError} (h : s.takeError.1 = some e) : s.ReadFault := by
  unfold takeError at h
  split at h
  · next e' he => exact Or.inl (by rw [he]; exact Option.some_ne_none _)
  · refine Or.inr (Or.inl ?_)
    intro hn
    rw [hn] at h
    cases h

end Stream

namespace File

/-- From `f` to `f'` the near end was used: read from, written to or asked for its pending error,
any number of times. What the far end has done is the same in both. -/
inductive Used : File → File → Prop
  | stream {s s' : Stream} (h : s.Used s') : Used (.stream s) (.stream s')
  | device (nearOpen : Bool) : Used (.device nearOpen) (.device nearOpen)

variable {f f' f'' : File} {data : List UInt8}

namespace Used

theorem refl (f : File) : Used f f := by
  cases f with
  | stream s => exact .stream (.refl s)
  | device b => exact .device b

theorem trans (h : Used f f') (h' : Used f' f'') : Used f f'' := by
  cases h with
  | stream h =>
    cases h' with
    | stream h' => exact .stream (h.trans h')
  | device b => exact h'

theorem isOpen (h : Used f f') : f'.isOpen = f.isOpen := by
  cases h with
  | stream h => exact h.nearOpen
  | device b => rfl

theorem offered (h : Used f f') : f'.offered = f.offered := by
  cases h with
  | stream h => simp only [File.offered, Lane.written, h.history]
  | device b => rfl

theorem ended (h : Used f f') : f'.ended = f.ended := by
  cases h with
  | stream h => exact h.inShut
  | device b => rfl

end Used

theorem Reads.used (h : Reads f data f') : Used f f' := by
  cases h with
  | stream h => exact .stream h.used
  | device b => exact .device b

theorem Writes.used (h : Writes f data f') : Used f f' := by
  cases h with
  | stream h => exact .stream h.used
  | device b => exact .device b

/-- Taking the pending error away is a read of no bytes, so that nothing about it has to be shown
where reads are dealt with. -/
theorem takeError_reads (f : File) : f.Reads [] f.takeError.2 := by
  cases f with
  | stream s =>
    refine .stream ?_
    unfold Stream.takeError
    split
    · exact .refl s
    · exact ⟨rfl, rfl, rfl, Or.inr rfl, List.suffix_rfl, rfl⟩
  | device b => exact .device b

/-! ## Transfers on files -/

theorem readSome_stream (s : Stream) (n : Nat) :
    readSome (File.stream s) n = ((readSome s n).1, .stream (readSome s n).2) := by
  fun_induction readSome s n with
  | case1 s r hi ih =>
    rw [readSome]
    exact (dif_pos hi).trans ih
  | case2 s r hi =>
    rw [readSome]
    exact dif_neg hi

theorem readSome_device (b : Bool) (n : Nat) :
    readSome (File.device b) n = (.ofAnswer (.error (deviceError b)), .device b) := by
  have hi : ¬ interruptedCall (.error (deviceError b) : Except IoError (List UInt8)) = true :=
    fun h => by
      obtain ⟨e, he, hk⟩ := interruptedCall_iff.mp h
      exact kind_deviceError b (Except.error.inj he ▸ hk)
  rw [readSome]
  exact dif_neg hi

theorem readSome_reads (f : File) (n : Nat) : Reads f (readSome f n).1.data (readSome f n).2 := by
  cases f with
  | stream s =>
    rw [readSome_stream]
    exact .stream (Stream.readSome_reads s n)
  | device b =>
    rw [readSome_device]
    cases b <;> exact .device _

theorem writeSome_stream (s : Stream) (data : List UInt8) (hne : data ≠ []) :
    writeSome (File.stream s) data hne
      = ((writeSome s data hne).1, .stream (writeSome s data hne).2) := by
  fun_induction writeSome s data hne with
  | case1 s r hi ih =>
    rw [writeSome]
    exact (dif_pos hi).trans ih
  | case2 s r hi =>
    rw [writeSome]
    exact dif_neg hi

theorem writeSome_device (b : Bool) (data : List UInt8) (hne : data ≠ []) :
    writeSome (File.device b) data hne = (.ofAnswer (.error (deviceError b)), .device b) := by
  have hi : ¬ interruptedCall (.error (deviceError b) : Except IoError Nat) = true := fun h => by
    obtain ⟨e, he, hk⟩ := interruptedCall_iff.mp h
    exact kind_deviceError b (Except.error.inj he ▸ hk)
  rw [writeSome]
  exact dif_neg hi

theorem writeSome_writes (f : File) (data : List UInt8) (hne : data ≠ []) :
    Writes f (data.take (writeSome f data hne).1.count) (writeSome f data hne).2 := by
  cases f with
  | stream s =>
    rw [writeSome_stream]
    exact .stream (Stream.writeSome_writes s data hne)
  | device b =>
    rw [writeSome_device]
    cases b <;> exact .device _

end File

/-! ## Flushing -/

namespace Staging

theorem window_clear (st : Staging) : st.clear.window = [] :=
  List.length_eq_zero_iff.mp (length_window _)

/-- A flush writes what the window loses, and leaves the buffer alone. It holds however the flush
ends: what was written before a failure is written. -/
theorem flush_writes (st : Staging) (f : File) :
    ∃ data, File.Writes f data (st.flush f).2.2 ∧ st.window = data ++ (st.flush f).2.1.window
      ∧ (st.flush f).2.1.buffer = st.buffer := by
  fun_induction flush st f with
  | case1 st f h n hpos f' hw ih =>
    have hwr := File.writeSome_writes f st.window (window_ne_nil h)
    rw [hw] at hwr
    obtain ⟨data, hdata, hwin, hbuf⟩ := ih
    refine ⟨_, hwr.trans hdata, ?_, hbuf⟩
    rw [List.append_assoc, ← hwin, window_advance]
    exact (List.take_append_drop n st.window).symm
  | case2 st f h f' hw =>
    have hwr := File.writeSome_writes f st.window (window_ne_nil h)
    rw [hw] at hwr
    exact ⟨[], hwr, rfl, rfl⟩
  | case3 st f h e f' hw =>
    have hwr := File.writeSome_writes f st.window (window_ne_nil h)
    rw [hw] at hwr
    exact ⟨[], hwr, rfl, rfl⟩
  | case4 st f h => exact ⟨[], .refl f, rfl, rfl⟩

theorem flush_complete_iff (st : Staging) (f : File) :
    (st.flush f).1 = .complete ↔ (st.flush f).2.1.pending = 0 := by
  fun_induction flush st f with
  | case1 st f h n hpos f' hw ih => exact ih
  | case2 st f h f' hw =>
    constructor
    · intro hfl; cases hfl
    · intro h0
      simp only [pending] at h0
      omega
  | case3 st f h e f' hw =>
    constructor
    · intro hfl; cases hfl
    · intro h0
      simp only [pending] at h0
      omega
  | case4 st f h =>
    refine ⟨?_, fun _ => rfl⟩
    intro _
    simp only [pending]
    omega

theorem flush_failed {st : Staging} {s : Stream} {e : IoError}
    (h : (st.flush (File.stream s)).1 = .failed e) : s.WriteFault := by
  generalize hf : File.stream s = f at h
  fun_induction flush st f generalizing s with
  | case1 st f hlt n hpos f' hw ih =>
    subst hf
    have hwr := File.writeSome_writes (.stream s) st.window (window_ne_nil hlt)
    rw [hw] at hwr
    cases hwr with
    | stream hwr => exact hwr.writeFault (ih rfl h)
  | case2 st f hlt f' hw => cases h
  | case3 st f hlt e' f' hw =>
    subst hf
    rw [File.writeSome_stream] at hw
    exact Stream.writeSome_failed (congrArg Prod.fst hw)
  | case4 st f hlt => cases h

end Staging

end Sluice
