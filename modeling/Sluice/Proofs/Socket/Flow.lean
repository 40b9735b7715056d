import Sluice.Proofs.Socket.Ledger

/-!
# Sockets that flow

A socket whose reads only give what is queued (`File.Pours`), and one that takes whatever it is
offered, though perhaps in pieces (`File.Accepts`). Calls on either may be interrupted. Reading from
the first comes to the front of the queue (`Pours.readSome_eq`), and flushing to the second writes
the whole window, however small the pieces (`Accepts.flush_eq`). Both stay what they are when they
are used.
-/

namespace Sluice

namespace Stream

variable {s s' : Stream} {data : List UInt8} {n : Nat}

/-! ## Reading -/

/-- Nothing is pending but what is queued, and more may come. -/
structure Pours (s : Stream) : Prop where
  nearOpen : s.nearOpen = true
  socket : s.isSocket = true
  faultless : s.nearFault = none
  unshut : s.inbound.shut = false
  reads : ∀ d ∈ s.reads, d = .interrupted

theorem Pours.used (h : s.Pours) (hu : s.Used s') : s'.Pours where
  nearOpen := hu.nearOpen.trans h.nearOpen
  socket := by
    rw [isSocket, hu.medium]
    exact h.socket
  faultless := by
    rcases hu.fault with hsame | hnone
    · exact hsame.trans h.faultless
    · exact hnone
  unshut := hu.inShut.trans h.unshut
  reads d hd := h.reads d (hu.reads.subset hd)

theorem obstacle?_eq_none (ho : s.nearOpen = true) (hs : s.isSocket = true) :
    s.obstacle? = none := by
  simp [obstacle?, ho, hs]

theorem Pours.readFreely_eq (h : s.Pours) (n : Nat) : (s.readFreely n).1 =
    if s.inbound.queued = [] then .error (.os .tryAgain) else .ok (s.inbound.queued.take n) := by
  rw [readFreely, obstacle?_eq_none h.nearOpen h.socket]
  dsimp only
  by_cases hq : s.inbound.queued = []
  · rw [if_pos (Lane.isEmpty_iff.mpr hq), if_pos hq, h.faultless]
    dsimp only
    rw [if_neg (by rw [h.unshut]; exact Bool.false_ne_true)]
  · rw [if_neg (mt Lane.isEmpty_iff.mp hq), if_neg hq, Lane.read_fst]

/-- A read comes to the front of the queue, and waits only when nothing is queued. The interruptions
that may be in store are used up on the way, and do not show. -/
theorem Pours.readSome_eq (h : s.Pours) (hn : 0 < n) : (readSome s n).1 =
    if s.inbound.queued = [] then .wouldBlock else .done (s.inbound.queued.take n) := by
  fun_induction readSome s n with
  | case1 s r hi ih =>
    obtain ⟨e, he, -⟩ := interruptedCall_iff.mp hi
    have hr : s.Reads (readData r.1) r.2 := read_reads s n
    rw [he] at hr
    have hq : s.inbound.queued = r.2.inbound.queued := hr.queued
    rw [hq]
    exact ih (h.used hr.used)
  | case2 s r hi =>
    have hreads : s.reads = [] := by
      refine List.eq_nil_iff_forall_not_mem.mpr fun d hd => hi ?_
      obtain ⟨d', rest, hstore⟩ := List.exists_cons_of_ne_nil (List.ne_nil_of_mem hd)
      have hd' := h.reads d' (by rw [hstore]; exact List.mem_cons_self ..)
      have hr : r.1 = .error (.os .interrupted) := by
        show (s.read n).1 = _
        rw [read, hstore, hd']
      rw [hr]
      rfl
    have hr : r.1 = (s.readFreely n).1 := by
      show (s.read n).1 = _
      rw [read, hreads]
    rw [hr, h.readFreely_eq]
    split
    · rfl
    · next hq =>
      have hne : s.inbound.queued.take n ≠ [] := by
        simp [List.take_eq_nil_iff, hq, Nat.ne_of_gt hn]
      rw [ReadOutcome.ofAnswer, if_neg (by simpa using hne)]

/-! ## Writing -/

/-- Every write takes some of what it is offered: calls are interrupted or take less than all, and
nothing worse is in store. -/
structure Accepts (s : Stream) : Prop where
  nearOpen : s.nearOpen = true
  socket : s.isSocket = true
  unshut : s.outbound.shut = false
  unjammed : s.jammed = false
  writes : ∀ d ∈ s.writes, d = .interrupted ∨ ∃ limit, d = .short limit

theorem Accepts.writes_of (h : s.Accepts) (hw : s.Writes data s') : s'.Accepts where
  nearOpen := hw.nearOpen.trans h.nearOpen
  socket := by
    rw [isSocket, hw.used.medium]
    exact h.socket
  unshut := hw.shut.trans h.unshut
  unjammed := (congrArg Stream.jammed hw.rest :).trans h.unjammed
  writes d hd := h.writes d (hw.writes.subset hd)

theorem Accepts.writeFreely_eq (h : s.Accepts) (data : List UInt8) :
    s.writeFreely data = (.ok data.length, { s with outbound := s.outbound.write data }) := by
  rw [writeFreely, obstacle?_eq_none h.nearOpen h.socket]
  dsimp only
  rw [if_neg (by rw [h.unshut]; exact Bool.false_ne_true),
    if_neg (by rw [h.unjammed]; exact Bool.false_ne_true)]

/-- One call takes the front of what it is offered, if it is not interrupted. A short one that is to
take no bytes still takes one, so that every answer is progress. -/
theorem Accepts.write_cases (h : s.Accepts) (hne : data ≠ []) :
    ((s.write data).1 = .error (.os .interrupted)
        ∧ (s.write data).2.outbound.queued = s.outbound.queued)
      ∨ ∃ m, (s.write data).1 = .ok (m + 1)
        ∧ (s.write data).2.outbound.queued = s.outbound.queued ++ data.take (m + 1) := by
  obtain ⟨b, rest, rfl⟩ := List.exists_cons_of_ne_nil hne
  cases hstore : s.writes with
  | nil =>
    refine Or.inr ⟨rest.length, ?_⟩
    rw [write, hstore]
    dsimp only
    rw [h.writeFreely_eq]
    refine ⟨rfl, ?_⟩
    rw [Lane.queued_write, ← List.length_cons (a := b), List.take_length]
  | cons d store =>
    have hd := h.writes d (by rw [hstore]; exact List.mem_cons_self ..)
    rcases hd with rfl | ⟨limit, rfl⟩
    · refine Or.inl ?_
      rw [write, hstore]
      exact ⟨rfl, rfl⟩
    · refine Or.inr ⟨min limit rest.length, ?_⟩
      have h' : ({ s with writes := store } : Stream).Accepts :=
        { h with
          writes := fun d hd => h.writes d (by rw [hstore]; exact List.mem_cons_of_mem _ hd) }
      rw [write, hstore]
      dsimp only
      rw [h'.writeFreely_eq]
      refine ⟨?_, ?_⟩
      · rw [List.length_take, List.length_cons, Nat.add_min_add_right]
      · rw [Lane.queued_write, ← Nat.add_min_add_right, ← List.length_cons (a := b),
          ← List.take_take, List.take_length]

theorem Accepts.writeSome_eq (h : s.Accepts) (hne : data ≠ []) :
    ∃ m pos, (writeSome s data hne).1 = .done m pos
      ∧ (writeSome s data hne).2.outbound.queued = s.outbound.queued ++ data.take m := by
  fun_induction writeSome s data hne with
  | case1 s r hi ih =>
    have hw : s.Writes (data.take (writeCount r.1)) r.2 := write_writes s data
    obtain ⟨m, pos, hdone, hq⟩ := ih (h.writes_of hw)
    refine ⟨m, pos, hdone, ?_⟩
    rcases h.write_cases hne with ⟨-, hsame⟩ | ⟨m', hok, -⟩
    · have hsame : r.2.outbound.queued = s.outbound.queued := hsame
      rw [hq, hsame]
    · have hok : r.1 = .ok (m' + 1) := hok
      rw [hok] at hi
      cases hi
  | case2 s r hi =>
    rcases h.write_cases hne with ⟨herr, -⟩ | ⟨m, hok, hq⟩
    · have herr : r.1 = .error (.os .interrupted) := herr
      rw [herr] at hi
      exact absurd rfl hi
    · have hok : r.1 = .ok (m + 1) := hok
      rw [hok]
      exact ⟨m + 1, Nat.succ_pos m, rfl, hq⟩

end Stream

/-! ## Files -/

namespace File

def incoming : File → List UInt8
  | .stream s => s.inbound.queued
  | .device _ => []

def outgoing : File → List UInt8
  | .stream s => s.outbound.queued
  | .device _ => []

def Pours : File → Prop
  | .stream s => s.Pours
  | .device _ => False

def Accepts : File → Prop
  | .stream s => s.Accepts
  | .device _ => False

variable {f f' : File} {data : List UInt8} {n : Nat}

theorem Pours.used (h : f.Pours) (hu : f.Used f') : f'.Pours := by
  cases hu with
  | stream hu => exact Stream.Pours.used h hu
  | device b => exact h

theorem Pours.readSome_eq (h : f.Pours) (hn : 0 < n) : (readSome f n).1 =
    if f.incoming = [] then .wouldBlock else .done (f.incoming.take n) := by
  cases f with
  | stream s =>
    rw [readSome_stream]
    exact Stream.Pours.readSome_eq h hn
  | device b => exact h.elim

theorem Pours.takeError_eq (h : f.Pours) : f.takeError.1 = none := by
  cases f with
  | stream s =>
    have h : s.Pours := h
    rw [takeError, Stream.takeError, Stream.obstacle?_eq_none h.nearOpen h.socket, h.faultless]
    rfl
  | device b => exact h.elim

theorem Reads.refl (f : File) : f.Reads [] f := by
  cases f with
  | stream s => exact .stream (.refl s)
  | device b => exact .device b

theorem Reads.trans {f'' : File} {data' : List UInt8} (h : f.Reads data f')
    (h' : f'.Reads data' f'') :
    f.Reads (data ++ data') f'' := by
  cases h with
  | stream h =>
    cases h' with
    | stream h' => exact .stream (h.trans h')
  | device b =>
    cases h' with
    | device b => exact .device b

theorem Reads.incoming (h : f.Reads data f') : f.incoming = data ++ f'.incoming := by
  cases h with
  | stream h => exact h.queued
  | device b => rfl

theorem Reads.outgoing (h : f.Reads data f') : f'.outgoing = f.outgoing := by
  cases h with
  | stream h => exact congrArg Lane.queued h.outbound
  | device b => rfl

theorem Writes.incoming (h : f.Writes data f') : f'.incoming = f.incoming := by
  cases h with
  | stream h => exact congrArg Lane.queued h.inbound
  | device b => rfl

theorem Accepts.writes (h : f.Accepts) (hw : f.Writes data f') : f'.Accepts := by
  cases hw with
  | stream hw => exact Stream.Accepts.writes_of h hw
  | device b => exact h

theorem Accepts.writeSome_eq (h : f.Accepts) (hne : data ≠ []) :
    ∃ m pos, (writeSome f data hne).1 = .done m pos
      ∧ (writeSome f data hne).2.outgoing = f.outgoing ++ data.take m := by
  cases f with
  | stream s =>
    rw [writeSome_stream]
    exact Stream.Accepts.writeSome_eq h hne
  | device b => exact h.elim

/-- A flush writes the whole window, whatever pieces the socket takes it in. The induction is that
of the flush, in which each write leaves a shorter window to the next one. -/
theorem Accepts.flush_eq (st : Staging) (h : f.Accepts) :
    (st.flush f).1 = .complete ∧ (st.flush f).2.2.outgoing = f.outgoing ++ st.window := by
  fun_induction Staging.flush st f with
  | case1 st f hlt m pos f' hw ih =>
    have hwrites := writeSome_writes f st.window (Staging.window_ne_nil hlt)
    obtain ⟨m', pos', hdone, hq⟩ := h.writeSome_eq (Staging.window_ne_nil hlt)
    rw [hw] at hwrites hdone hq
    cases hdone
    obtain ⟨hcomplete, hrest⟩ := ih (h.writes hwrites)
    refine ⟨hcomplete, ?_⟩
    have hq : f'.outgoing = f.outgoing ++ st.window.take m := hq
    rw [hrest, hq, Staging.window_advance, List.append_assoc, List.take_append_drop]
  | case2 st f hlt f' hw =>
    obtain ⟨m, pos, hdone, -⟩ := h.writeSome_eq (Staging.window_ne_nil hlt)
    rw [hw] at hdone
    cases hdone
  | case3 st f hlt e f' hw =>
    obtain ⟨m, pos, hdone, -⟩ := h.writeSome_eq (Staging.window_ne_nil hlt)
    rw [hw] at hdone
    cases hdone
  | case4 st f hlt =>
    have hwin : st.window = [] := by
      rw [← List.length_eq_zero_iff, Staging.length_window, Staging.pending]
      omega
    rw [hwin, List.append_nil]
    exact ⟨rfl, rfl⟩

end File

end Sluice
