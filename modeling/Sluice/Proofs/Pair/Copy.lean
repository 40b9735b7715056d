import Sluice.Proofs.Pair.Progress
import Sluice.Proofs.Socket.Flow

/-!
# Relaying as copying

Where bytes can flow from one half to another (`Half.Flows`), one readable event is a plain copy of
the front of the queue (`Half.copies_onEvent`): as many bytes as the rounds of the relay have room
for, or all there are. The size of the buffer, the number of rounds and the pieces that the writes
come in show in nothing but that number.
-/

namespace Sluice.Half

variable {a a' a'' b b' b'' : Half} {e : Event} {n m rounds : Nat}

/-- Bytes that are queued at `a` can go to `b`, which has nothing else to write. Nothing comes from
`a` but what is queued, and `b` takes whatever it is offered, in pieces or at once. -/
structure Flows (a b : Half) : Prop where
  pours : a.file.Pours
  accepts : b.file.Accepts
  idle : b.session.pending = 0
  room : 0 < b.session.staging.buffer.length

/-- The first `n` bytes that were queued at `a`, or all of them, were moved to the socket of `b`.
The halves are `a'` and `b'` then, and nothing else is different. -/
structure Copies (n : Nat) (a b a' b' : Half) : Prop where
  self : a'.session = a.session
  peer : b'.session = { b.session with staging := b'.session.staging }
  length : b'.session.staging.buffer.length = b.session.staging.buffer.length
  reads : a.file.Reads (a.file.incoming.take n) a'.file
  writes : b.file.Writes (a.file.incoming.take n) b'.file
  outgoing : b'.file.outgoing = b.file.outgoing ++ a.file.incoming.take n
  idle : b'.session.pending = 0

theorem Copies.incoming (h : Copies n a b a' b') : a'.file.incoming = a.file.incoming.drop n := by
  have hsplit := h.reads.incoming
  rw [← List.append_cancel_left_eq (a.file.incoming.take n), ← hsplit, List.take_append_drop]

theorem Copies.flows (h : Copies n a b a' b') (hf : Flows a b) : Flows a' b' where
  pours := hf.pours.used h.reads.used
  accepts := hf.accepts.writes h.writes
  idle := h.idle
  room := h.length ▸ hf.room

/-- Copying can stop and go on. The numbers add up even if the first copy has emptied the queue,
because the second one then copies nothing. -/
theorem Copies.trans (h : Copies n a b a' b') (h' : Copies m a' b' a'' b'') :
    Copies (n + m) a b a'' b'' := by
  have htake : a.file.incoming.take (n + m)
      = a.file.incoming.take n ++ a'.file.incoming.take m := by
    rw [h.incoming, List.take_add]
  refine ⟨h'.self.trans h.self, ?_, h'.length.trans h.length, htake ▸ h.reads.trans h'.reads,
    htake ▸ h.writes.trans h'.writes, ?_, h'.idle⟩
  · rw [h'.peer, h.peer]
  · rw [h'.outgoing, h.outgoing, htake, List.append_assoc]

theorem copies_of_nothing {file : File} (hempty : a.file.incoming = []) (hr : a.file.Reads [] file)
    (hidle : b.session.pending = 0) (n : Nat) : Copies n a b (a.withFile file) b where
  self := rfl
  peer := rfl
  length := rfl
  reads := by
    rw [hempty, List.take_nil]
    exact hr
  writes := by
    rw [hempty, List.take_nil]
    exact .refl _
  outgoing := by rw [hempty, List.take_nil, List.append_nil]
  idle := hidle

/-- One round copies as much as the buffer holds. The file takes all of it, so that nothing is left
staged, and the next round finds the buffer as empty as this one did. -/
theorem copies_flush {file : File} {data : List UInt8} (hf : Flows a b)
    (hr : a.file.Reads data file)
    (hdata : data = a.file.incoming.take b.session.staging.buffer.length)
    (fits : data.length ≤ b.session.staging.buffer.length) :
    (b.stage data fits).flush.1 = .complete
      ∧ Copies b.session.staging.buffer.length a b (a.withFile file)
        (b.stage data fits).flush.2 := by
  have hflush := hf.accepts.flush_eq (b.session.staging.stage data fits)
  obtain ⟨data', hwrites, hwin, hbuf⟩ := (b.session.staging.stage data fits).flush_writes b.file
  have hidle := ((b.session.staging.stage data fits).flush_complete_iff b.file).mp hflush.1
  have hall : data = data' := by
    rw [Staging.window_stage, List.length_eq_zero_iff.mp ((Staging.length_window _).trans hidle),
      List.append_nil] at hwin
    exact hwin
  refine ⟨hflush.1, rfl, rfl, ?_, hdata ▸ hr, hdata ▸ hall ▸ hwrites, ?_, hidle⟩
  · exact (congrArg Buffer.length hbuf).trans (Staging.length_buffer_stage _ _ fits)
  · have hout := hflush.2
    rw [Staging.window_stage] at hout
    rw [← hdata]
    exact hout

theorem copies_relay (rounds : Nat) (hf : Flows a b) : ∃ a' b', relay a b rounds = ⟨none, a', b'⟩
    ∧ Copies (b.session.staging.buffer.length * rounds) a b a' b' := by
  induction rounds generalizing a b with
  | zero =>
    exact ⟨a, b, rfl, rfl, rfl, rfl, .refl _, .refl _, (List.append_nil _).symm, hf.idle⟩
  | succ rounds ih =>
    have hread := hf.pours.readSome_eq hf.room
    have hsome := File.readSome_reads a.file b.session.staging.buffer.length
    by_cases hempty : a.file.incoming = []
    · rw [if_pos hempty] at hread
      refine ⟨_, b, relay_succ a b rounds (Prod.ext hread rfl), ?_⟩
      rw [hread] at hsome
      exact copies_of_nothing hempty hsome hf.idle _
    · rw [if_neg hempty] at hread
      rw [hread] at hsome
      have hsome : a.file.Reads (a.file.incoming.take b.session.staging.buffer.length) _ := hsome
      obtain ⟨hcomplete, hcopies⟩ :=
        copies_flush hf hsome rfl (length_readSome_le _ _ (Prod.ext hread rfl))
      obtain ⟨a', b', hrelay, hrest⟩ := ih (hcopies.flows hf)
      refine ⟨a', b', ?_, ?_⟩
      · rw [relay_succ a b rounds (Prod.ext hread rfl)]
        dsimp only
        rw [hcomplete]
        exact hrelay
      · rw [hcopies.length] at hrest
        rw [Nat.mul_succ, Nat.add_comm]
        exact hcopies.trans hrest

/-- A readable event of a half that has nothing to write itself copies from its queue. Whatever else
the event tells of calls for nothing here: there is no error, and nobody waits for the file to be
writable. -/
theorem copies_onEvent (hf : Flows a b) (hreading : a.session.awaitingReadable = true)
    (hconnected : a.session.awaitingConnect = false) (hr : e.readable = true)
    (hw : e.writable = true → a.session.awaitingWritable = false) :
    ∃ a' b', onEvent rounds e a b = ⟨none, a', b'⟩
      ∧ Copies (b.session.staging.buffer.length * rounds) a b a' b' := by
  obtain ⟨a', b', hrelay, hcopies⟩ := copies_relay rounds hf
  refine ⟨a', b', ?_, hcopies⟩
  rw [onEvent, next_onError_of_none fun _ => hf.pours.takeError_eq]
  have hread : (⟨none, a, b⟩ : Outcome).next e.readable (onReadable rounds) = ⟨none, a', b'⟩ := by
    rw [Outcome.next, hr, Option.isNone_none, Bool.true_and, if_pos rfl, onReadable,
      if_pos hreading, hrelay]
  rw [hread, Outcome.next, Option.isNone_none, Bool.true_and]
  split
  · next hwritable =>
    rw [onWritable, hcopies.self, hconnected, hw hwritable]
    rfl
  · rfl

end Sluice.Half
