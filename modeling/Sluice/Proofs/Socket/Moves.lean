import Sluice.Proofs.Socket.Ledger
import Sluice.Socket.Outside

/-!
# Moves of the outside

What may happen to a file from outside: its far end sends, takes in, shuts down or closes, the way
out fills up and clears, an error comes in, and the next calls are disturbed in any way. `Host.play`
is a move on a host, made of the functions for its far ends.

A move neither reads nor writes at the near end (`File.Moved`): what was received and sent stays,
what is offered only grows, and it stays for good once the far end has stopped sending.
-/

namespace Sluice

/-- Something that happens to a stream from outside: the far end sends, reads or goes away, the
network jams or fails, or the system is going to interrupt or to cut short calls to come. -/
inductive Move where
  | write (data : List UInt8)
  | read
  | shutdown (reading writing : Bool)
  | close
  | jam
  | unjam
  | fault (e : Errno)
  /-- More answers are put in store. -/
  | disturb (reads writes : List Disturbance)
  deriving DecidableEq, Repr, Inhabited

namespace Move

def onStream (m : Move) (s : Stream) : Stream :=
  match m with
  | write data => if s.inbound.shut then s else { s with inbound := s.inbound.write data }
  | read => s.farRead.2.2
  | shutdown reading writing => if s.isSocket then s.farShutdown reading writing else s
  | close => s.farClose
  | jam => s.jam
  | unjam => s.unjam
  | fault e => { s with nearFault := some e }
  | disturb reads writes => { s with reads := s.reads ++ reads, writes := s.writes ++ writes }

def onFile (m : Move) : File → File
  | .stream s => .stream (m.onStream s)
  | .device nearOpen => .device nearOpen

end Move

def Host.play (h : Host) (fd : Descriptor) (m : Move) : Host :=
  match m with
  | .write data => (h.farWrite fd data).toOption.getD h
  | .read => (h.farRead fd).2.2
  | .shutdown reading writing => (h.farShutdown fd reading writing).toOption.getD h
  | .close => h.onStream fd Stream.farClose
  | .jam => (h.jam fd).2
  | .unjam => h.onStream fd Stream.unjam
  | .fault e => h.onStream fd fun s => { s with nearFault := some e }
  | .disturb reads writes =>
    h.onStream fd fun s => { s with reads := s.reads ++ reads, writes := s.writes ++ writes }

/-! ## What a move keeps -/

namespace Lane

variable {l l' : Lane}

/-- From `l` to `l'` bytes were put in at most, and none once the lane was shut. What was taken out
is as it was, since only the near end reads from its own lane. -/
structure Grown (l l' : Lane) : Prop where
  sound : l.Sound → l'.Sound ∧ l'.taken = l.taken
  written : l.written <+: l'.written
  shut : l.shut = true → l'.shut = true ∧ l'.written = l.written

theorem Grown.refl (l : Lane) : Grown l l :=
  ⟨fun h => ⟨h, rfl⟩, List.prefix_rfl, fun h => ⟨h, rfl⟩⟩

theorem Grown.close (l : Lane) : Grown l l.close :=
  ⟨fun h => ⟨h, rfl⟩, List.prefix_rfl, fun _ => ⟨rfl, rfl⟩⟩

theorem Grown.write (h : l.shut = false) (data : List UInt8) : Grown l (l.write data) where
  sound hs := by
    have hw : (l.write data).written = l.taken ++ (l.write data).queued := by
      rw [written_write, queued_write, hs.written_eq, List.append_assoc]
    exact ⟨⟨_, hw.symm⟩, taken_of_written hw⟩
  written := by
    rw [written_write]
    exact List.prefix_append ..
  shut hs := by rw [h] at hs; cases hs

end Lane

namespace Move

variable {s : Stream}

theorem inbound_farShutdown (reading writing : Bool) :
    (s.farShutdown reading writing).inbound = if writing then s.inbound.close else s.inbound := by
  cases reading <;> cases writing <;> rfl

theorem written_outbound_farShutdown (reading writing : Bool) :
    (s.farShutdown reading writing).outbound.written = s.outbound.written := by
  cases reading <;> cases writing <;> rfl

theorem nearOpen_farShutdown (reading writing : Bool) :
    (s.farShutdown reading writing).nearOpen = s.nearOpen := by
  cases reading <;> cases writing <;> rfl

theorem inbound_onStream (m : Move) (s : Stream) : Lane.Grown s.inbound (m.onStream s).inbound := by
  cases m with
  | write data =>
    simp only [onStream]
    split
    · exact .refl _
    · next h => exact .write (by simpa using h) data
  | read =>
    simp only [onStream, Stream.farRead]
    split <;> exact .refl _
  | shutdown reading writing =>
    simp only [onStream]
    split
    · rw [inbound_farShutdown]
      split
      · exact .close _
      · exact .refl _
    · exact .refl _
  | close => exact .close _
  | jam => exact .refl _
  | unjam => exact .refl _
  | fault e => exact .refl _
  | disturb reads writes => exact .refl _

theorem written_outbound_onStream (m : Move) (s : Stream) :
    (m.onStream s).outbound.written = s.outbound.written := by
  cases m with
  | write data => simp only [onStream]; split <;> rfl
  | read => simp only [onStream, Stream.farRead]; split <;> rfl
  | shutdown reading writing =>
    simp only [onStream]
    split
    · exact written_outbound_farShutdown ..
    · rfl
  | _ => rfl

theorem nearOpen_onStream (m : Move) (s : Stream) : (m.onStream s).nearOpen = s.nearOpen := by
  cases m with
  | write data => simp only [onStream]; split <;> rfl
  | read => simp only [onStream, Stream.farRead]; split <;> rfl
  | shutdown reading writing =>
    simp only [onStream]
    split
    · exact nearOpen_farShutdown ..
    · rfl
  | _ => rfl

end Move

namespace File

/-- From `f` to `f'` nothing has happened at the near end. The far end may have sent more or have
ended; what was read and written at this one, and whether it is open, is as it was. -/
structure Moved (f f' : File) : Prop where
  sound : f.Sound → f'.Sound ∧ f'.received = f.received
  sent : f'.sent = f.sent
  offered : f.offered <+: f'.offered
  ended : f.ended = true → f'.ended = true ∧ f'.offered = f.offered
  isOpen : f'.isOpen = f.isOpen

theorem Moved.refl (f : File) : Moved f f :=
  ⟨fun h => ⟨h, rfl⟩, rfl, List.prefix_rfl, fun h => ⟨h, rfl⟩, rfl⟩

theorem moved_onFile (m : Move) (f : File) : Moved f (m.onFile f) := by
  cases f with
  | stream s =>
    have hin := m.inbound_onStream s
    exact {
      sound := hin.sound
      sent := m.written_outbound_onStream s
      offered := hin.written
      ended := hin.shut
      isOpen := m.nearOpen_onStream s }
  | device b => exact .refl _

end File

/-! ## Moves on a host -/

namespace Host

variable {h : Host} {fd : Descriptor}

theorem play_device {o : Bool} (hf : h.file fd = .device o) (m : Move) : h.play fd m = h := by
  cases m with
  | write data => cases data <;> simp [play, farWrite, hf, Except.toOption]
  | read => simp only [play, farRead, hf]
  | shutdown reading writing => simp [play, farShutdown, hf, Except.toOption]
  | jam => simp only [play, jam, hf]
  | _ => simp only [play, onStream, hf]

theorem play_stream {s : Stream} (hf : h.file fd = .stream s) (m : Move) (fd' : Descriptor) :
    (h.play fd m).file fd' = if fd' = fd then m.onFile (.stream s) else h.file fd' := by
  -- a move either leaves the stream as it is, or puts the moved one in its place
  have hkept (hs : m.onStream s = s) : h.file fd' = if fd' = fd then m.onFile (.stream s)
      else h.file fd' := by
    split
    · next heq => rw [heq, hf, Move.onFile, hs]
    · rfl
  have hput : (h.put fd (.stream (m.onStream s))).file fd'
      = if fd' = fd then m.onFile (.stream s) else h.file fd' := file_put ..
  cases m with
  | write data =>
    simp only [play, farWrite, hf]
    cases data with
    | nil => exact hkept (by simp only [Move.onStream]; split <;> rfl)
    | cons b rest =>
      simp only [Move.onStream] at hkept hput
      by_cases hshut : s.inbound.shut = true
      · rw [if_pos hshut] at hkept
        simpa [Stream.farWrite, hshut, Except.map, Except.toOption] using hkept rfl
      · rw [if_neg hshut] at hput
        simpa [Stream.farWrite, hshut, Except.map, Except.toOption] using hput
  | read =>
    simp only [play, farRead, hf]
    exact hput
  | shutdown reading writing =>
    simp only [play, farShutdown, hf]
    simp only [Move.onStream] at hkept hput
    by_cases hsock : s.isSocket = true
    · rw [if_pos hsock] at hput ⊢
      exact hput
    · rw [if_neg hsock] at hkept ⊢
      exact hkept rfl
  | jam =>
    simp only [play, jam, hf]
    exact hput
  | _ =>
    simp only [play, onStream, hf]
    exact hput

/-- A move changes the one file, in the way of streams. A move that fails is one that changes
nothing, so that there is no case apart for it. -/
theorem file_play (h : Host) (fd : Descriptor) (m : Move) (fd' : Descriptor) :
    (h.play fd m).file fd' = if fd' = fd then m.onFile (h.file fd) else h.file fd' := by
  cases hf : h.file fd with
  | device o =>
    rw [play_device hf]
    split
    · next heq => rw [heq, hf]; rfl
    · rfl
  | stream s => exact play_stream hf m fd'

theorem play_fields (h : Host) (fd : Descriptor) (m : Move) :
    (h.play fd m).next = h.next ∧ (h.play fd m).network = h.network
      ∧ (h.play fd m).exhausted = h.exhausted := by
  have hon (f : Stream → Stream) : (h.onStream fd f).next = h.next
      ∧ (h.onStream fd f).network = h.network ∧ (h.onStream fd f).exhausted = h.exhausted := by
    unfold onStream
    split <;> exact ⟨rfl, rfl, rfl⟩
  cases m with
  | write data =>
    simp only [play, farWrite]
    split
    · exact ⟨rfl, rfl, rfl⟩
    · split
      · exact ⟨rfl, rfl, rfl⟩
      · next s _ =>
        cases s.farWrite data <;> exact ⟨rfl, rfl, rfl⟩
  | read =>
    simp only [play, farRead]
    split <;> exact ⟨rfl, rfl, rfl⟩
  | shutdown reading writing =>
    simp only [play, farShutdown]
    split
    · exact ⟨rfl, rfl, rfl⟩
    · split <;> exact ⟨rfl, rfl, rfl⟩
  | jam =>
    simp only [play, jam]
    split <;> exact ⟨rfl, rfl, rfl⟩
  | _ => exact hon _

end Host

end Sluice
