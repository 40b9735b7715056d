import Sluice.Proofs.Handoff.Pieces

/-!
# What comes out of a channel

The bytes that go into a channel are one stream, however they were cut: messages and loose bytes on
one side, single reads and whole drains on the other, in any order. What was delivered is the
numbers of the part of the stream that was drained, and the receiver holds its last bytes, those
that complete no number (`Channel.run_delivers`).

The argument is one balance: the delivered numbers as bytes, the held bytes and the bytes in the
pipe are together the stream (`Exchange.Carries`). A read keeps it (`Channel.held_append_queued`),
and so does every deed, hence every run.
-/

namespace Sluice

namespace Channel

open Handoff

/-! ## Writes and single reads -/

theorem of_write {c c' : Channel} {data : List UInt8} (h : c.write data = .ok c') :
    c'.held = c.held ∧ c'.queued = c.queued ++ data := by
  unfold write at h
  split at h <;> cases h
  exact ⟨rfl, Fifo.toList_append ..⟩

theorem length_nil_lt : ([] : List UInt8).length < messageLength := by
  decide

/-- One read of a drain, which finds at most `limit` bytes in the pipe, and the number that it
completes. -/
def receive (c : Channel) (limit : Nat) : Option Int32 × Channel :=
  let r := c.queue.take (min limit (messageLength - c.held.length))
  let held := c.held ++ r.1
  if full : held.length = messageLength then
    (some (decode held), { c with queue := r.2, held := [], held_lt := length_nil_lt })
  else
    have hle : held.length ≤ messageLength := by
      have := c.held_lt
      simp only [held, r, List.length_append, Fifo.take_fst, List.length_take]
      omega
    (none, { c with queue := r.2, held, held_lt := by omega })

theorem held_append_queued (c : Channel) (limit : Nat) :
    c.held ++ c.queued
      = encoded (c.receive limit).1.toList ++ (c.receive limit).2.held
        ++ (c.receive limit).2.queued := by
  have hsplit := c.queue_split (min limit (messageLength - c.held.length))
  unfold receive
  dsimp only
  split
  · next full =>
    rw [← hsplit, ← List.append_assoc]
    simp only [Option.toList_some, encoded_cons, encoded_nil, List.append_nil,
      encode_decode_of_length full]
    rfl
  · rw [← hsplit, ← List.append_assoc]
    rfl

theorem receive_ends (c : Channel) (limit : Nat) :
    (c.receive limit).2.senderOpen = c.senderOpen
      ∧ (c.receive limit).2.receiverOpen = c.receiverOpen := by
  unfold receive
  dsimp only
  split <;> exact ⟨rfl, rfl⟩

theorem receive_queued (c : Channel) (limit : Nat) :
    (c.receive limit).2.queued = c.queued.drop (min limit (messageLength - c.held.length)) := by
  unfold receive
  dsimp only
  split <;> exact Fifo.toList_take_snd ..

/-- A drain that finds bytes is a read followed by a drain. Both what it delivers and how it ends
are those of the drain behind the read, so that a run of reads says all about it. -/
theorem drain_of_queued {c : Channel} (h : c.queued ≠ []) :
    c.drain = (⟨(c.receive messageLength).1.toList ++ (c.receive messageLength).2.drain.1.values,
      (c.receive messageLength).2.drain.1.error⟩, (c.receive messageLength).2.drain.2) := by
  have hmin : min messageLength (messageLength - c.held.length)
      = messageLength - c.held.length := by
    omega
  have hfound : (c.queue.take (messageLength - c.held.length)).1 ≠ [] := by
    have := c.held_lt
    rw [Fifo.take_fst, Ne, List.take_eq_nil_iff, not_or]
    exact ⟨by omega, h⟩
  rw [drain, dif_neg hfound]
  unfold receive
  simp only [hmin]
  split <;> rfl

theorem drain_of_empty {c : Channel} (h : c.queued = []) :
    c.drain = (⟨[], if c.senderOpen then none else some closed⟩, c) := by
  have hfound : (c.queue.take (messageLength - c.held.length)).1 = [] := by
    rw [Fifo.take_fst, List.take_eq_nil_iff]
    exact .inr h
  rw [drain, dif_pos hfound]

theorem drain_receiverOpen (c : Channel) : c.drain.2.receiverOpen = c.receiverOpen := by
  fun_induction drain c with
  | case1 c r h => rfl
  | case2 c r h held full d ih => exact ih
  | case3 c r h held notFull hle ih => exact ih

/-! ## The numbers of a stream -/

/-- The number that four bytes stand for in two's complement, the least significant one first. -/
def number (a b c d : UInt8) : Int :=
  ((a.toNat + 256 * (b.toNat + 256 * (c.toNat + 256 * d.toNat)) : Nat) : Int).bmod Int32.size

/-- The numbers that a stream of bytes stands for, four bytes each; bytes that are left over stand
for none. -/
def numbers : List UInt8 → List Int
  | a :: b :: c :: d :: rest => number a b c d :: numbers rest
  | _ => []

theorem numbers_of_short {bytes : List UInt8} (h : bytes.length < messageLength) :
    numbers bytes = [] := by
  match bytes, h with
  | [], _ | [_], _ | [_, _], _ | [_, _, _], _ => rfl

theorem length_lt_of_no_message {bytes : List UInt8}
    (h : ∀ a b c d rest, bytes = a :: b :: c :: d :: rest → False) :
    bytes.length < messageLength := by
  match bytes, h with
  | [], _ | [_], _ | [_, _], _ | [_, _, _], _ => simp [messageLength]
  | a :: b :: c :: d :: rest, h => exact (h a b c d rest rfl).elim

theorem length_numbers (bytes : List UInt8) :
    (numbers bytes).length = bytes.length / messageLength := by
  fun_induction numbers bytes with
  | case1 a b c d rest ih =>
    simp only [List.length_cons, ih, messageLength]
    omega
  | case2 bytes hshort => exact (Nat.div_eq_of_lt (length_lt_of_no_message hshort)).symm

/-- A stream may be cut between two messages. Anywhere else the bytes on both sides of the cut would
be taken for other numbers, which is why the receiver has to hold what completes none. -/
theorem numbers_append {bytes : List UInt8} (h : messageLength ∣ bytes.length)
    (rest : List UInt8) : numbers (bytes ++ rest) = numbers bytes ++ numbers rest := by
  fun_induction numbers bytes with
  | case1 a b c d bytes ih =>
    have hdvd : messageLength ∣ bytes.length :=
      (Nat.dvd_add_left (Nat.dvd_refl messageLength)).mp h
    exact congrArg (number a b c d :: ·) (ih hdvd)
  | case2 bytes hshort =>
    have hnil : bytes = [] :=
      List.length_eq_zero_iff.mp (Nat.eq_zero_of_dvd_of_lt h (length_lt_of_no_message hshort))
    rw [hnil]
    rfl

theorem toInt_toInt32 (n : Nat) : n.toUInt32.toInt32.toInt = (n : Int).bmod Int32.size :=
  BitVec.toInt_ofNat n

theorem toInt_decode (a b c d : UInt8) : (decode [a, b, c, d]).toInt = number a b c d := by
  have hsum : [a, b, c, d].foldr (fun (b : UInt8) n => b.toNat + n <<< 8) 0
      = a.toNat + 256 * (b.toNat + 256 * (c.toNat + 256 * d.toNat)) := by
    simp only [List.foldr, Nat.shiftLeft_eq]
    omega
  rw [decode, hsum, toInt_toInt32]
  rfl

theorem numbers_encode_append (v : Int32) (rest : List UInt8) :
    numbers (encode v ++ rest) = v.toInt :: numbers rest := by
  obtain ⟨a, b, c, d, hform⟩ : ∃ a b c d, encode v = [a, b, c, d] := ⟨_, _, _, _, rfl⟩
  have hv : v.toInt = number a b c d := by rw [← toInt_decode, ← hform, decode_encode]
  rw [hform, hv]
  rfl

theorem numbers_encoded_append (vs : List Int32) (rest : List UInt8) :
    numbers (encoded vs ++ rest) = vs.map Int32.toInt ++ numbers rest := by
  induction vs with
  | nil => rfl
  | cons v vs ih =>
    rw [encoded_cons, List.append_assoc, numbers_encode_append, ih]
    rfl

theorem numbers_encoded (vs : List Int32) : numbers (encoded vs) = vs.map Int32.toInt := by
  rw [← List.append_nil (encoded vs), numbers_encoded_append]
  exact List.append_nil _

theorem length_encoded (vs : List Int32) : (encoded vs).length = messageLength * vs.length := by
  induction vs with
  | nil => rfl
  | cons v vs ih =>
    rw [encoded_cons, List.length_append, ih, length_encode, List.length_cons, Nat.mul_succ,
      Nat.add_comm]

/-- A stream decodes to numbers and the bytes at its end that complete none. Those are fewer than a
message has, and they are not lost: the next bytes complete them. -/
structure Decodes (stream : List UInt8) (vs : List Int32) (rest : List UInt8) : Prop where
  values : vs.map Int32.toInt = numbers stream
  rest_eq : rest = stream.drop (messageLength * (stream.length / messageLength))
  length_rest : rest.length = stream.length % messageLength

theorem decodes_encoded_append (vs : List Int32) {rest : List UInt8}
    (h : rest.length < messageLength) : Decodes (encoded vs ++ rest) vs rest := by
  have hlength : (encoded vs ++ rest).length = messageLength * vs.length + rest.length := by
    rw [List.length_append, length_encoded]
  have hdiv : (encoded vs ++ rest).length / messageLength = vs.length := by
    rw [hlength, Nat.mul_add_div (by decide), Nat.div_eq_of_lt h, Nat.add_zero]
  constructor
  · rw [numbers_encoded_append, numbers_of_short h, List.append_nil]
  · rw [hdiv, ← length_encoded, List.drop_left]
  · rw [hlength, Nat.mul_add_mod, Nat.mod_eq_of_lt h]

/-- A number that was sent between two messages is among those that come out, at its place. -/
theorem Decodes.getElem?_of_encode {stream before after rest : List UInt8} {vs : List Int32}
    (h : Decodes stream vs rest) {v : Int32} (hstream : stream = before ++ (encode v ++ after))
    (hbefore : messageLength ∣ before.length) :
    vs[before.length / messageLength]? = some v := by
  have hvalues : vs.map Int32.toInt = numbers before ++ v.toInt :: numbers after := by
    rw [h.values, hstream, numbers_append hbefore, numbers_encode_append]
  have hat : (vs.map Int32.toInt)[before.length / messageLength]? = some v.toInt := by
    rw [hvalues, ← length_numbers, List.getElem?_append_right (Nat.le_refl _), Nat.sub_self]
    rfl
  rw [List.getElem?_map, Option.map_eq_some_iff] at hat
  obtain ⟨u, hu, huv⟩ := hat
  rw [hu, Int32.toInt_inj.mp huv]

end Channel

/-! ## Runs of a channel -/

open Handoff Channel

/-- What is done at the two ends of a channel. -/
inductive Deed where
  | send (v : Int32)
  | write (data : List UInt8)
  | closeSender
  | read (limit : Nat)
  | drain
  deriving DecidableEq

namespace Deed

def bytes : Deed → List UInt8
  | send v => encode v
  | write data => data
  | closeSender | read _ | drain => []

/-- The bytes that a list of deeds puts into a channel. A sender that has closed its end puts none
in any more. -/
def stream : List Deed → List UInt8
  | [] => []
  | .closeSender :: _ => []
  | d :: deeds => d.bytes ++ stream deeds

end Deed

/-- A channel and the numbers that came out of it. -/
structure Exchange where
  channel : Channel
  delivered : List Int32 := []

namespace Exchange

def put (x : Exchange) (result : Except IoError Channel) : Exchange :=
  if x.channel.senderOpen then
    match result with
    | .ok channel => { x with channel }
    | .error _ => x
  else x

def perform (x : Exchange) : Deed → Exchange
  | .send v => x.put (x.channel.send v)
  | .write data => x.put (x.channel.write data)
  | .closeSender => { x with channel := x.channel.closeSender }
  | .read limit =>
    let r := x.channel.receive limit
    { channel := r.2, delivered := x.delivered ++ r.1.toList }
  | .drain =>
    let d := x.channel.drain
    { channel := d.2, delivered := x.delivered ++ d.1.values }

def run (x : Exchange) (deeds : List Deed) : Exchange :=
  deeds.foldl perform x

def drained (x : Exchange) (stream : List UInt8) : List UInt8 :=
  stream.take (stream.length - x.channel.queued.length)

/-- What was delivered, what the receiver holds and what is in the pipe make up `stream`. This is
the invariant of every deed at either end, and `run_delivers` reads it off at the end of a run. -/
structure Carries (x : Exchange) (stream : List UInt8) : Prop where
  balance : encoded x.delivered ++ x.channel.held ++ x.channel.queued = stream
  receiving : x.channel.receiverOpen = true

theorem Carries.drained_eq {x : Exchange} {stream : List UInt8} (h : x.Carries stream) :
    x.drained stream = encoded x.delivered ++ x.channel.held := by
  rw [drained, ← h.balance, List.length_append, Nat.add_sub_cancel, List.take_left]

theorem perform_senderOpen (x : Exchange) (d : Deed) :
    (x.perform d).channel.senderOpen = true ↔ x.channel.senderOpen = true ∧ d ≠ .closeSender := by
  have hput (data : List UInt8) :
      (x.put (x.channel.write data)).channel.senderOpen = x.channel.senderOpen := by
    unfold put Channel.write
    cases x.channel.receiverOpen <;> cases hopen : x.channel.senderOpen <;> simp [hopen]
  cases d with
  | send v => rw [Exchange.perform, Channel.send, hput]; simp
  | write data => rw [Exchange.perform, hput]; simp
  | closeSender => simp [Exchange.perform, Channel.closeSender]
  | read limit => simp [Exchange.perform, Channel.receive_ends]
  | drain => simp [Exchange.perform, Channel.drain_error]

theorem Carries.put {x : Exchange} {stream : List UInt8} (h : x.Carries stream)
    (data : List UInt8) : (x.put (x.channel.write data)).Carries
      (stream ++ if x.channel.senderOpen then data else []) := by
  rw [Channel.write, if_pos h.receiving, Exchange.put]
  by_cases hopen : x.channel.senderOpen = true
  · rw [if_pos hopen, if_pos hopen]
    refine ⟨?_, h.receiving⟩
    rw [← h.balance, List.append_assoc (_ ++ _)]
    exact congrArg _ (Fifo.toList_append ..)
  · rwa [if_neg hopen, if_neg hopen, List.append_nil]

/-- Every deed keeps the balance. Only the sender adds to the stream, and once it has closed its end
its deeds add nothing, in the same way as they put nothing into the pipe. -/
theorem Carries.perform {x : Exchange} {stream : List UInt8} (h : x.Carries stream) (d : Deed) :
    (x.perform d).Carries (stream ++ if x.channel.senderOpen then d.bytes else []) := by
  cases d with
  | send v => exact h.put (encode v)
  | write data => exact h.put data
  | closeSender =>
    rw [Deed.bytes, ite_self, List.append_nil]
    exact ⟨h.balance, h.receiving⟩
  | read limit =>
    rw [Deed.bytes, ite_self, List.append_nil]
    refine ⟨?_, (x.channel.receive_ends limit).2.trans h.receiving⟩
    rw [← h.balance, List.append_assoc (encoded x.delivered), x.channel.held_append_queued limit]
    simp only [Exchange.perform, encoded_append, List.append_assoc]
  | drain =>
    rw [Deed.bytes, ite_self, List.append_nil]
    obtain ⟨heq, hempty, -⟩ := x.channel.drain_eq
    refine ⟨?_, x.channel.drain_receiverOpen.trans h.receiving⟩
    rw [← h.balance, List.append_assoc (encoded x.delivered), heq]
    simp only [Exchange.perform, encoded_append, hempty, List.append_assoc, List.append_nil]

/-- A run sends its stream through the channel, as long as the sender has not closed its end. -/
theorem Carries.run {x : Exchange} {stream : List UInt8} (h : x.Carries stream)
    (deeds : List Deed) : (x.run deeds).Carries
      (stream ++ if x.channel.senderOpen then Deed.stream deeds else []) := by
  induction deeds generalizing x stream with
  | nil => simpa [Exchange.run, Deed.stream] using h
  | cons d deeds ih =>
    have hnext := ih (h.perform d)
    have hbytes : (if x.channel.senderOpen then d.bytes else [])
        ++ (if (x.perform d).channel.senderOpen then Deed.stream deeds else [])
        = if x.channel.senderOpen then Deed.stream (d :: deeds) else [] := by
      simp only [perform_senderOpen]
      by_cases hopen : x.channel.senderOpen = true
      · cases d <;> simp [hopen, Deed.stream, Deed.bytes]
      · simp [hopen]
    rwa [List.append_assoc, hbytes] at hnext

theorem run_senderOpen (x : Exchange) (deeds : List Deed) :
    (x.run deeds).channel.senderOpen = true
      ↔ x.channel.senderOpen = true ∧ .closeSender ∉ deeds := by
  induction deeds generalizing x with
  | nil => simp [run]
  | cons d deeds ih =>
    rw [run, List.foldl_cons, ← run, ih, perform_senderOpen, List.mem_cons, not_or, and_assoc,
      ne_comm]

end Exchange

theorem Deed.stream_append {before : List Deed} (h : .closeSender ∉ before) (after : List Deed) :
    stream (before ++ after) = stream before ++ stream after := by
  induction before with
  | nil => rfl
  | cons d before ih =>
    rw [List.mem_cons, not_or] at h
    cases d with
    | closeSender => exact absurd rfl h.1
    | send | write | read | drain =>
      simp only [List.cons_append, stream, ih h.2, List.append_assoc]

namespace Channel

/-- Whatever is done at the ends of a new channel, the stream that goes into it comes out, and what
came out decodes the part that was drained. A drain leaves nothing in the pipe, whether it fails or
not, and fails only because the sender has closed its end. A number that was sent between two
messages comes out at its place. -/
theorem run_delivers {exhausted : Bool} {readFd writeFd : Descriptor} {c : Channel}
    (hcreate : create exhausted readFd writeFd = .ok c) (deeds : List Deed) :
    let x := Exchange.run { channel := c } deeds
    let stream := Deed.stream deeds
    let d := x.channel.drain
    stream = x.drained stream ++ x.channel.queued
      ∧ Decodes (x.drained stream) x.delivered x.channel.held
      ∧ x.channel.heldLength = (x.drained stream).length % 4 ∧ x.channel.heldLength < 4
      ∧ Decodes stream (x.delivered ++ d.1.values) d.2.held ∧ d.2.queued = []
      ∧ d.1.error = (if .closeSender ∈ deeds then some closed else none)
      ∧ closed.kind = .unexpectedEof
      ∧ ∀ before v after, deeds = before ++ .send v :: after → .closeSender ∉ before →
        4 ∣ (Deed.stream before).length →
          (x.delivered ++ d.1.values)[(Deed.stream before).length / 4]? = some v := by
  intro x stream d
  have hnew : c = { readFd, writeFd } := by
    unfold create at hcreate
    split at hcreate <;> cases hcreate
    rfl
  have hstart : Exchange.Carries { channel := c } [] := by
    subst hnew
    exact ⟨rfl, rfl⟩
  have hopen : c.senderOpen = true := by rw [hnew]
  have hx : x.Carries stream := by
    have := hstart.run deeds
    rwa [if_pos hopen] at this
  have hd : (x.perform .drain).Carries stream := by
    have := hx.perform .drain
    rwa [Deed.bytes, ite_self, List.append_nil] at this
  have hempty : d.2.queued = [] := x.channel.drain_eq.2.1
  have hdrained : Decodes (x.drained stream) x.delivered x.channel.held := by
    rw [hx.drained_eq]
    exact decodes_encoded_append _ x.channel.held_lt
  have hwhole : encoded (x.delivered ++ d.1.values) ++ d.2.held = stream := by
    have := hd.balance
    rwa [show (x.perform .drain).channel.queued = [] from hempty, List.append_nil] at this
  have hall : Decodes stream (x.delivered ++ d.1.values) d.2.held :=
    hwhole ▸ decodes_encoded_append _ d.2.held_lt
  refine ⟨?_, hdrained, hdrained.length_rest, x.channel.held_lt, hall, hempty, ?_, rfl, ?_⟩
  · rw [hx.drained_eq, hx.balance]
  · have hsender : x.channel.senderOpen = true ↔ .closeSender ∉ deeds := by
      rw [Exchange.run_senderOpen]
      exact and_iff_right hopen
    rw [x.channel.drain_error.2]
    simp only [hsender, ite_not]
  · intro before v after hdeeds hbefore hdvd
    have hstream : stream = Deed.stream before ++ (encode v ++ Deed.stream after) := by
      rw [show stream = Deed.stream deeds from rfl, hdeeds, Deed.stream_append hbefore]
      rfl
    exact hall.getElem?_of_encode hstream hdvd

/-- A number in two pieces, a number in one, and a piece that a closed sender leaves behind. -/
theorem run_delivers_pieces : ∃ c, create false 3 4 = .ok c ∧
    let x := Exchange.run { channel := c } [.write [254, 255], .drain, .write [255, 255, 7],
      .read 1, .read 9, .write [0, 0, 0, 9], .closeSender, .send 5]
    (x.delivered ++ x.channel.drain.1.values).map Int32.toInt = [-2, 7]
      ∧ x.channel.drain.2.held = [9] ∧ x.channel.drain.1.error = some closed := by
  let deeds : List Deed := [.write [254, 255], .drain, .write [255, 255, 7], .read 1, .read 9,
    .write [0, 0, 0, 9], .closeSender, .send 5]
  have hcreate : create false 3 4 = .ok { readFd := 3, writeFd := 4 } := rfl
  obtain ⟨-, -, -, -, hall, -, herror, -, -⟩ := run_delivers hcreate deeds
  exact ⟨_, hcreate, hall.values.trans (by decide), hall.rest_eq.trans (by decide), herror⟩

end Channel

end Sluice
