import Sluice.Handoff.Channel

/-!
# Messages in pieces

Descriptors go through the control pipe as bytes, and arrive in pieces of any size. What a drain
takes in and what it leaves behind is together what the pipe held, cut into messages
(`Channel.drain_eq`). Since all messages have one length, the numbers that come out are the first of
those that were sent (`Channel.encoded_prefix`).
-/

namespace Sluice.Channel

open Handoff

/-- The bytes that some numbers are sent as. -/
def encoded (vs : List Int32) : List UInt8 :=
  (vs.map encode).flatten

@[simp] theorem encoded_nil : encoded [] = [] := rfl

@[simp] theorem encoded_cons (v : Int32) (vs : List Int32) :
    encoded (v :: vs) = encode v ++ encoded vs := rfl

theorem encoded_append (vs ws : List Int32) : encoded (vs ++ ws) = encoded vs ++ encoded ws := by
  rw [encoded, List.map_append, List.flatten_append]
  rfl

theorem encode_decode_of_length {bytes : List UInt8} (h : bytes.length = messageLength) :
    encode (decode bytes) = bytes := by
  match bytes, h with
  | [a, b, c, d], _ => exact encode_decode a b c d

/-- Numbers that were received are the first of those that were sent. Each takes the same number of
bytes, so that what was received ends where a number of the sender ends. -/
theorem encoded_prefix {vs ws : List Int32} {rest : List UInt8}
    (h : encoded vs ++ rest = encoded ws) : ∃ us, ws = vs ++ us ∧ rest = encoded us := by
  induction vs generalizing ws with
  | nil => exact ⟨ws, rfl, h⟩
  | cons v vs ih =>
    rw [encoded_cons, List.append_assoc] at h
    cases ws with
    | nil => cases h
    | cons w ws =>
      rw [encoded_cons] at h
      obtain ⟨hhead, htail⟩ := List.append_inj h rfl
      obtain ⟨us, hus, hrest⟩ := ih htail
      have hv : v = w := by rw [← decode_encode v, hhead, decode_encode]
      exact ⟨us, by rw [hv, hus, List.cons_append], hrest⟩

theorem queue_split (c : Channel) (n : Nat) :
    (c.queue.take n).1 ++ (c.queue.take n).2.toList = c.queued := by
  rw [Fifo.take_fst, Fifo.toList_take_snd, List.take_append_drop]
  rfl

theorem drain_eq (c : Channel) :
    c.held ++ c.queued = encoded c.drain.1.values ++ c.drain.2.held ∧ c.drain.2.queued = []
      ∧ c.drain.2.readFd = c.readFd := by
  fun_induction drain c with
  | case1 c r h =>
    have hnil : c.queued = [] := by
      have hr : r.1 = c.queued.take (messageLength - c.held.length) := Fifo.take_fst ..
      rw [h] at hr
      rcases List.take_eq_nil_iff.mp hr.symm with h0 | hnil
      · have := c.held_lt
        omega
      · exact hnil
    refine ⟨?_, hnil, rfl⟩
    rw [hnil, List.append_nil]
    rfl
  | case2 c r h held full d ih =>
    obtain ⟨heq, hq, hfd⟩ := ih
    refine ⟨?_, hq, hfd⟩
    calc c.held ++ c.queued = held ++ r.2.toList := by
          rw [← c.queue_split (messageLength - c.held.length), ← List.append_assoc]
      _ = held ++ (encoded d.1.values ++ d.2.held) := congrArg (held ++ ·) heq
      _ = encoded (decode held :: d.1.values) ++ d.2.held := by
          rw [encoded_cons, encode_decode_of_length full]
          exact (List.append_assoc ..).symm
  | case3 c r h held full hle ih =>
    obtain ⟨heq, hq, hfd⟩ := ih
    refine ⟨?_, hq, hfd⟩
    rw [← c.queue_split (messageLength - c.held.length), ← List.append_assoc]
    exact heq

/-- Draining fails only when the sender has closed its end, which it does not do to the sender. That
the number in the pipe is incomplete then makes no difference to the error. -/
theorem drain_error (c : Channel) : c.drain.2.senderOpen = c.senderOpen
    ∧ c.drain.1.error = if c.senderOpen then none else some closed := by
  fun_induction drain c with
  | case1 c r h => exact ⟨rfl, rfl⟩
  | case2 c r h held full d ih => exact ih
  | case3 c r h held notFull hle ih => exact ih

end Sluice.Channel
