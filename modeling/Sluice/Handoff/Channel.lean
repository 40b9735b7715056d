import Sluice.Fault.RelayError
import Sluice.Handoff.Message
import Sluice.Socket.Fifo

/-!
# Handoff channels

The acceptor hands each client to a worker through a pipe of its own. Sender and receiver may get
through only parts of a message at a time, so the receiver holds the bytes of an unfinished message,
always fewer than a message has, until the rest arrives.
-/

namespace Sluice

/-- A pipe with its two ends, and the bytes of an unfinished message that the receiver holds. -/
structure Channel where
  readFd : Descriptor
  writeFd : Descriptor
  queue : Fifo UInt8 := {}
  senderOpen : Bool := true
  receiverOpen : Bool := true
  held : List UInt8 := []
  held_lt : held.length < Handoff.messageLength := by decide

namespace Channel

open Handoff

instance : Inhabited Channel := ⟨{ readFd := 0, writeFd := 0 }⟩

/-- Makes a channel of two new descriptors. -/
def create (exhausted : Bool) (readFd writeFd : Descriptor) : Except RelayError Channel :=
  if exhausted then .error (.pipe .tooManyFiles) else .ok { readFd, writeFd }

def queued (c : Channel) : List UInt8 :=
  c.queue.toList

def heldLength (c : Channel) : Nat :=
  c.held.length

def write (c : Channel) (data : List UInt8) : Except IoError Channel :=
  if c.receiverOpen then .ok { c with queue := c.queue.append data }
  else .error (.os .brokenPipe)

def send (c : Channel) (v : Int32) : Except IoError Channel :=
  c.write (encode v)

def closeSender (c : Channel) : Channel :=
  { c with senderOpen := false }

def closeReceiver (c : Channel) : Channel :=
  { c with receiverOpen := false }

/-- The conditions of the receiving end. -/
def conditions (c : Channel) : Conditions where
  readable := !c.queue.isEmpty
  writable := false
  error := !c.senderOpen

/-- What a drain came to: the numbers received, and the error that ended it, if it was one. -/
structure Drained where
  values : List Int32
  error : Option IoError
  deriving DecidableEq, Repr, Inhabited

/-- The end of the pipe is an error, because the acceptor never closes it. -/
def closed : IoError :=
  .custom .unexpectedEof "handoff pipe closed"

/-- Receives until the pipe is empty. Each read asks for the bytes that the unfinished message
lacks. -/
def drain (c : Channel) : Drained × Channel :=
  let r := c.queue.take (messageLength - c.held.length)
  if _h : r.1 = [] then (⟨[], if c.senderOpen then none else some closed⟩, c)
  else
    let held := c.held ++ r.1
    if full : held.length = messageLength then
      let d := drain { c with queue := r.2, held := [], held_lt := by decide }
      ({ d.1 with values := decode held :: d.1.values }, d.2)
    else
      have hle : held.length ≤ messageLength := by
        have := c.held_lt
        simp only [held, r, List.length_append, Fifo.take_fst, List.length_take]
        omega
      drain { c with queue := r.2, held, held_lt := by omega }
termination_by c.queue.toList.length
decreasing_by
  all_goals
    simp only [r, Fifo.take_fst, Fifo.toList_take_snd] at _h ⊢
    rw [List.take_eq_nil_iff, not_or] at _h
    have := List.length_pos_iff.2 _h.2
    rw [List.length_drop]
    omega

end Channel

end Sluice
