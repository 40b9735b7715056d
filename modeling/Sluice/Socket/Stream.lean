import Sluice.Address.Endpoint
import Sluice.Readiness.Basic
import Sluice.Socket.Fifo
import Sluice.Socket.Transfer

/-!
# Connected streams

A connection has a near end, which the relay holds, and a far end outside. Each direction is a lane:
an unbounded queue of bytes that can be shut, after which nothing more enters it. A lane also
remembers all that was ever written to it, so that what was read from it is what was written less
what is queued.

Shutting and closing act on the lanes: an end that shuts down its writing shuts the lane it writes
to, an end that shuts down its reading shuts the lane it reads from, and an end that closes shuts
both and drops what it had not read, in which case the other end finds a pending error. A lane that
is jammed takes no bytes for now. Beyond that, a stream may hold answers in store that disturb the
next calls at the near end: interruptions, short transfers, spurious waits and failures.
-/

namespace Sluice

/-! ## Lanes -/

/-- One direction of a connection. -/
structure Lane where
  queue : Fifo UInt8 := {}
  /-- All that was ever written, newest first. -/
  history : List UInt8 := []
  shut : Bool := false
  deriving Inhabited

namespace Lane

/-- The bytes written and not yet read. -/
def queued (l : Lane) : List UInt8 :=
  l.queue.toList

/-- All bytes written so far, oldest first. -/
def written (l : Lane) : List UInt8 :=
  l.history.reverse

def isEmpty (l : Lane) : Bool :=
  l.queue.isEmpty

def write (l : Lane) (data : List UInt8) : Lane :=
  { l with queue := l.queue.append data, history := data.reverseAux l.history }

def read (l : Lane) (n : Nat) : List UInt8 × Lane :=
  let r := l.queue.take n
  (r.1, { l with queue := r.2 })

def close (l : Lane) : Lane :=
  { l with shut := true }

def discard (l : Lane) : Lane :=
  { l with queue := .empty }

@[simp] theorem queued_write (l : Lane) (data : List UInt8) :
    (l.write data).queued = l.queued ++ data := by
  simp [write, queued]

@[simp] theorem written_write (l : Lane) (data : List UInt8) :
    (l.write data).written = l.written ++ data := by
  simp [write, written, List.reverseAux_eq]

theorem read_fst (l : Lane) (n : Nat) : (l.read n).1 = l.queued.take n :=
  Fifo.take_fst l.queue n

theorem queued_read_snd (l : Lane) (n : Nat) : (l.read n).2.queued = l.queued.drop n :=
  Fifo.toList_take_snd l.queue n

end Lane

/-! ## Streams -/

/-- What kind of connection it is. Only an internet connection has addresses; a pipe is no socket,
and calls made for sockets fail on it. -/
inductive Medium where
  | domain
  | internet (near far : Endpoint)
  | pipe
  deriving DecidableEq, Repr, Inhabited

/-- An answer held in store for one call at the near end. -/
inductive Disturbance where
  | interrupted
  | wouldBlock
  | failed (e : Errno)
  /-- Moves at most `limit + 1` bytes. -/
  | short (limit : Nat)
  deriving DecidableEq, Repr, Inhabited

/-- A connection, seen from the relay at its near end. -/
structure Stream where
  medium : Medium := .domain
  inbound : Lane := {}
  outbound : Lane := {}
  nearOpen : Bool := true
  farOpen : Bool := true
  nearFault : Option Errno := none
  farFault : Option Errno := none
  jammed : Bool := false
  reads : List Disturbance := []
  writes : List Disturbance := []
  deriving Inhabited

namespace Stream

/-- A fresh connection between two processes of this machine. -/
def pair : Stream := {}

/-- The reading end of a pipe, with the writing end outside. -/
def pipe : Stream :=
  { medium := .pipe, outbound := Lane.close {} }

def isSocket (s : Stream) : Bool :=
  s.medium != .pipe

/-- The error that any use of the near end meets first, if there is one. -/
def obstacle? (s : Stream) : Option Errno :=
  if !s.nearOpen then some .badDescriptor
  else if !s.isSocket then some .notSocket
  else none

/-! ### The near end -/

/-- Reads at most `n` bytes: what is queued, then a pending error once, then the end of the
stream. -/
def readFreely (s : Stream) (n : Nat) : Except IoError (List UInt8) × Stream :=
  match s.obstacle? with
  | some e => (.error (.os e), s)
  | none =>
    if s.inbound.isEmpty then
      match s.nearFault with
      | some e => (.error (.os e), { s with nearFault := none })
      | none => if s.inbound.shut then (.ok [], s) else (.error (.os .tryAgain), s)
    else
      let r := s.inbound.read n
      (.ok r.1, { s with inbound := r.2 })

/-- Writes all of `data`, unless the lane is shut or jammed. -/
def writeFreely (s : Stream) (data : List UInt8) : Except IoError Nat × Stream :=
  match s.obstacle? with
  | some e => (.error (.os e), s)
  | none =>
    if s.outbound.shut then (.error (.os .brokenPipe), s)
    else if s.jammed then (.error (.os .tryAgain), s)
    else (.ok data.length, { s with outbound := s.outbound.write data })

def read (s : Stream) (n : Nat) : Except IoError (List UInt8) × Stream :=
  match s.reads with
  | [] => s.readFreely n
  | .interrupted :: rest => (.error (.os .interrupted), { s with reads := rest })
  | .wouldBlock :: rest => (.error (.os .tryAgain), { s with reads := rest })
  | .failed e :: rest => (.error (.os e), { s with reads := rest })
  | .short limit :: rest => { s with reads := rest }.readFreely (min n (limit + 1))

def write (s : Stream) (data : List UInt8) : Except IoError Nat × Stream :=
  match s.writes with
  | [] => s.writeFreely data
  | .interrupted :: rest => (.error (.os .interrupted), { s with writes := rest })
  | .wouldBlock :: rest => (.error (.os .tryAgain), { s with writes := rest })
  | .failed e :: rest => (.error (.os e), { s with writes := rest })
  | .short limit :: rest => { s with writes := rest }.writeFreely (data.take (limit + 1))

def hungUp (s : Stream) : Bool :=
  s.inbound.shut && s.outbound.shut

def conditions (s : Stream) : Conditions where
  readable := !s.inbound.isEmpty || s.inbound.shut
  writable := !s.jammed
  error := s.nearFault.isSome || s.hungUp

/-- Takes the pending error away; asking can fail as well. -/
def takeError (s : Stream) : Option IoError × Stream :=
  match s.obstacle? with
  | some e => (some (.os e), s)
  | none => (s.nearFault.map .os, { s with nearFault := none })

/-- Closes the near end. Unread bytes are dropped, and the far end is told so. -/
def close (s : Stream) : Stream :=
  { s with
    nearOpen := false
    inbound := s.inbound.discard.close
    outbound := s.outbound.close
    nearFault := none
    farFault := if s.inbound.isEmpty then s.farFault else some .connectionReset }

/-! ### The far end -/

def farWrite (s : Stream) (data : List UInt8) : Except Errno Stream :=
  if s.inbound.shut then .error .brokenPipe
  else .ok { s with inbound := s.inbound.write data }

/-- What comes after the bytes that a far end has read. -/
inductive Tail where
  | stillOpen
  | ended
  | failed (e : Errno)
  deriving DecidableEq, Repr, Inhabited

/-- Reads everything from outside. This also takes away whatever jammed the lane. -/
def farRead (s : Stream) : List UInt8 × Tail × Stream :=
  if !s.isSocket then ([], .failed .badDescriptor, s)
  else
    let s' := { s with outbound := s.outbound.discard, jammed := false, farFault := none }
    let tail := match s.farFault with
      | some e => .failed e
      | none => if s.outbound.shut then .ended else .stillOpen
    (s.outbound.queued, tail, s')

def farShutdown (s : Stream) (reading writing : Bool) : Stream :=
  let s := if reading then { s with outbound := s.outbound.close } else s
  if writing then { s with inbound := s.inbound.close } else s

def farClose (s : Stream) : Stream :=
  { s with
    farOpen := false
    inbound := s.inbound.close
    outbound := s.outbound.discard.close
    jammed := false
    farFault := none
    nearFault := if s.outbound.isEmpty && !s.jammed then s.nearFault else some .connectionReset }

/-- Whether a jam can take hold. -/
def canJam (s : Stream) : Bool :=
  s.nearOpen && s.isSocket && !s.outbound.shut && !s.jammed

def jam (s : Stream) : Stream :=
  { s with jammed := s.jammed || s.canJam }

def unjam (s : Stream) : Stream :=
  { s with jammed := false }

/-! ### Streams as byte streams -/

theorem readFreely_ok {s : Stream} {n : Nat} {data : List UInt8}
    (h : (s.readFreely n).1 = .ok data) : data = s.inbound.queued.take n := by
  unfold readFreely at h
  split at h
  · cases h
  · split at h
    · next hq =>
      have hq' := (Fifo.isEmpty_iff _).1 hq
      split at h
      · cases h
      · split at h <;> cases h
        simp [Lane.queued, hq']
    · cases h; exact Lane.read_fst ..

theorem kind_obstacle {s : Stream} {e : Errno} (h : s.obstacle? = some e) :
    IoError.Kind.ofErrno e ≠ .interrupted := by
  unfold obstacle? at h
  split at h
  · cases h; decide
  · split at h <;> cases h
    decide

/-- How many calls in a row can be interrupted: one for each answer in store, and one more for a
pending error. -/
def store (s : Stream) : Nat :=
  s.reads.length + s.writes.length + s.nearFault.toList.length

theorem store_readFreely {s : Stream} {n : Nat} {e : IoError}
    (h : (s.readFreely n).1 = .error e) (hk : e.kind = .interrupted) :
    (s.readFreely n).2.store < s.store := by
  unfold readFreely at h ⊢
  split at h
  · next e' he =>
    cases h
    exact absurd hk (kind_obstacle he)
  · split at h
    · split at h
      · next e' he => simp_all [store]
      · split at h <;> cases h
        exact absurd hk (by decide)
    · cases h

theorem writeFreely_ok {s : Stream} {data : List UInt8} {n : Nat}
    (h : (s.writeFreely data).1 = .ok n) : n = data.length := by
  unfold writeFreely at h
  split at h
  · cases h
  · split at h
    · cases h
    · split at h <;> cases h
      rfl

theorem writeFreely_not_interrupted {s : Stream} {data : List UInt8} {e : IoError}
    (h : (s.writeFreely data).1 = .error e) : e.kind ≠ .interrupted := by
  unfold writeFreely at h
  split at h
  · next e' he => cases h; exact kind_obstacle he
  · split at h
    · cases h; decide
    · split at h <;> cases h
      decide

instance : ByteStream Stream where
  read := read
  write := write
  interruptions := store
  length_read_le s n data h := by
    unfold read at h
    split at h
    · rw [readFreely_ok h, List.length_take]; exact Nat.min_le_left ..
    · cases h
    · cases h
    · cases h
    · rw [readFreely_ok h, List.length_take]; omega
  write_le_length s data n h := by
    unfold write at h
    split at h
    · exact Nat.le_of_eq (writeFreely_ok h)
    · cases h
    · cases h
    · cases h
    · rw [writeFreely_ok h, List.length_take]; omega
  interruptions_read s n e h hk := by
    unfold read at h ⊢
    split at h
    · exact store_readFreely h hk
    · simp_all [store]
    · cases h; exact absurd hk (by decide)
    · simp_all [store]
    · next limit rest hr =>
      have drop_one : store { s with reads := rest } < s.store := by simp [store, hr]
      exact Nat.lt_trans (store_readFreely h hk) drop_one
  interruptions_write s data e h hk := by
    unfold write at h ⊢
    split at h
    · exact absurd hk (writeFreely_not_interrupted h)
    · simp_all [store]
    · cases h; exact absurd hk (by decide)
    · simp_all [store]
    · exact absurd hk (writeFreely_not_interrupted h)

end Stream

end Sluice
