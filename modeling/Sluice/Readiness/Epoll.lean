import Sluice.Fault.PollError
import Sluice.Readiness.ReadyList

/-!
# Waiting on an event set

The event set lives in the system: it knows its members, and refuses plain files and numbers that
are not open. The poller beside it only counts what it registered and keeps room for that many
events.

A member whose descriptor is closed without being removed reports nothing any more, and its number
is refused while it is closed; the count of the poller includes it still. The system drops such a
member from the set, where it stays in `members` here. The difference would show only if the number
were opened again and added once more, which the system allows and `refusal?` does not. That does
not come up: a host gives out no number twice.
-/

namespace Sluice

structure Registration where
  fd : Descriptor
  token : Token
  interest : Interest
  deriving DecidableEq, Repr, Inhabited

/-- A poller with an event set. -/
structure Epoll where
  fd : Descriptor
  members : List Registration := []
  registered : Nat := 0
  room : Nat := 0
  ready : ReadyList := {}
  deriving Inhabited

namespace Epoll

def size (p : Epoll) : Nat :=
  p.registered

def isMember (p : Epoll) (fd : Descriptor) : Bool :=
  p.members.any (·.fd == fd)

/-- Why the system refuses `op` on `fd`, if it does. -/
def refusal? (p : Epoll) (view : SystemView) (op : ControlOp) (fd : Descriptor) : Option Errno :=
  match view.status fd with
  | .closed => some .badDescriptor
  | .plain => some .notPermitted
  | .live _ =>
    match op with
    | .add => if p.isMember fd then some .alreadyExists else none
    | .update => if p.isMember fd then none else some .noEntry
    | .remove => if p.isMember fd then none else some .noEntry

/-- Room for `registered` events, by doubling. -/
def grownRoom (room registered : Nat) : Nat :=
  if room < registered then (doubledCapacity? room registered).getD room else room

def add (p : Epoll) (view : SystemView) (fd : Descriptor) (token : Token) (i : Interest) :
    Except PollError Epoll :=
  match p.refusal? view .add fd with
  | some e => .error (.ofControl fd .add e)
  | none =>
    let registered := p.registered + 1
    .ok { p with
      members := p.members ++ [⟨fd, token, i⟩]
      registered
      room := grownRoom p.room registered }

def update (p : Epoll) (view : SystemView) (fd : Descriptor) (token : Token) (i : Interest) :
    Except PollError Epoll :=
  match p.refusal? view .update fd with
  | some e => .error (.ofControl fd .update e)
  | none => .ok { p with members := p.members.map fun m => if m.fd = fd then ⟨fd, token, i⟩ else m }

def remove (p : Epoll) (view : SystemView) (fd : Descriptor) : Except PollError Epoll :=
  match p.refusal? view .remove fd with
  | some e => .error (.ofControl fd .remove e)
  | none =>
    .ok { p with members := p.members.eraseP (·.fd = fd), registered := p.registered - 1 }

/-- The report on one member. There is none on a member whose descriptor was closed. -/
def look (view : SystemView) (m : Registration) : Option Event :=
  match view.status m.fd with
  | .live c => c.event? m.token m.interest
  | .plain => none
  | .closed => none

/-- Reports the ready members, at most as many as were registered, and nothing when that is none. -/
def wait (p : Epoll) (view : SystemView) : Except PollError (Option ReadyList × Epoll) :=
  if p.registered = 0 then .ok (none, p)
  else
    let ready := p.ready.report ((p.members.filterMap (look view)).take p.registered)
    .ok (some ready, { p with ready })

end Epoll

end Sluice
