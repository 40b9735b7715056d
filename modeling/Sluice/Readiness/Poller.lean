import Sluice.Readiness.Epoll
import Sluice.Readiness.Scan

/-!
# Pollers

A poller watches registered descriptors through one of the backends. A descriptor is registered at
most once; whoever holds a poller does not see which backend is at work.
-/

namespace Sluice

/-- A poller of either available backend. -/
inductive Poller where
  | epoll (p : Epoll)
  | scan (s : Scan)
  deriving Inhabited

namespace Poller

/-- Makes a poller of the backend that is asked for. An event set takes a descriptor, here `fd`. -/
def create (b : Backend) (view : SystemView) (fd : Descriptor) : Except PollError Poller :=
  match b with
  | .epoll =>
    if view.exhausted then .error (.create .epoll (.os .tooManyFiles))
    else .ok (.epoll { fd })
  | .kqueue => .error (.unsupported .kqueue)
  | .poll => .ok (.scan {})

def greeting : Poller → String
  | .epoll p => s!"created epoll (fd={p.fd})"
  | .scan _ => "created poll"

def backend : Poller → Backend
  | .epoll _ => .epoll
  | .scan _ => .poll

def size : Poller → Nat
  | .epoll p => p.size
  | .scan s => s.size

def isEmpty (p : Poller) : Bool :=
  p.size == 0

def add (p : Poller) (view : SystemView) (fd : Descriptor) (token : Token) (i : Interest) :
    Except PollError Poller :=
  match p with
  | .epoll p => (p.add view fd token i).map .epoll
  | .scan s => (s.add fd token i).map .scan

def update (p : Poller) (view : SystemView) (fd : Descriptor) (token : Token) (i : Interest) :
    Except PollError Poller :=
  match p with
  | .epoll p => (p.update view fd token i).map .epoll
  | .scan s => (s.update fd token i).map .scan

def remove (p : Poller) (view : SystemView) (fd : Descriptor) : Except PollError Poller :=
  match p with
  | .epoll p => (p.remove view fd).map .epoll
  | .scan s => (s.remove fd).map .scan

/-- The ready descriptors, or `none` when nothing is registered. The list is empty when nothing is
ready, as after a wait that was interrupted and tried again without patience. -/
def wait (p : Poller) (view : SystemView) : Except PollError (Option ReadyList × Poller) :=
  match p with
  | .epoll p => (p.wait view).map fun r => (r.1, .epoll r.2)
  | .scan s => (s.wait view).map fun r => (r.1, .scan r.2)

/-! ## The registrations as a map -/

def registration? (p : Poller) (fd : Descriptor) : Option (Token × Interest) :=
  match p with
  | .epoll p => (p.members.find? (·.fd = fd)).map fun m => (m.token, m.interest)
  | .scan s =>
    match s.tokens.get? fd, s.watched.find? (·.1 = fd) with
    | some token, some w => some (token, w.2)
    | _, _ => none

end Poller

end Sluice
