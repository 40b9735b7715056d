import Sluice.Readiness.FdTable
import Sluice.Readiness.ReadyList

/-!
# Waiting by scanning

The scanning poller keeps the watched descriptors in the order of their registration and asks the
system about each of them in turn. Updating keeps a descriptor's place, removing closes the gap,
adding appends.
-/

namespace Sluice

/-- What a scan learns about a descriptor: a number that is not open counts as failed, a negative
one is passed over, and a plain file is ready for whatever is asked. -/
def FileStatus.scanned (fd : Descriptor) : FileStatus → Conditions
  | .live c => c
  | .plain => ⟨true, true, false⟩
  | .closed => ⟨false, false, decide (0 ≤ fd)⟩

structure Scan where
  watched : List (Descriptor × Interest) := []
  tokens : FdTable := {}
  ready : ReadyList := {}
  deriving Inhabited

namespace Scan

def size (s : Scan) : Nat :=
  s.tokens.size

def add (s : Scan) (fd : Descriptor) (token : Token) (i : Interest) : Except PollError Scan :=
  match s.tokens.insert fd token with
  | .ok tokens => .ok { s with tokens, watched := s.watched ++ [(fd, i)] }
  | .error e => .error e

def update (s : Scan) (fd : Descriptor) (token : Token) (i : Interest) : Except PollError Scan :=
  match s.tokens.replace fd token with
  | .ok tokens =>
    .ok { s with tokens, watched := s.watched.map fun w => if w.1 = fd then (fd, i) else w }
  | .error e => .error e

def remove (s : Scan) (fd : Descriptor) : Except PollError Scan :=
  match s.tokens.remove fd with
  | .ok (_, tokens) => .ok { s with tokens, watched := s.watched.eraseP (·.1 = fd) }
  | .error e => .error e

/-- The report on one watched descriptor. -/
def look (s : Scan) (view : SystemView) (w : Descriptor × Interest) : Option Event :=
  match s.tokens.get? w.1 with
  | some token => ((view.status w.1).scanned w.1).event? token w.2
  | none => none

/-- Reports the ready descriptors in the order of registration, nothing when no descriptor is
watched. A scan names its descriptors to the system, which refuses the list when it is longer than
the allowance of the process. -/
def wait (s : Scan) (view : SystemView) : Except PollError (Option ReadyList × Scan) :=
  if s.watched.isEmpty then .ok (none, s)
  else if view.exhausted then .error (.wait (.os .invalidArgument))
  else
    let ready := s.ready.report (s.watched.filterMap (s.look view))
    .ok (some ready, { s with ready })

end Scan

end Sluice
