import Sluice.Fault.IoError
import Sluice.Readiness.Backend
import Sluice.Readiness.Basic

/-!
# Errors of a poller

Registering a descriptor twice and naming one that is not registered are mistakes of the caller; the
other errors come from the system.
-/

namespace Sluice

/-- The three ways to change an event set. -/
inductive ControlOp where
  | add
  | update
  | remove
  deriving DecidableEq, Repr, Inhabited

def ControlOp.name : ControlOp → String
  | .add => "epoll_ctl(EPOLL_CTL_ADD)"
  | .update => "epoll_ctl(EPOLL_CTL_MOD)"
  | .remove => "epoll_ctl(EPOLL_CTL_DEL)"

inductive PollError where
  | create (backend : Backend) (source : IoError)
  | unsupported (backend : Backend)
  | alreadyRegistered (fd : Descriptor)
  | notRegistered (fd : Descriptor)
  | control (fd : Descriptor) (op : ControlOp) (source : IoError)
  | wait (source : IoError)
  deriving DecidableEq, Repr, Inhabited

namespace PollError

def message : PollError → String
  | .create b source => "Failed to create " ++ b.name ++ " poller: " ++ source.message
  | .unsupported b => b.name ++ " poller is not available on this platform"
  | .alreadyRegistered fd => s!"fd {fd} is already registered"
  | .notRegistered fd => s!"fd {fd} is not registered"
  | .control fd op source => op.name ++ s!" failed for fd {fd}: " ++ source.message
  | .wait source => "Readiness wait failed: " ++ source.message

/-- Whether the caller broke the rules of registration. -/
def isInvariantViolation : PollError → Bool
  | .alreadyRegistered _ => true
  | .notRegistered _ => true
  | _ => false

/-- The error that led to this one. -/
def source? : PollError → Option IoError
  | .create _ source => some source
  | .control _ _ source => some source
  | .wait source => some source
  | _ => none

/-- The complaint of an event set about `fd`. -/
def ofControl (fd : Descriptor) (op : ControlOp) (e : Errno) : PollError :=
  if e = .alreadyExists then .alreadyRegistered fd
  else if e = .noEntry then .notRegistered fd
  else .control fd op (.os e)

end PollError

end Sluice
