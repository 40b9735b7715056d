import Sluice.Fault.Errno

/-!
# Input and output errors

An operation on a descriptor fails with a system error number, with a bare kind, or with a kind and
a text of its own. Only two kinds steer the relay: an interrupted call is made again, and a call
that would block ends the transfer without harm.
-/

namespace Sluice

namespace IoError

/-- What sort of failure it was, independent of its number. -/
inductive Kind where
  | interrupted
  | wouldBlock
  | writeZero
  | unexpectedEof
  | notConnected
  | addressInUse
  | connectionReset
  | brokenPipe
  | timedOut
  | permissionDenied
  | other
  deriving DecidableEq, Repr, Inhabited

def Kind.all : List Kind := [
  .interrupted, .wouldBlock, .writeZero, .unexpectedEof, .notConnected, .addressInUse,
  .connectionReset, .brokenPipe, .timedOut, .permissionDenied, .other]

/-- The wording of a kind that comes without any other text. -/
def Kind.message : Kind → String
  | .interrupted => "operation interrupted"
  | .wouldBlock => "operation would block"
  | .writeZero => "write zero"
  | .unexpectedEof => "unexpected end of file"
  | .notConnected => "not connected"
  | .addressInUse => "address in use"
  | .connectionReset => "connection reset"
  | .brokenPipe => "broken pipe"
  | .timedOut => "timed out"
  | .permissionDenied => "permission denied"
  | .other => "other error"

/-- The kind that a system error number belongs to. -/
def Kind.ofErrno (e : Errno) : Kind :=
  if e = .interrupted then .interrupted
  else if e = .tryAgain then .wouldBlock
  else if e = .notConnected then .notConnected
  else if e = .addressInUse then .addressInUse
  else if e = .connectionReset then .connectionReset
  else if e = .brokenPipe then .brokenPipe
  else if e = .timedOut then .timedOut
  else if e = .accessDenied ∨ e = .notPermitted then .permissionDenied
  else .other

end IoError

inductive IoError where
  | os (errno : Errno)
  | plain (kind : IoError.Kind)
  | custom (kind : IoError.Kind) (text : String)
  deriving DecidableEq, Repr, Inhabited

namespace IoError

def kind : IoError → Kind
  | .os e => .ofErrno e
  | .plain k => k
  | .custom k _ => k

/-- The text of the error as a cause of another one. -/
def message : IoError → String
  | .os e => e.message
  | .plain k => k.message
  | .custom _ text => text

/-- The text of the error in a log line: numbers keep their short wording. -/
def describe : IoError → String
  | .os e => e.describe
  | .plain k => k.message
  | .custom _ text => text

@[simp] theorem kind_os (e : Errno) : (IoError.os e).kind = .ofErrno e := rfl

end IoError

end Sluice
