import Sluice.Fault.IoError
import Sluice.Readiness.Basic

/-!
# Listeners

A listening socket holds the outcomes of the accept calls to come: clients that wait to be accepted,
by the descriptor they will get, and failures. A socket that was never made to listen is in an error
condition and accepts nobody.
-/

namespace Sluice

/-- A socket that clients connect to. -/
structure Listener where
  fd : Descriptor
  listening : Bool := true
  backlog : List (Except Errno Descriptor) := []
  deriving Inhabited

namespace Listener

def conditions (l : Listener) : Conditions where
  readable := l.listening && !l.backlog.isEmpty
  writable := !l.listening
  error := !l.listening

/-- Accepts the next client. That takes a descriptor, and without one the client stays where it
is. -/
def accept (l : Listener) (exhausted : Bool) : Except Errno Descriptor × Listener :=
  if exhausted then (.error .tooManyFiles, l)
  else if !l.listening then (.error .invalidArgument, l)
  else
    match l.backlog with
    | [] => (.error .tryAgain, l)
    | outcome :: rest => (outcome, { l with backlog := rest })

def enqueue (l : Listener) (client : Descriptor) : Listener :=
  { l with backlog := l.backlog ++ [.ok client] }

end Listener

end Sluice
