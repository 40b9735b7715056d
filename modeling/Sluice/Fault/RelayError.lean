import Sluice.Address.Endpoint
import Sluice.Fault.PollError

/-!
# Errors of the relay

What can go wrong before the relay runs: arguments that make no sense, and failures of the system.
An error of the first sort is the user's to mend, so it is shown together with the usage.
-/

namespace Sluice

inductive RelayError where
  | resolve (input : String) (reason : String)
  | invalidArgument (reason : String)
  | bind (endpoint : Endpoint) (source : IoError)
  | listen (endpoint : Endpoint) (source : IoError)
  | pipe (source : Errno)
  | signal (source : Errno)
  | spawn (thread : String) (source : IoError)
  | poll (e : PollError)
  | io (e : IoError)
  deriving DecidableEq, Repr, Inhabited

namespace RelayError

def message : RelayError → String
  | .resolve input reason => "Failed to resolve '" ++ input ++ "': " ++ reason
  | .invalidArgument reason => "Invalid argument: " ++ reason
  | .bind endpoint source => "Failed to bind to " ++ endpoint.text ++ ": " ++ source.message
  | .listen endpoint source => "Failed to listen on " ++ endpoint.text ++ ": " ++ source.message
  | .pipe source => "Failed to set up handoff pipe: " ++ source.signature
  | .signal source => "Failed to configure signal handling: " ++ source.signature
  | .spawn thread source => "Failed to spawn thread " ++ thread ++ ": " ++ source.message
  | .poll e => e.message
  | .io e => "I/O error: " ++ e.message

/-- The texts of the errors behind this one, nearest first. -/
def causes : RelayError → List String
  | .resolve _ _ => []
  | .invalidArgument _ => []
  | .bind _ source => [source.message]
  | .listen _ source => [source.message]
  | .pipe source => [source.signature]
  | .signal source => [source.signature]
  | .spawn _ source => [source.message]
  | .poll e => (e.source?.map IoError.message).toList
  | .io e => [e.message]

/-- Whether the user asked for something that makes no sense. -/
def isUsageError : RelayError → Bool
  | .resolve _ _ => true
  | .invalidArgument _ => true
  | _ => false

end RelayError

end Sluice
