import Sluice.Address.Resolve

/-!
# Settings

What the relay is told to do. Settings are validated field by field in a fixed order, and the first
fault is reported.
-/

namespace Sluice

/-- What the relay is told to do. -/
structure Settings where
  listen : List Endpoint := []
  remote : Endpoint := .v4 .loopback 0
  bufferSize : Nat := 16384
  noDelay : Bool := false
  ioThreads : Nat := 1
  maxOpsPerFd : Nat := 100
  initialPoolSize : Nat := 16
  backend : Backend := .native
  pinThreads : Bool := false
  deriving DecidableEq, Repr, Inhabited

namespace Settings

/-- The first thing that is wrong with the settings. -/
def fault? (s : Settings) : Option String :=
  if s.listen = [] then some "at least one listen address is required"
  else if s.bufferSize = 0 then some "buffer size must be positive"
  else if s.ioThreads = 0 then some "num io threads must be positive"
  else if s.maxOpsPerFd = 0 then some "max operations per fd must be positive"
  else if s.initialPoolSize = 0 then some "initial pool size must be positive"
  else if !s.backend.available then
    some (s.backend.name ++ " poller is not available on this platform")
  else none

def validate (s : Settings) : Except RelayError Unit :=
  match s.fault? with
  | some reason => .error (.invalidArgument reason)
  | none => .ok ()

/-- Resolves the endpoints of the settings, the listen addresses first, where the system knows these
names. -/
def resolveEndpointsIn (names : Directory) (listen : List String) (remote : String) :
    Except RelayError (List Endpoint × Endpoint) := do
  let listen ← listen.mapM (resolveIn names)
  let remote ← resolveIn names remote
  return (listen, remote)

/-- Resolves the endpoints of the settings where no names are known. -/
def resolveEndpoints (listen : List String) (remote : String) :
    Except RelayError (List Endpoint × Endpoint) :=
  resolveEndpointsIn .empty listen remote

end Settings

end Sluice
