import Sluice.Address.Numeric
import Sluice.Fault.RelayError

/-!
# Listening addresses

What a machine lets an unprivileged program listen on. Any address of version 4 will do, of version
6 only those that the machine has; low ports need a privilege, an endpoint that is in use is not
given twice, and port zero asks for a port of the machine's choice. An address that has its meaning
on one link needs an interface to go with it, and a group of receivers cannot be listened on.
-/

namespace Sluice

/-- The endpoints in use on a machine, its interfaces, and its own addresses of version 6. -/
structure Machine where
  inUse : List Endpoint := []
  interfaces : List UInt32 := [Ipv6.loopbackInterface.2]
  addresses : List Ipv6 := []
  deriving Inhabited

namespace Machine

/-- The first port that needs no privilege. -/
def firstOpenPort : Nat := 1024

/-- The first port that the machine gives out itself. -/
def firstChosenPort : Nat := 32768

/-- Whether listening on `e` takes all addresses that `f` could be reached at. An address of version
4 is the same in either version. -/
def covers (e f : Endpoint) : Bool :=
  match e.unmapped, f.unmapped with
  | .v4 a _, .v4 b _ => a = b || a = .any
  | .v6 a _ _, .v6 b _ _ => a = b || a = .any
  | .v6 a _ _, .v4 _ _ => a = .any
  | .v4 _ _, .v6 _ _ _ => false

/-- Whether both cannot be listened on at once. -/
def conflict (e f : Endpoint) : Bool :=
  e.port = f.port && (covers e f || covers f e)

/-- Why an address of version 6 is none of the machine's. The scope says on which interface to look
for one that has its meaning on a single link. -/
def missing? (m : Machine) (ip : Ipv6) (scope : UInt32) : Option Errno :=
  if ip = .any ∨ ip.mapped?.isSome ∨ ip ∈ m.addresses then none
  else if !ip.isLinkLocal then some .addressNotAvailable
  else if scope = 0 then some .invalidArgument
  else if scope ∈ m.interfaces then some .addressNotAvailable
  else some .noSuchDevice

/-- Why the machine does not let a program listen on `e`, if it does not. Of several reasons the
first counts. -/
def refusal? (m : Machine) (e : Endpoint) : Option Errno :=
  let group? := if e.isMulticast then some .invalidArgument else none
  let privilege? := if e.port ≠ 0 ∧ e.port.toNat < firstOpenPort then some .accessDenied else none
  let missing? := match e with
    | .v4 _ _ => none
    | .v6 ip scope _ => m.missing? ip scope
  let taken? := if e.port ≠ 0 ∧ m.inUse.any (conflict e) then some .addressInUse else none
  group?.or <| privilege?.or <| missing?.or taken?

/-- Begins to listen on `e`, and gives the endpoint with the port that is really used. A socket
takes a descriptor, which is asked for before anything else. -/
def bind (m : Machine) (exhausted : Bool) (e : Endpoint) : Except RelayError (Endpoint × Machine) :=
  if exhausted then .error (.bind e (.os .tooManyFiles))
  else
    match m.refusal? e with
    | some errno => .error (.bind e (.os errno))
    | none =>
      let chosen := if e.port = 0 then e.withPort (firstChosenPort + m.inUse.length).toUInt16 else e
      let chosen := chosen.settled
      .ok (chosen, { m with inUse := chosen :: m.inUse })

end Machine

end Sluice
