import Sluice.Address.IpReader

/-!
# Endpoints

An endpoint is an internet address with a port. The address of version 6 may carry a scope, which is
part of its text when it is not zero, and stands in brackets to set it off from the port.
-/

namespace Sluice

/-- An internet address with a port. -/
inductive Endpoint where
  | v4 (ip : Ipv4) (port : UInt16)
  | v6 (ip : Ipv6) (scope : UInt32) (port : UInt16)
  deriving DecidableEq, Repr, Inhabited

namespace Endpoint

def port : Endpoint → UInt16
  | .v4 _ p => p
  | .v6 _ _ p => p

def withPort (p : UInt16) : Endpoint → Endpoint
  | .v4 ip _ => .v4 ip p
  | .v6 ip scope _ => .v6 ip scope p

/-- The endpoint in version 4, if its address is of that version or carries one. -/
def unmapped : Endpoint → Endpoint
  | .v4 ip p => .v4 ip p
  | .v6 ip scope p => (ip.mapped?.map (.v4 · p)).getD (.v6 ip scope p)

def isMulticast : Endpoint → Bool
  | .v4 _ _ => false
  | .v6 ip _ _ => ip.isMulticast

/-- The endpoint as the system knows it: a scope that says nothing about the address is
forgotten. -/
def settled : Endpoint → Endpoint
  | .v4 ip p => .v4 ip p
  | .v6 ip scope p => .v6 ip (if ip.isLinkLocal then scope else 0) p

def isV6 : Endpoint → Bool
  | .v4 _ _ => false
  | .v6 _ _ _ => true

def host : Endpoint → List Char
  | .v4 ip _ => ip.chars
  | .v6 ip _ _ => ip.chars

def chars : Endpoint → List Char
  | .v4 ip port => ip.chars ++ ':' :: Numeral.ofNat 10 port.toNat
  | .v6 ip scope port =>
    let zone := if scope = 0 then [] else '%' :: Numeral.ofNat 10 scope.toNat
    '[' :: ip.chars ++ zone ++ ']' :: ':' :: Numeral.ofNat 10 port.toNat

def text (e : Endpoint) : String :=
  String.ofList e.chars

/-! ## Reading -/

/-- Reads a decimal number below `limit`; leading zeros are allowed. -/
def readNumber (limit : Nat) (s : List Char) : Option (Nat × List Char) :=
  let (digits, rest) := Numeral.span 10 s
  let n := Numeral.value 10 digits
  if digits = [] then none
  else if n < limit then some (n, rest)
  else none

def readPort (s : List Char) : Option (UInt16 × List Char) := do
  let s ← readChar ':' s
  let (n, s) ← readNumber (1 <<< 16) s
  return (n.toUInt16, s)

/-- Reads the scope of an address, which is zero when none is written. -/
def readScope (s : List Char) : Option (UInt32 × List Char) :=
  match s with
  | '%' :: rest => (readNumber (1 <<< 32) rest).map fun r => (r.1.toUInt32, r.2)
  | _ => some (0, s)

def readV4 (s : List Char) : Option (Endpoint × List Char) := do
  let (ip, s) ← Ipv4.read s
  let (port, s) ← readPort s
  return (.v4 ip port, s)

def readV6 (s : List Char) : Option (Endpoint × List Char) := do
  let s ← readChar '[' s
  let (ip, s) ← Ipv6.read s
  let (scope, s) ← readScope s
  let s ← readChar ']' s
  let (port, s) ← readPort s
  return (.v6 ip scope port, s)

def parse? (s : String) : Option Endpoint :=
  match readV4 s.toList with
  | some (e, []) => some e
  | _ =>
    match readV6 s.toList with
    | some (e, []) => some e
    | _ => none

end Endpoint

end Sluice
