import Sluice.Address.Endpoint

/-!
# Numeric host names

Besides the canonical forms, a host may be written as one to four numbers with dots between them,
each in C notation; the last number fills all the bytes that are left. An address of version 6 may
name its scope after a percent sign.
-/

namespace Sluice

/-- Reads a number in C notation: hexadecimal after 0x, octal after 0, else decimal. -/
def readCNumber (s : List Char) : Option (Nat × List Char) :=
  let inBase (base : Nat) (s : List Char) : Nat × List Char :=
    let (digits, rest) := Numeral.span base s
    (Numeral.value base digits, rest)
  let hexadecimal (c : Char) (s : List Char) : Bool :=
    (c == 'x' || c == 'X') && (s.head?.map (Numeral.isDigit 16)).getD false
  match s with
  | '0' :: c :: rest =>
    if hexadecimal c rest then some (inBase 16 rest) else some (inBase 8 s)
  | c :: _ => if Numeral.isDigit 10 c then some (inBase 10 s) else none
  | [] => none

namespace Ipv4

/-- Reads numbers with dots between them to the end of the text, at most `limit` of them. -/
def readParts : Nat → List Char → Option (List Nat)
  | 0, _ => none
  | limit + 1, s =>
    match readCNumber s with
    | some (n, []) => some [n]
    | some (n, '.' :: rest) => (readParts limit rest).map (n :: ·)
    | _ => none

/-- The address whose bytes are the given numbers, of which the last one fills the bytes that are
left. -/
def ofParts? (parts : List Nat) : Option Ipv4 :=
  let lead := parts.dropLast
  let last := parts.getLast?.getD 0
  let room := 1 <<< (8 * (4 - lead.length))
  if lead.all (· < 256) ∧ last < room then
    some (.ofNat (lead.foldl (fun n b => n * 256 + b) 0 * room + last))
  else none

def parseLoose? (s : List Char) : Option Ipv4 :=
  (readParts 4 s).bind ofParts?

end Ipv4

namespace Ipv6

/-- Whether the address, of one receiver or of many, has its meaning on one interface or link
only. -/
def isLocal (ip : Ipv6) : Bool :=
  match ip.groups with
  | g :: _ => ip.isLinkLocal || g &&& 0xff0f = 0xff01 || g &&& 0xff0f = 0xff02
  | [] => false

/-- The name of the interface that every machine has, and its number. -/
def loopbackInterface : List Char × UInt32 := (['l', 'o'], 1)

/-- The scope that a text stands for with an address: a number, or an interface if the address is
local. -/
def scopeOf? (ip : Ipv6) (zone : List Char) : Option UInt32 :=
  if ip.isLocal ∧ zone = loopbackInterface.1 then some loopbackInterface.2
  else
    match Endpoint.readNumber (1 <<< 32) zone with
    | some (scope, []) => some scope.toUInt32
    | _ => none

/-- The address and the scope that a whole text stands for. -/
def parseScoped? (s : List Char) : Option (Ipv6 × UInt32) :=
  match s.dropWhile (· != '%') with
  | _ :: zone => do
    let ip ← parse? (s.takeWhile (· != '%'))
    return (ip, ← scopeOf? ip zone)
  | [] => none

end Ipv6

namespace Endpoint

/-- The endpoint that a host stands for in one of its numeric forms. -/
def ofNumericHost? (host : List Char) (port : UInt16) : Option Endpoint :=
  ((Ipv4.parse? host).map (.v4 · port)).or <|
  ((Ipv6.parse? host).map (.v6 · 0 port)).or <|
  ((Ipv4.parseLoose? host).map (.v4 · port)).or <|
  (Ipv6.parseScoped? host).map fun r => .v6 r.1 r.2 port

end Endpoint

end Sluice
