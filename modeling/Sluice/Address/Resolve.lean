import Sluice.Address.Numeric
import Sluice.Fault.RelayError

/-!
# From text to endpoint

An endpoint is given as a host and a port with a colon between them. The last colon counts, so an
address of version 6 needs no brackets, but may have them. The syntax is judged first
(`Target.ofText?`); only a host that is well placed is looked up. A host that is written as an
address stands for that; what other hosts stand for is for the system to say (`Directory`).
-/

namespace Sluice

/-- The addresses that the system has for the name of a host, or why it has none. -/
abbrev Directory := List Char → Except String (List Endpoint)

/-- The directory of a system that knows no names. -/
def Directory.empty : Directory :=
  fun _ => .error "failed to lookup address information: Name or service not known"

/-- A host, as it was written, and a port. -/
structure Target where
  host : List Char
  port : UInt16
  deriving DecidableEq, Repr, Inhabited

namespace Target

/-- The text before and after the last occurrence of `c`. -/
def splitAtLast (c : Char) (s : List Char) : Option (List Char × List Char) :=
  let after := (s.reverse.takeWhile (· != c)).reverse
  if after.length < s.length then some (s.take (s.length - after.length - 1), after) else none

/-- Takes away a pair of brackets around the host. -/
def unbracketed : List Char → List Char
  | '[' :: rest => if rest.getLast? = some ']' then rest.dropLast else '[' :: rest
  | s => s

/-- Reads a port: decimal digits, after an optional plus sign. -/
def port? (s : List Char) : Option UInt16 :=
  match Numeral.unsigned? s with
  | some n => if n < 1 <<< 16 then some n.toUInt16 else none
  | none => none

def ofText? (s : List Char) : Option Target := do
  let (before, after) ← splitAtLast ':' s
  let host := unbracketed before
  if host = [] then none
  else
    let port ← port? after
    return ⟨host, port⟩

def lookUp (names : Directory) (t : Target) : Except String Endpoint :=
  if t.host.contains '\x00' then .error "file name contained an unexpected NUL byte"
  else
    match Endpoint.ofNumericHost? t.host t.port with
    | some e => .ok e
    | none =>
      match names t.host with
      | .ok (e :: _) => .ok (e.withPort t.port)
      | .ok [] => .error "no addresses found"
      | .error reason => .error reason

end Target

/-- The endpoint that the user means, where the system knows these names. -/
def resolveIn (names : Directory) (input : String) : Except RelayError Endpoint :=
  match Target.ofText? input.toList with
  | none => .error (.invalidArgument ("invalid address:port argument: '" ++ input ++ "'"))
  | some t =>
    match t.lookUp names with
    | .ok e => .ok e
    | .error reason => .error (.resolve input reason)

/-- The endpoint that the user means, where no names are known. -/
def resolve (input : String) : Except RelayError Endpoint :=
  resolveIn .empty input

end Sluice
