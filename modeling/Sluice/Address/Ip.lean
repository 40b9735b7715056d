import Sluice.Text.Numeral

/-!
# Internet addresses and their text

An address of version 4 is written as four decimal numbers. One of version 6 is written as eight
groups of hexadecimal digits; the longest run of at least two zero groups, the first of equals, is
left out and marked by a double colon, and an address that carries one of version 4 ends in its
dotted form.
-/

namespace Sluice

structure Ipv4 where
  a : UInt8
  b : UInt8
  c : UInt8
  d : UInt8
  deriving DecidableEq, Repr, Inhabited

namespace Ipv4

def chars (ip : Ipv4) : List Char :=
  let part (n : UInt8) := Numeral.ofNat 10 n.toNat
  part ip.a ++ '.' :: part ip.b ++ '.' :: part ip.c ++ '.' :: part ip.d

/-- The address as two groups of an address of version 6. -/
def groups (ip : Ipv4) : List UInt16 :=
  let pair (x y : UInt8) := x.toUInt16 * 256 + y.toUInt16
  [pair ip.a ip.b, pair ip.c ip.d]

/-- The address with the given number, most significant byte first. -/
def ofNat (n : Nat) : Ipv4 :=
  ⟨(n >>> 24).toUInt8, (n >>> 16).toUInt8, (n >>> 8).toUInt8, n.toUInt8⟩

def any : Ipv4 := ⟨0, 0, 0, 0⟩
def loopback : Ipv4 := ⟨127, 0, 0, 1⟩

end Ipv4

/-- An address of version 6, in eight groups. -/
structure Ipv6 where
  groups : List UInt16
  length_groups : groups.length = 8
  deriving DecidableEq, Repr

namespace Ipv6

def any : Ipv6 := ⟨List.replicate 8 0, rfl⟩

instance : Inhabited Ipv6 := ⟨any⟩

/-- Whether the address means something on one link only. -/
def isLinkLocal (ip : Ipv6) : Bool :=
  match ip.groups with
  | g :: _ => g &&& 0xffc0 = 0xfe80
  | [] => false

def isMulticast (ip : Ipv6) : Bool :=
  match ip.groups with
  | g :: _ => g &&& 0xff00 = 0xff00
  | [] => false

/-- The address of version 4 that this one carries. -/
def mapped? (ip : Ipv6) : Option Ipv4 :=
  match ip.groups with
  | [0, 0, 0, 0, 0, 0xffff, hi, lo] =>
    some ⟨(hi / 256).toUInt8, hi.toUInt8, (lo / 256).toUInt8, lo.toUInt8⟩
  | _ => none

/-- A run of consecutive groups. -/
structure Run where
  start : Nat
  length : Nat
  deriving DecidableEq, Repr, Inhabited

/-- The longest run of zero groups, the first of equals. Here `i` is the index of the next group,
`current` the run of zeros just before it and `best` the longest run so far. -/
def longestZeros (i : Nat) (current best : Run) : List UInt16 → Run
  | [] => best
  | g :: rest =>
    if g = 0 then
      let current : Run :=
        if current.length = 0 then ⟨i, 1⟩ else ⟨current.start, current.length + 1⟩
      let best := if best.length < current.length then current else best
      longestZeros (i + 1) current best rest
    else longestZeros (i + 1) ⟨0, 0⟩ best rest

/-- Groups with colons between them. -/
def joined : List UInt16 → List Char
  | [] => []
  | [g] => Numeral.ofNat 16 g.toNat
  | g :: rest => Numeral.ofNat 16 g.toNat ++ ':' :: joined rest

def chars (ip : Ipv6) : List Char :=
  match ip.mapped? with
  | some v4 => "::ffff:".toList ++ v4.chars
  | none =>
    let zeros := longestZeros 0 ⟨0, 0⟩ ⟨0, 0⟩ ip.groups
    if 1 < zeros.length then
      joined (ip.groups.take zeros.start) ++ "::".toList ++
        joined (ip.groups.drop (zeros.start + zeros.length))
    else joined ip.groups

end Ipv6

end Sluice
