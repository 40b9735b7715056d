import Sluice.Address.Ip

/-!
# Reading internet addresses

Readers take an address from the head of a text and give back the rest. Decimal parts have at most
three digits and no leading zero; hexadecimal groups have at most four digits. In an address of
version 6 a double colon stands for at least one zero group, and the last two groups may be written
in dotted form.
-/

namespace Sluice

def readChar (c : Char) : List Char → Option (List Char)
  | [] => none
  | d :: rest => if d = c then some rest else none

/-- Reads with `read`, after a separator unless it is the first of its kind. -/
def readSeparated {α : Type} (separator : Char) (first : Bool)
    (read : List Char → Option (α × List Char)) (s : List Char) : Option (α × List Char) :=
  if first then read s else (readChar separator s).bind read

namespace Ipv4

/-- Reads a number below 256. -/
def readPart (s : List Char) : Option (UInt8 × List Char) :=
  let (digits, rest) := Numeral.span 10 s
  let n := Numeral.value 10 digits
  if digits = [] ∨ 3 < digits.length then none
  else if digits.head? = some '0' ∧ 1 < digits.length then none
  else if n < 256 then some (n.toUInt8, rest)
  else none

def read (s : List Char) : Option (Ipv4 × List Char) := do
  let (a, s) ← readSeparated '.' true readPart s
  let (b, s) ← readSeparated '.' false readPart s
  let (c, s) ← readSeparated '.' false readPart s
  let (d, s) ← readSeparated '.' false readPart s
  return (⟨a, b, c, d⟩, s)

def parse? (s : List Char) : Option Ipv4 :=
  match read s with
  | some (ip, []) => some ip
  | _ => none

end Ipv4

namespace Ipv6

/-- Reads a group of one to four digits. -/
def readGroup (s : List Char) : Option (UInt16 × List Char) :=
  let (digits, rest) := Numeral.span 16 s
  if digits = [] ∨ 4 < digits.length then none
  else some ((Numeral.value 16 digits).toUInt16, rest)

/-- What was read of a row of groups: the groups, whether they end in a dotted form, and the
rest. -/
structure Row where
  groups : List UInt16
  dotted : Bool
  rest : List Char
  deriving DecidableEq, Repr, Inhabited

/-- Reads at most `limit` groups with colons between them. A dotted form takes the room of two. -/
def readRow (first : Bool) : Nat → List Char → Row
  | 0, s => ⟨[], false, s⟩
  | limit + 1, s =>
    let dotted := if 0 < limit then readSeparated ':' first Ipv4.read s else none
    match dotted with
    | some (ip, rest) => ⟨ip.groups, true, rest⟩
    | none =>
      match readSeparated ':' first readGroup s with
      | some (g, rest) =>
        let row := readRow false limit rest
        { row with groups := g :: row.groups }
      | none => ⟨[], false, s⟩

theorem length_readRow_le (first : Bool) (limit : Nat) (s : List Char) :
    (readRow first limit s).groups.length ≤ limit := by
  induction limit generalizing first s with
  | zero => simp [readRow]
  | succ limit ih =>
    simp only [readRow]
    split
    · next h =>
      split at h
      · simp [Ipv4.groups]; omega
      · cases h
    · split
      · simpa using ih false _
      · simp

/-- The groups `head` and `tail`, with zero groups between them. -/
def spread (head tail : List UInt16) (h : head.length + tail.length ≤ 8) : Ipv6 :=
  ⟨head ++ List.replicate (8 - (head.length + tail.length)) 0 ++ tail, by simp; omega⟩

def read (s : List Char) : Option (Ipv6 × List Char) :=
  let head := readRow true 8 s
  if full : head.groups.length = 8 then some (⟨head.groups, full⟩, head.rest)
  else if head.dotted then none
  else
    match (readChar ':' head.rest).bind (readChar ':') with
    | none => none
    | some s =>
      let limit := 7 - head.groups.length
      let tail := readRow true limit s
      have ht : tail.groups.length ≤ limit := length_readRow_le true limit s
      have hh : head.groups.length ≤ 8 := length_readRow_le true 8 _
      some (spread head.groups tail.groups (by omega), tail.rest)

def parse? (s : List Char) : Option Ipv6 :=
  match read s with
  | some (ip, []) => some ip
  | _ => none

end Ipv6

end Sluice
