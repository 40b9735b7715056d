/-!
# Numerals

Numbers written in a base between 2 and 16, and the longest run of digits at the head of a text.
Reading takes digits of both cases, writing uses the lower one.
-/

namespace Sluice.Numeral

/-- The value of a digit in `base`. -/
def digit? (base : Nat) (c : Char) : Option Nat :=
  let v :=
    if '0' ≤ c ∧ c ≤ '9' then some (c.toNat - '0'.toNat)
    else if 'a' ≤ c ∧ c ≤ 'f' then some (c.toNat - 'a'.toNat + 10)
    else if 'A' ≤ c ∧ c ≤ 'F' then some (c.toNat - 'A'.toNat + 10)
    else none
  v.filter (· < base)

def isDigit (base : Nat) (c : Char) : Bool :=
  (digit? base c).isSome

/-- The number that a text of digits stands for. -/
def value (base : Nat) (digits : List Char) : Nat :=
  digits.foldl (fun n c => n * base + (digit? base c).getD 0) 0

/-- The digits at the head of a text, and the rest. -/
def span (base : Nat) (s : List Char) : List Char × List Char :=
  (s.takeWhile (isDigit base), s.dropWhile (isDigit base))

/-- The text of a number in `base`. -/
def ofNat (base n : Nat) : List Char :=
  Nat.toDigits base n

/-- Reads a whole text as a number: digits, after an optional plus sign. -/
def unsigned? (s : List Char) : Option Nat :=
  let digits := match s with
    | '+' :: rest => rest
    | _ => s
  if digits ≠ [] ∧ digits.all (isDigit 10) then some (value 10 digits) else none

/-- Reads a whole text as a positive number of 64 bits. -/
def positiveWord? (s : List Char) : Option Nat :=
  (unsigned? s).filter fun n => 0 < n ∧ n < 1 <<< 64

end Sluice.Numeral
