import Sluice.Text.Alphanumeric
import Sluice.Text.Numeral

/-!
# Patterns

A directive may ask for a value that an entry carries: a number, or a text that matches a pattern.
Whether a text is a pattern is decided here; nothing in the log carries values that a pattern could
match. Classes of characters by property and letters without regard to case need tables that the log
does not have, so patterns with them are refused.
-/

namespace Sluice.Log.Pattern

inductive Token where
  /-- A character that may have a meaning in the pattern. -/
  | sign (c : Char)
  /-- A character that stands for itself. -/
  | literal (c : Char)
  /-- The beginning or the end of the text. -/
  | anchor
  deriving DecidableEq, Repr, Inhabited

/-- The piece that a backslash makes of a character. -/
def escaped? (c : Char) : Option Token :=
  match c with
  | 'a' => some (.literal '\x07')
  | 'f' => some (.literal '\x0c')
  | 'n' => some (.literal '\n')
  | 'r' => some (.literal '\r')
  | 't' => some (.literal '\t')
  | 'v' => some (.literal '\x0b')
  | 'A' => some .anchor
  | 'z' => some .anchor
  | _ => if c.isAlphanum ∨ c = '<' ∨ c = '>' ∨ 0x80 ≤ c.toNat then none else some (.literal c)

/-- The character with a number in hexadecimal digits. -/
def numbered? (digits : List Char) : Option Token :=
  let n := Numeral.value 16 digits
  if digits.all (Numeral.isDigit 16) ∧ n.isValidChar then some (.literal (Char.ofNat n)) else none

def tokens? : List Char → Option (List Token)
  | [] => some []
  | '\\' :: 'x' :: a :: b :: rest => return (← numbered? [a, b]) :: (← tokens? rest)
  | '\\' :: 'u' :: a :: b :: c :: d :: rest => return (← numbered? [a, b, c, d]) :: (← tokens? rest)
  | '\\' :: 'U' :: a :: b :: c :: d :: e :: f :: g :: h :: rest =>
    return (← numbered? [a, b, c, d, e, f, g, h]) :: (← tokens? rest)
  | '\\' :: c :: rest => return (← escaped? c) :: (← tokens? rest)
  | ['\\'] => none
  | c :: rest => return .sign c :: (← tokens? rest)

/-! ## Classes -/

/-- Where in a class of characters a reader stands. -/
inductive ClassPlace where
  /-- Right behind the opening bracket, where a closing one stands for itself. -/
  | fresh
  /-- Behind the dashes at the head, which stand for themselves. -/
  | dashes
  | inside
  deriving DecidableEq, Repr, Inhabited

/-- The character that a piece of a class stands for. -/
def Token.member? : Token → Option Char
  | .sign c => some c
  | .literal c => some c
  | .anchor => none

def isRange (a b : Token) : Bool :=
  match a.member?, b.member? with
  | some a, some b => a ≤ b
  | _, _ => false

/-- Puts one piece in the place of every class, of which `depth` are open. -/
def closeClasses? (depth : Nat) (place : ClassPlace) : List Token → Option (List Token)
  | [] => if depth = 0 then some [] else none
  | .sign '[' :: .sign '^' :: rest => closeClasses? (depth + 1) .fresh rest
  | .sign '[' :: rest => closeClasses? (depth + 1) .fresh rest
  | t :: rest =>
    if depth = 0 then (closeClasses? 0 .inside rest).map (t :: ·)
    else if t = .sign ']' then
      if place = .fresh then closeClasses? depth .inside rest
      else if depth = 1 then (closeClasses? 0 .inside rest).map (.literal ']' :: ·)
      else closeClasses? (depth - 1) .inside rest
    else if t = .sign '-' ∧ place ≠ .inside then closeClasses? depth .dashes rest
    else
      match rest with
      | .sign '-' :: b :: beyond =>
        if t = .sign '-' then closeClasses? depth .inside (b :: beyond)
        else if b = .sign ']' ∨ b = .sign '-' then
          if t = .anchor then none else closeClasses? depth .inside (.sign '-' :: b :: beyond)
        else if isRange t b then closeClasses? depth .inside beyond
        else none
      | rest => if t = .anchor then none else closeClasses? depth .inside rest

/-! ## Groups -/

/-- What stands before the place that is read. -/
inductive Before where
  /-- Nothing that could be repeated. -/
  | nothing
  | piece
  | repeated
  deriving DecidableEq, Repr, Inhabited

/-- What is being read of a pattern. -/
inductive Stage where
  | body (before : Before)
  /-- The name of a group, as far as it is known. -/
  | name (cs : List Char)
  /-- The switches of a group, the last one first. -/
  | switches (seen : List Char)
  deriving DecidableEq, Repr, Inhabited

/-- Whether the character may stand in the name of a group, behind the given ones. -/
def isNameChar (before : List Char) (c : Char) : Bool :=
  c = '_' || if before = [] then Text.isAlphanumeric c && !c.isDigit
    else c = '.' || c = '[' || c = ']' || Text.isAlphanumeric c

/-- Whether the pieces complete a pattern in which `depth` groups are open; `names` are the names
given. -/
def completes (depth : Nat) (names : List (List Char)) : Stage → List Token → Bool
  | .body _, [] => depth = 0
  | _, [] => false
  | .body _, .sign '(' :: .sign '?' :: .sign 'P' :: .sign '<' :: rest =>
    completes depth names (.name []) rest
  | .body _, .sign '(' :: .sign '?' :: .sign '<' :: rest => completes depth names (.name []) rest
  | .body _, .sign '(' :: .sign '?' :: rest => completes depth names (.switches []) rest
  | .body before, .sign c :: rest =>
    if c = '(' then completes (depth + 1) names (.body .nothing) rest
    else if c = ')' then depth ≠ 0 && completes (depth - 1) names (.body .piece) rest
    else if c = '|' then completes depth names (.body .nothing) rest
    else if c = '?' ∧ before = .repeated then completes depth names (.body .piece) rest
    else if c = '?' ∨ c = '*' ∨ c = '+' then
      before ≠ .nothing && completes depth names (.body .repeated) rest
    else c ≠ '\x7b' && completes depth names (.body .piece) rest
  | .body _, _ :: rest => completes depth names (.body .piece) rest
  | .name cs, .sign c :: rest =>
    if c = '>' then
      cs ≠ [] && !names.contains cs && completes (depth + 1) (cs :: names) (.body .nothing) rest
    else isNameChar cs c && completes depth names (.name (cs ++ [c])) rest
  | .switches seen, .sign c :: rest =>
    if c = ':' then seen.head? ≠ some '-' && completes (depth + 1) names (.body .nothing) rest
    else if c = ')' then
      seen ≠ [] && seen.head? ≠ some '-' && completes depth names (.body .nothing) rest
    else
      "-msUuRx".toList.contains c && !seen.contains c
        && completes depth names (.switches (c :: seen)) rest
  | _, _ :: _ => false

def isPattern (s : List Char) : Bool :=
  match (tokens? s).bind (closeClasses? 0 .inside) with
  | some ts => completes 0 [] (.body .nothing) ts
  | none => false

/-! ## Numbers -/

def dropSign : List Char → List Char
  | '+' :: rest => rest
  | '-' :: rest => rest
  | s => s

/-- Whether the text is empty or the exponent of a number. -/
def isExponent : List Char → Bool
  | [] => true
  | e :: rest =>
    let digits := dropSign rest
    (e = 'e' || e = 'E') && digits ≠ [] && digits.all (Numeral.isDigit 10)

/-- Whether the text is a number, with or without a sign, a fraction and an exponent, or one of the
words for what is beyond numbers. -/
def isNumber (s : List Char) : Bool :=
  let size := dropSign s
  let (whole, rest) := Numeral.span 10 size
  ["inf", "infinity", "nan"].contains (String.ofList (size.map Char.toLower)) ||
    match rest with
    | '.' :: rest =>
      let (part, rest) := Numeral.span 10 rest
      (whole ≠ [] || part ≠ []) && isExponent rest
    | rest => whole ≠ [] && isExponent rest

/-- Whether the text can be asked for as a value. -/
def isValue (s : List Char) : Bool :=
  isNumber s || isPattern s

end Sluice.Log.Pattern
