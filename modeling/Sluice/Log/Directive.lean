import Sluice.Log.Entry
import Sluice.Log.Pattern
import Sluice.Text.Blank
import Sluice.Text.Cut

/-!
# Directives of a log filter

A directive sets how important entries must be to show. It may be a level alone. It may name a
target, for the parts of the program whose names begin with it, and after it, in brackets, a span in
which the entry must have been made and a value that the entry must carry; then the level comes
last, behind an equals sign.

```
  info
  relaygate=debug
  relaygate[span{name=pattern}]=warn
```

Blanks around a directive do not count when its signs are looked for, but the words between the
signs are taken from the directive with its blanks, at the same places. So a directive that begins
with a blank is read with a shift, and a cut through a character is possible.
-/

namespace Sluice.Log

/-! ## Levels -/

/-- The levels in the order of their numbers; the first one shows nothing. -/
def thresholds : List (String × Option Level) := [
  ("off", none), ("error", some .error), ("warn", some .warn), ("info", some .info),
  ("debug", some .debug), ("trace", some .trace)]

/-- The threshold that a word sets: a level by its name, in letters of either case, or by its
number. -/
def threshold? (word : List Char) : Option (Option Level) :=
  match Numeral.unsigned? word with
  | some n => (thresholds[n]?).map (·.2)
  | none => thresholds.lookup (String.ofList (word.map Char.toLower))

/-! ## Directives -/

/-- A value that an entry must carry: its name, and what it must match, if that matters. -/
structure Condition where
  name : List Char
  pattern : Option (List Char)
  deriving DecidableEq, Repr, Inhabited

structure Directive where
  threshold : Option Level := some .trace
  target : Option (List Char) := none
  span : Option (List Char) := none
  condition : Option Condition := none
  deriving DecidableEq, Repr, Inhabited

/-- Why a text is no directive. -/
inductive Flaw where
  | senseless
  /-- A word would have to be cut out inside a character. -/
  | miscut (place : Nat)
  deriving DecidableEq, Repr, Inhabited

/-- Reads a condition. The name ends at the first equals sign, and the pattern at the second. -/
def Condition.ofText? (s : List Char) : Except Flaw Condition :=
  let name := s.takeWhile (· != '=')
  match s.dropWhile (· != '=') with
  | [] => if name = [] then .error .senseless else .ok ⟨name, none⟩
  | _ :: rest =>
    let pattern := rest.takeWhile (· != '=')
    if Pattern.isValue pattern then .ok ⟨name, some pattern⟩ else .error .senseless

namespace Directive

/-- What is being read of a directive, and the place where it begins. -/
inductive Stage where
  | start
  /-- A level or a target. -/
  | word (first : Nat)
  | span (first : Nat)
  | condition (first : Nat)
  /-- Behind the condition. -/
  | conditionEnd
  /-- Behind the brackets. -/
  | bracketEnd
  | level (first : Nat)
  deriving DecidableEq, Repr, Inhabited

/-- A directive as far as it is known, and what is being read of it. -/
abbrev Draft := Directive × Stage

def wordOf (text : List Char) (first last : Nat) : Except Flaw (List Char) :=
  match Text.cut? text first last with
  | some word => .ok word
  | none => .error (.miscut last)

def isInitial (c : Char) : Bool :=
  c = '[' || c = '-' || c = ':' || c = '_' || Text.isAlphanumeric c

/-- Reads the character at a place; `text` is where the words are taken from. -/
def read (text : List Char) (place : Nat) (c : Char) : Draft → Except Flaw Draft
  | (d, .start) =>
    if c = '[' then .ok (d, .span (place + 1))
    else if isInitial c then .ok (d, .word place)
    else .error .senseless
  | (d, .word first) =>
    if c = '=' then return ({ d with target := some (← wordOf text first place) },
      .level (place + 1))
    else if c = '[' then
      return ({ d with target := some (← wordOf text first place) }, .span (place + 1))
    else .ok (d, .word first)
  | (d, .span first) =>
    if c = ']' then return ({ d with span := some (← wordOf text first place) }, .bracketEnd)
    else if c = '\x7b' then do
      let span ← wordOf text first place
      return ({ d with span := if span = [] then none else some span }, .condition (place + 1))
    else .ok (d, .span first)
  | (d, .condition first) =>
    if c = '\x7d' then do
      let condition ← wordOf text first place
      return ({ d with condition := some (← Condition.ofText? condition) }, .conditionEnd)
    else .ok (d, .condition first)
  | (d, .conditionEnd) => if c = ']' then .ok (d, .bracketEnd) else .error .senseless
  | (d, .bracketEnd) => if c = '=' then .ok (d, .level (place + 1)) else .error .senseless
  | (d, .level first) => .ok (d, .level first)

def readAll (text : List Char) (place : Nat) : List Char → Draft → Except Flaw Draft
  | [], draft => .ok draft
  | c :: rest, draft => do readAll text (place + c.utf8Size) rest (← read text place c draft)

def lastWord (text : List Char) (first : Nat) : Except Flaw (List Char) :=
  wordOf text first (Text.byteLength text)

/-- What the draft amounts to when nothing follows. A word alone is a target if it is no level, and
what has no level asks for everything. -/
def finish (text : List Char) : Draft → Except Flaw Directive
  | (d, .word first) => do
    let word ← lastWord text first
    return match threshold? word with
      | some threshold => { d with threshold }
      | none => { d with target := some word }
  | (d, .level first) => do
    let word ← lastWord text first
    if word = [] then return d
    else
      match threshold? word with
      | some threshold => return { d with threshold }
      | none => throw .senseless
  | (d, .bracketEnd) => .ok d
  | _ => .error .senseless

def ofText? (text : List Char) : Except Flaw Directive := do
  finish text (← readAll text 0 (Text.trimmed text) ({}, .start))

end Directive

end Sluice.Log
