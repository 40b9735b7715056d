import Sluice.Text.Invisible

/-!
# Quoted and escaped text

A quoted text stands between double quotes; quotes and backslashes inside are marked by a backslash,
line ends, tabs and the null character have short forms, and other characters that do not show are
given by number. An escaped text only replaces the characters that would steer a terminal.
-/

namespace Sluice.Text

/-- The number of a character in hexadecimal digits. -/
def hexadecimal (c : Char) : List Char :=
  Nat.toDigits 16 c.toNat

def byNumber (c : Char) : List Char :=
  '\\' :: 'u' :: '\x7b' :: hexadecimal c ++ ['\x7d']

/-- The form of a character inside a quoted text. -/
def quotedChar (c : Char) : List Char :=
  if c = '"' ∨ c = '\\' then ['\\', c]
  else if c = '\n' then ['\\', 'n']
  else if c = '\r' then ['\\', 'r']
  else if c = '\t' then ['\\', 't']
  else if c = '\x00' then ['\\', '0']
  else if isInvisible c then byNumber c
  else [c]

def quoted (s : String) : String :=
  String.ofList ('"' :: s.toList.flatMap quotedChar ++ ['"'])

/-- The form of a character in an escaped text. -/
def escapedChar (c : Char) : List Char :=
  if c = '\x1b' ∨ c = '\x07' ∨ c = '\x08' ∨ c = '\x0c' ∨ c = '\x7f' then
    '\\' :: 'x' :: (if c.toNat < 16 then ['0'] else []) ++ hexadecimal c
  else if 0x80 ≤ c.toNat ∧ c.toNat ≤ 0x9f then byNumber c
  else [c]

/-- The text without characters that steer a terminal. -/
def escaped (s : String) : String :=
  String.ofList (s.toList.flatMap escapedChar)

end Sluice.Text
