/-!
# Cuts

Parts of a text between two places. Places are counted in bytes, and a cut through a character is
refused.
-/

namespace Sluice.Text

/-- The text behind its first `n` bytes, if no character spans the place. -/
def dropBytes? : Nat → List Char → Option (List Char)
  | 0, s => some s
  | _ + 1, [] => none
  | n + 1, c :: s => if c.utf8Size ≤ n + 1 then dropBytes? (n + 1 - c.utf8Size) s else none

/-- The first `n` bytes of the text, if no character spans the place behind them. -/
def takeBytes? : Nat → List Char → Option (List Char)
  | 0, _ => some []
  | _ + 1, [] => none
  | n + 1, c :: s =>
    if c.utf8Size ≤ n + 1 then (takeBytes? (n + 1 - c.utf8Size) s).map (c :: ·) else none

/-- The part of the text from byte `first` up to but without byte `last`. -/
def cut? (s : List Char) (first last : Nat) : Option (List Char) :=
  (dropBytes? first s).bind (takeBytes? (last - first))

def byteLength (s : List Char) : Nat :=
  s.foldr (fun c n => c.utf8Size + n) 0

end Sluice.Text
