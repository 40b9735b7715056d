import Sluice.Text.Run

/-!
# Blanks

The characters that stand for white space in any script, and texts without the blanks at their ends.
-/

namespace Sluice.Text

def blankRuns : List Run := [
  (0x9, 0xd), (0x20, 0x20), (0x85, 0x85), (0xa0, 0xa0), (0x1680, 0x1680), (0x2000, 0x200a),
  (0x2028, 0x2029), (0x202f, 0x202f), (0x205f, 0x205f), (0x3000, 0x3000)]

def isBlank (c : Char) : Bool :=
  Run.cover blankRuns c

def trimmed (s : List Char) : List Char :=
  ((s.dropWhile isBlank).reverse.dropWhile isBlank).reverse

end Sluice.Text
