/-!
# Likeness of words

How alike two words are, as a number between 0 and 1. Each character of the first word is paired
with the first equal one of the second word that stands near the same place and has no partner yet.
The likeness is the mean of the share of the first word that is paired, the share of the second
word, and the share of the pairs that stand in order. Shares and mean are binary fractions of 53
digits, so that two means that are equal on paper may still differ in the last digit. A character is
paired at most once (`length_pairOff`).
-/

namespace Sluice.Text

namespace Likeness

/-- How far apart the places of a pair may be, for words of the given lengths. -/
def reach (a b : Nat) : Nat :=
  max a b / 2 - 1

/-- The place of the first character equal to `c`, from `low` up to but without `high`, whose place
is not in `taken`. -/
def partner? (c : Char) (word : List Char) (taken : List Nat) (low high : Nat) : Option Nat :=
  (List.range' low (high - low)).find? fun j => word[j]? = some c ∧ ¬ taken.contains j

/-- The pairs of places of two words, the last pair first; `i` is the place where `rest` begins in
the first word. -/
def pairOff (word : List Char) (reach i : Nat) (pairs : List (Nat × Nat)) :
    List Char → List (Nat × Nat)
  | [] => pairs
  | c :: rest =>
    match partner? c word (pairs.map (·.2)) (i - reach) (i + reach + 1) with
    | some j => pairOff word reach (i + 1) ((i, j) :: pairs) rest
    | none => pairOff word reach (i + 1) pairs rest

/-- A part of a whole, as a share of it. -/
def share (part whole : Nat) : Float :=
  part.toFloat / whole.toFloat

/-- The likeness of two words. -/
def ofWords (a b : String) : Float :=
  let (xs, ys) := (a.toList, b.toList)
  let (n, m) := (xs.length, ys.length)
  let pairs := pairOff ys (reach n m) 0 [] xs
  let k := pairs.length
  if n = 0 ∧ m = 0 then 1
  else if k = 0 then 0
  else
    let firsts := pairs.reverse.map fun p => xs[p.1]?
    let seconds := (pairs.map (·.2)).mergeSort.map fun j => ys[j]?
    let crossed := ((firsts.zip seconds).countP fun p => p.1 != p.2) / 2
    (share k n + share k m + share (k - crossed) k) / 3

theorem length_pairOff (word : List Char) (reach i : Nat) (pairs : List (Nat × Nat))
    (rest : List Char) : (pairOff word reach i pairs rest).length ≤ pairs.length + rest.length := by
  induction rest generalizing i pairs with
  | nil => simp [pairOff]
  | cons c rest ih =>
    unfold pairOff
    split
    · have := ih (i + 1) ((i, ‹Nat›) :: pairs)
      simp only [List.length_cons] at this ⊢
      omega
    · have := ih (i + 1) pairs
      simp only [List.length_cons]
      omega

end Likeness

/-- Only words that are more alike than this are similar. -/
def barelyDifferent : Float := 0.7

/-- The candidate most like a word, if one is similar; of equals the last. -/
def mostSimilar? (word : String) (candidates : List String) : Option String :=
  let better (best : Float × Option String) (c : String) :=
    let l := Likeness.ofWords word c
    if barelyDifferent < l && best.1 ≤ l then (l, some c) else best
  (candidates.foldl better (barelyDifferent, none)).2

end Sluice.Text
