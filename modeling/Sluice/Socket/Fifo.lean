/-!
# Queues

A first-in first-out queue kept as two lists, so that appending a chunk and taking a chunk cost no
more than the chunk. Its view is `toList`, oldest element first: appending appends to the view,
taking splits the view.
-/

namespace Sluice

/-- A queue; `back` holds the newest elements, newest first. -/
structure Fifo (α : Type) where
  front : List α := []
  back : List α := []
  deriving Inhabited

namespace Fifo

variable {α : Type}

def toList (q : Fifo α) : List α :=
  q.front ++ q.back.reverse

def empty : Fifo α := {}

def isEmpty (q : Fifo α) : Bool :=
  q.front.isEmpty && q.back.isEmpty

def append (q : Fifo α) (xs : List α) : Fifo α :=
  { q with back := xs.reverseAux q.back }

/-- Takes the `n` oldest elements, or all of them if there are fewer. -/
def take (q : Fifo α) (n : Nat) : List α × Fifo α :=
  let taken := q.front.take n
  if taken.length < n then
    let all := q.toList
    (all.take n, { front := all.drop n })
  else (taken, { q with front := q.front.drop n })

@[simp] theorem toList_append (q : Fifo α) (xs : List α) :
    (q.append xs).toList = q.toList ++ xs := by
  simp [append, toList, List.reverseAux_eq]

theorem isEmpty_iff (q : Fifo α) : q.isEmpty = true ↔ q.toList = [] := by
  simp [isEmpty, toList]

theorem take_fst (q : Fifo α) (n : Nat) : (q.take n).1 = q.toList.take n := by
  simp only [take]
  split
  · rfl
  · next h =>
    have hle : n ≤ q.front.length := by simp only [List.length_take] at h; omega
    simp [toList, List.take_append_of_le_length hle]

theorem toList_take_snd (q : Fifo α) (n : Nat) : (q.take n).2.toList = q.toList.drop n := by
  simp only [take]
  split
  · simp [toList]
  · next h =>
    have hle : n ≤ q.front.length := by simp only [List.length_take] at h; omega
    simp [toList, List.drop_append_of_le_length hle]

end Fifo

end Sluice
