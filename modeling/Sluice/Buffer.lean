/-!
# Buffers

A buffer has a fixed number of bytes, which are zero until they are overwritten from the front. Only
the front is kept; `toList` has all the bytes, and every operation is stated through it.
-/

namespace Sluice

/-- The bytes at the front of a buffer, and the number of zero bytes behind them. -/
structure Buffer where
  front : List UInt8 := []
  zeros : Nat
  deriving DecidableEq, Repr, Inhabited

namespace Buffer

def toList (b : Buffer) : List UInt8 :=
  b.front ++ List.replicate b.zeros 0

def length (b : Buffer) : Nat :=
  b.front.length + b.zeros

def blank (n : Nat) : Buffer :=
  { zeros := n }

/-- The buffer with `data` in the place of its first bytes. -/
def overwrite (b : Buffer) (data : List UInt8) : Buffer where
  front := data ++ b.front.drop data.length
  zeros := b.zeros - (data.length - b.front.length)

/-- The `count` bytes from `first` on. -/
def slice (b : Buffer) (first count : Nat) : List UInt8 :=
  let shown := (b.front.drop first).take count
  shown ++ List.replicate
    (min (count - (b.front.length - first)) (b.zeros - (first - b.front.length))) 0

@[simp] theorem length_toList (b : Buffer) : b.toList.length = b.length := by
  simp [toList, length]

@[simp] theorem length_blank (n : Nat) : (blank n).length = n := by
  simp [length, blank]

theorem toList_overwrite (b : Buffer) (data : List UInt8) :
    (b.overwrite data).toList = data ++ b.toList.drop data.length := by
  simp [toList, overwrite, List.drop_append]

theorem length_overwrite {b : Buffer} {data : List UInt8} (fits : data.length ≤ b.length) :
    (b.overwrite data).length = b.length := by
  simp only [length, overwrite, List.length_append, List.length_drop] at fits ⊢
  omega

theorem slice_eq (b : Buffer) (first count : Nat) :
    b.slice first count = (b.toList.drop first).take count := by
  simp [slice, toList, List.drop_append, List.take_append]

@[simp] theorem length_slice (b : Buffer) (first count : Nat) :
    (b.slice first count).length = min count (b.length - first) := by
  simp [slice_eq]

/-- Two slices that meet are one. -/
theorem slice_append_slice (b : Buffer) (first m n : Nat) :
    b.slice first m ++ b.slice (first + m) n = b.slice first (m + n) := by
  simp only [slice_eq, List.take_add, List.drop_drop]

end Buffer

end Sluice
