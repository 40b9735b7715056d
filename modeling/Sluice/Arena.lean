import Sluice.Allocation

/-!
# Arenas

An arena keeps values in numbered slots. A new value takes the slot that was freed last, or a new
slot at the end when none is free; the other values never move. The view of an arena is its lookup
function, and its type says that the free slots are exactly the empty ones, each listed once.

An arena is made with room for some values, which has to be had in one piece (`create`).
-/

namespace Sluice

/-- Values in numbered slots; `free` lists the empty slots, the one freed last in front. A slot
keeps its number as long as it has a value, and may be given out again after that. -/
structure Arena (α : Type) where
  slots : Array (Option α)
  free : List Nat
  nodup_free : free.Nodup
  mem_free_iff : ∀ i, i ∈ free ↔ slots[i]? = some none

namespace Arena

variable {α : Type}

def empty : Arena α := ⟨#[], [], List.nodup_nil, by simp⟩

instance : Inhabited (Arena α) := ⟨empty⟩

/-- An arena that has room for `entries` values, each in a slot of so many bytes. -/
def create (slotLength entries : Nat) : Except PanicCause (Arena α) :=
  match allocationFault? entries slotLength with
  | some cause => .error cause
  | none => .ok empty

def get? (a : Arena α) (i : Nat) : Option α :=
  a.slots[i]?.join

def contains (a : Arena α) (i : Nat) : Bool :=
  (a.get? i).isSome

def size (a : Arena α) : Nat :=
  a.slots.size - a.free.length

def toList (a : Arena α) : List (Nat × α) :=
  a.slots.toList.zipIdx.filterMap fun (v, i) => v.map (i, ·)

def insert (a : Arena α) (v : α) : Nat × Arena α :=
  match h : a.free with
  | i :: rest =>
    (i, {
      slots := a.slots.setIfInBounds i (some v)
      free := rest
      nodup_free := by
        have := a.nodup_free
        rw [h] at this
        exact (List.nodup_cons.1 this).2
      mem_free_iff := by
        intro j
        have hn := a.nodup_free
        rw [h] at hn
        have hi := (List.nodup_cons.1 hn).1
        have hj := a.mem_free_iff j
        rw [h, List.mem_cons] at hj
        rw [Array.getElem?_setIfInBounds]
        split
        · next heq =>
          subst heq
          simp only [hi, false_iff]
          split <;> simp
        · next hne => rw [← hj]; simp [Ne.symm hne] })
  | [] =>
    (a.slots.size, {
      slots := a.slots.push (some v)
      free := []
      nodup_free := List.nodup_nil
      mem_free_iff := by
        intro j
        have hj := a.mem_free_iff j
        rw [h] at hj
        rw [Array.getElem?_push]
        split
        · simp
        · exact hj })

def modify (a : Arena α) (i : Nat) (f : α → α) : Arena α where
  slots := a.slots.modify i (Option.map f)
  free := a.free
  nodup_free := a.nodup_free
  mem_free_iff := by
    intro j
    rw [a.mem_free_iff j, Array.getElem?_modify]
    split
    · next h => subst h; cases a.slots[i]? <;> simp
    · rfl

def remove (a : Arena α) (i : Nat) : Option (α × Arena α) :=
  match h : a.get? i with
  | none => none
  | some v =>
    some (v, {
      slots := a.slots.setIfInBounds i none
      free := i :: a.free
      nodup_free := by
        refine List.nodup_cons.2 ⟨fun hi => ?_, a.nodup_free⟩
        have := (a.mem_free_iff i).1 hi
        simp [get?, this] at h
      mem_free_iff := by
        intro j
        have hi : i < a.slots.size := by
          refine Nat.lt_of_not_le fun hle => ?_
          simp [get?, Array.getElem?_eq_none hle] at h
        rw [Array.getElem?_setIfInBounds, List.mem_cons]
        split
        · next heq => subst heq; simp
        · next hne => simp [a.mem_free_iff j, Ne.symm hne] })

/-- A new arena is empty, whatever it has room for. -/
theorem create_ok {slotLength entries : Nat} {a : Arena α} (h : create slotLength entries = .ok a) :
    a = empty := by
  unfold create at h
  split at h
  · cases h
  · exact (Except.ok.inj h).symm

/-! ## Operations through the view -/

theorem get?_eq_some_iff {a : Arena α} {i : Nat} {v : α} :
    a.get? i = some v ↔ a.slots[i]? = some (some v) := by
  simp [get?, Option.join_eq_some_iff]

theorem get?_modify (a : Arena α) (i j : Nat) (f : α → α) :
    (a.modify i f).get? j = if i = j then (a.get? j).map f else a.get? j := by
  simp only [get?, modify, Array.getElem?_modify]
  split
  · cases a.slots[j]? with
    | none => rfl
    | some v => cases v <;> rfl
  · rfl

theorem get?_remove {a b : Arena α} {i : Nat} {v : α} (h : a.remove i = some (v, b)) (j : Nat) :
    b.get? j = if i = j then none else a.get? j := by
  unfold remove at h
  split at h
  · cases h
  · cases h
    simp only [get?, Array.getElem?_setIfInBounds]
    split
    · split <;> rfl
    · rfl

theorem remove_eq_none_iff {a : Arena α} {i : Nat} : a.remove i = none ↔ a.get? i = none := by
  unfold remove
  split <;> simp_all

theorem get?_insert (a : Arena α) (v : α) (j : Nat) :
    (a.insert v).2.get? j = if j = (a.insert v).1 then some v else a.get? j := by
  unfold insert
  split
  · next i rest h =>
    have hi : a.slots[i]? = some none := (a.mem_free_iff i).1 (by rw [h]; simp)
    have hlt : i < a.slots.size := by
      refine Nat.lt_of_not_le fun hle => ?_
      rw [Array.getElem?_eq_none hle] at hi
      cases hi
    simp only [get?, Array.getElem?_setIfInBounds, hlt, if_true]
    by_cases hj : i = j
    · simp [hj]
    · simp [hj, Ne.symm hj]
  · simp only [get?, Array.getElem?_push]
    split <;> simp

theorem get?_insert_fst (a : Arena α) (v : α) : a.get? (a.insert v).1 = none := by
  unfold insert
  split
  · next i rest h =>
    have hi : a.slots[i]? = some none := (a.mem_free_iff i).1 (by rw [h]; simp)
    simp [get?, hi]
  · simp [get?]

end Arena

end Sluice
