import Mathlib.Data.List.Nodup
import Mathlib.Data.List.Perm.Subperm
import Sluice.Arena

/-!
# The slots of an arena

How many values an arena holds and how far its slots reach, through each operation. A new value
takes a new slot only when every slot is full, so the slots reach no further than the most values
that were ever held at once (`slots_insert_le`). The listing of an arena has each value once, under
its slot (`mem_toList`, `nodup_toList`).
-/

namespace Sluice.Arena

variable {α : Type} {a b : Arena α} {i : Nat} {v : α}

theorem free_lt (h : i ∈ a.free) : i < a.slots.size := by
  have hi := (a.mem_free_iff i).mp h
  exact (Array.getElem?_eq_some_iff.mp hi).1

/-- There are no more free slots than slots: the list has no slot twice. -/
theorem length_free_le (a : Arena α) : a.free.length ≤ a.slots.size := by
  have hsub : a.free ⊆ List.range a.slots.size := fun i hi => List.mem_range.mpr (free_lt hi)
  have := (a.nodup_free.subperm hsub).length_le
  rwa [List.length_range] at this

theorem lt_slots_of_get? (h : a.get? i = some v) : i < a.slots.size :=
  (Array.getElem?_eq_some_iff.mp (get?_eq_some_iff.mp h)).1

/-! ## Inserting -/

@[simp] theorem size_insert (a : Arena α) (v : α) : (a.insert v).2.size = a.size + 1 := by
  have hle := a.length_free_le
  unfold insert
  split
  · next i rest h =>
    rw [h, List.length_cons] at hle
    simp only [size, h, Array.size_setIfInBounds, List.length_cons]
    omega
  · next h => simp [size, h]

theorem slots_insert_le (a : Arena α) (v : α) :
    (a.insert v).2.slots.size ≤ max a.slots.size (a.size + 1) := by
  unfold insert
  split
  · simp only [Array.size_setIfInBounds]
    exact Nat.le_max_left ..
  · next h => simp [size, h]

/-- Two new values have two slots, and all others are as before. A pair is always put in like this,
and neither half can be spoken of before both slots are known. -/
theorem get?_insert_two (a : Arena α) (v v' : α) :
    a.get? (a.insert v).1 = none ∧ a.get? ((a.insert v).2.insert v').1 = none
      ∧ (a.insert v).1 ≠ ((a.insert v).2.insert v').1
      ∧ ∀ j, ((a.insert v).2.insert v').2.get? j =
        if j = (a.insert v).1 then some v
        else if j = ((a.insert v).2.insert v').1 then some v' else a.get? j := by
  have hfirst := a.get?_insert v
  have hfree := (a.insert v).2.get?_insert_fst v'
  have hne : (a.insert v).1 ≠ ((a.insert v).2.insert v').1 := by
    intro heq
    rw [← heq, hfirst, if_pos rfl] at hfree
    cases hfree
  refine ⟨a.get?_insert_fst v, ?_, hne, fun j => ?_⟩
  · rw [hfirst, if_neg hne.symm] at hfree
    exact hfree
  · rw [get?_insert, hfirst]
    by_cases hj : j = ((a.insert v).2.insert v').1
    · rw [if_pos hj, if_neg fun h => hne (h.symm.trans hj), if_pos hj]
    · rw [if_neg hj, if_neg hj]

/-- Where a new value goes depends on the free slots and the number of slots alone, so that two
arenas with other values in the same slots stay in step. -/
theorem insert_congr {a b : Arena α} (hfree : b.free = a.free)
    (hslots : b.slots.size = a.slots.size)
    (v : α) : (b.insert v).1 = (a.insert v).1 ∧ (b.insert v).2.free = (a.insert v).2.free
      ∧ (b.insert v).2.slots.size = (a.insert v).2.slots.size := by
  unfold insert
  split
  · next i rest h =>
    split
    · next j rest' h' =>
      rw [hfree, h'] at h
      obtain ⟨rfl, rfl⟩ := List.cons.inj h
      simp [hslots]
    · next h' =>
      rw [hfree, h'] at h
      cases h
  · next h =>
    split
    · next j rest' h' =>
      rw [hfree, h'] at h
      cases h
    · next h' => simp [hslots]

/-- Two arenas with the same values and the same free slots, in the same order, do not differ. -/
theorem ext_of_get? {a b : Arena α} (hget : ∀ i, b.get? i = a.get? i) (hfree : b.free = a.free)
    (hslots : b.slots.size = a.slots.size) : b = a := by
  have hsame : b.slots = a.slots := by
    refine Array.ext hslots fun i hb ha => ?_
    have hi := hget i
    rwa [get?, get?, Array.getElem?_eq_getElem hb, Array.getElem?_eq_getElem ha, Option.join_some,
      Option.join_some] at hi
  obtain ⟨slots, free, nodup, hmem⟩ := a
  obtain ⟨slots', free', nodup', hmem'⟩ := b
  obtain rfl : slots' = slots := hsame
  obtain rfl : free' = free := hfree
  rfl

/-! ## Changing in place -/

@[simp] theorem size_modify (a : Arena α) (i : Nat) (f : α → α) : (a.modify i f).size = a.size := by
  simp [size, modify]

@[simp] theorem slots_size_modify (a : Arena α) (i : Nat) (f : α → α) :
    (a.modify i f).slots.size = a.slots.size := by
  simp [modify]

theorem modify_insert_two (a : Arena α) (v v' : α) (f f' : α → α) {i j : Nat} {b : Arena α}
    (hi : (a.insert v).1 = i) (hj : ((a.insert v).2.insert v').1 = j)
    (hb : (((a.insert v).2.insert v').2.modify i f).modify j f' = b) :
    b.size = a.size + 2 ∧ b.slots.size ≤ max a.slots.size (a.size + 2)
      ∧ ∀ x, b.get? x = if x = i then some (f v) else if x = j then some (f' v') else a.get? x := by
  subst hi hj hb
  obtain ⟨-, -, hne, hlook⟩ := a.get?_insert_two v v'
  have hslots := slots_insert_le (a.insert v).2 v'
  have hslots' := slots_insert_le a v
  rw [size_insert] at hslots
  refine ⟨?_, ?_, ?_⟩
  · rw [size_modify, size_modify, size_insert, size_insert]
  · rw [slots_size_modify, slots_size_modify]
    omega
  · intro x
    rw [get?_modify, get?_modify, hlook]
    by_cases hx : x = (a.insert v).1
    · subst hx
      simp [hne.symm]
    · by_cases hx' : x = ((a.insert v).2.insert v').1
      · subst hx'
        rw [if_pos rfl, if_neg hne, if_neg hx, if_pos rfl, if_neg hx, if_pos rfl]
        rfl
      · simp [hx, hx', Ne.symm hx, Ne.symm hx']

/-! ## Removing -/

theorem remove_of_get? (h : a.get? i = some v) : ∃ b, a.remove i = some (v, b) := by
  unfold remove
  split
  · next h' => rw [h] at h'; cases h'
  · next v' h' =>
    obtain rfl := Option.some.inj (h'.symm.trans h)
    exact ⟨_, rfl⟩

theorem size_remove (h : a.remove i = some (v, b)) : b.size + 1 = a.size := by
  unfold remove at h
  split at h
  · cases h
  · next v' hv =>
    cases h
    have hi : i ∉ a.free := fun hm => by
      have := (a.mem_free_iff i).mp hm
      rw [get?_eq_some_iff.mp hv] at this
      cases this
    have hsub : i :: a.free ⊆ List.range a.slots.size := by
      intro j hj
      rcases List.mem_cons.mp hj with rfl | hj
      · exact List.mem_range.mpr (lt_slots_of_get? hv)
      · exact List.mem_range.mpr (free_lt hj)
    have hlen := ((List.nodup_cons.mpr ⟨hi, a.nodup_free⟩).subperm hsub).length_le
    rw [List.length_cons, List.length_range] at hlen
    simp only [size, Array.size_setIfInBounds, List.length_cons]
    omega

theorem slots_size_remove (h : a.remove i = some (v, b)) : b.slots.size = a.slots.size := by
  unfold remove at h
  split at h
  · cases h
  · cases h
    simp

/-! ## The listing -/

theorem mem_toList : (i, v) ∈ a.toList ↔ a.get? i = some v := by
  simp only [toList, List.mem_filterMap, get?_eq_some_iff]
  constructor
  · rintro ⟨⟨o, j⟩, hmem, hmap⟩
    rw [List.mem_zipIdx_iff_getElem?] at hmem
    cases o with
    | none => cases hmap
    | some v' =>
      obtain ⟨rfl, rfl⟩ := Prod.mk.injEq .. |>.mp (Option.some.inj hmap)
      simpa using hmem
  · intro h
    refine ⟨(some v, i), ?_, rfl⟩
    rw [List.mem_zipIdx_iff_getElem?]
    simpa using h

theorem nodup_toList (a : Arena α) : a.toList.Nodup := by
  refine List.Nodup.filterMap ?_ ?_
  · rintro ⟨o, i⟩ ⟨o', i'⟩ ⟨j, v⟩ h h'
    simp only [Option.mem_def, Option.map_eq_some_iff, Prod.mk.injEq] at h h'
    obtain ⟨v₁, rfl, rfl, rfl⟩ := h
    obtain ⟨v₂, rfl, rfl, rfl⟩ := h'
    rfl
  · rw [List.nodup_iff_injective_getElem]
    intro x y hxy
    have hsnd := congrArg Prod.snd hxy
    simpa [Fin.ext_iff] using hsnd

/-- All values are listed: the listed slots and the free ones are all slots there are. -/
theorem length_toList (a : Arena α) : a.toList.length = a.size := by
  have hmem (i : Nat) : i ∈ a.toList.map (·.1) ↔ ∃ v, a.get? i = some v := by
    simp [List.mem_map, mem_toList]
  have hnodup : (a.toList.map (·.1)).Nodup := by
    refine a.nodup_toList.map_on ?_
    rintro ⟨i, v⟩ hv ⟨j, v'⟩ hv' (rfl : i = j)
    rw [Option.some.inj ((mem_toList.mp hv).symm.trans (mem_toList.mp hv'))]
  have hperm : (a.toList.map (·.1) ++ a.free).Perm (List.range a.slots.size) := by
    refine (List.perm_ext_iff_of_nodup ?_ List.nodup_range).mpr fun i => ?_
    · refine List.nodup_append.mpr ⟨hnodup, a.nodup_free, ?_⟩
      rintro i hi _ hfree rfl
      obtain ⟨v, hv⟩ := (hmem i).mp hi
      rw [get?_eq_some_iff, (a.mem_free_iff i).mp hfree] at hv
      cases hv
    · rw [List.mem_append, List.mem_range, hmem]
      constructor
      · rintro (⟨v, hv⟩ | hfree)
        · exact lt_slots_of_get? hv
        · exact free_lt hfree
      · intro hi
        cases hslot : a.slots[i] with
        | none =>
          exact Or.inr ((a.mem_free_iff i).mpr (by rw [Array.getElem?_eq_getElem hi, hslot]))
        | some v =>
          exact Or.inl ⟨v, get?_eq_some_iff.mpr (by rw [Array.getElem?_eq_getElem hi, hslot])⟩
  have hlen := hperm.length_eq
  rw [List.length_append, List.length_map, List.length_range] at hlen
  rw [size]
  omega

end Sluice.Arena
