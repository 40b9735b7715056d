import Mathlib.Data.List.Nodup

/-!
# Lists with keys

A list in which no two elements have the same key is a finite map; looking a key up finds the first
element that has it. What appending, replacing in place and erasing do to every look-up.
-/

namespace Sluice.Keyed

variable {α κ : Type} [DecidableEq κ] {key : α → κ} {k k' : κ} {x y : α} {l : List α}

def lookUp (key : α → κ) (k : κ) (l : List α) : Option α :=
  l.find? fun y => key y = k

@[simp] theorem lookUp_nil : lookUp key k [] = none := rfl

theorem lookUp_cons :
    lookUp key k (x :: l) = if key x = k then some x else lookUp key k l := by
  unfold lookUp
  rw [List.find?_cons]
  by_cases h : key x = k <;> simp [h]

theorem lookUp_eq_none_iff : lookUp key k l = none ↔ k ∉ l.map key := by
  simp [lookUp]

theorem key_of_lookUp (h : lookUp key k l = some x) : x ∈ l ∧ key x = k :=
  ⟨List.mem_of_find?_eq_some h, by simpa using List.find?_some h⟩

/-- Where keys differ, looking up an element's key finds that element. -/
theorem lookUp_eq_some_iff (hl : (l.map key).Nodup) :
    lookUp key k l = some x ↔ x ∈ l ∧ key x = k := by
  refine ⟨key_of_lookUp, ?_⟩
  rintro ⟨hx, rfl⟩
  cases hf : lookUp key (key x) l with
  | none => exact absurd (List.mem_map_of_mem hx) (lookUp_eq_none_iff.mp hf)
  | some y =>
    obtain ⟨hy, hkey⟩ := key_of_lookUp hf
    exact congrArg some (List.inj_on_of_nodup_map hl hy hx hkey)

/-! ## Appending -/

theorem lookUp_append_single (hk : lookUp key (key x) l = none) :
    lookUp key k' (l ++ [x]) = if k' = key x then some x else lookUp key k' l := by
  simp only [lookUp, List.find?_append] at hk ⊢
  by_cases h : k' = key x
  · subst h
    rw [hk]
    simp
  · simp [h, Ne.symm h]

theorem nodup_append_single (hl : (l.map key).Nodup) (hk : lookUp key (key x) l = none) :
    ((l ++ [x]).map key).Nodup := by
  rw [List.map_append, List.map_singleton, List.nodup_append]
  refine ⟨hl, List.nodup_singleton _, ?_⟩
  intro a ha b hb
  rw [List.mem_singleton.mp hb]
  exact fun h => lookUp_eq_none_iff.mp hk (h ▸ ha)

/-! ## Replacing in place -/

def replace (key : α → κ) (x : α) (l : List α) : List α :=
  l.map fun y => if key y = key x then x else y

@[simp] theorem map_key_replace : (replace key x l).map key = l.map key := by
  rw [replace, List.map_map]
  refine List.map_congr_left ?_
  intro y _
  simp only [Function.comp_apply]
  split
  · next h => exact h.symm
  · rfl

theorem lookUp_replace :
    lookUp key k (replace key x l)
      = if k = key x then (lookUp key k l).map fun _ => x else lookUp key k l := by
  induction l with
  | nil => simp [replace]
  | cons z rest ih =>
    have hcons : replace key x (z :: rest)
        = (if key z = key x then x else z) :: replace key x rest := rfl
    rw [hcons, lookUp_cons, lookUp_cons, ih]
    by_cases hz : key z = key x
    · rw [if_pos hz, hz]
      by_cases hk : k = key x
      · simp [hk]
      · simp [hk, Ne.symm hk]
    · rw [if_neg hz]
      by_cases hzk : key z = k
      · have hk : k ≠ key x := fun h => hz (hzk.trans h)
        simp [hzk, hk]
      · simp [hzk]

/-! ## Erasing -/

theorem lookUp_eraseP (hl : (l.map key).Nodup) :
    lookUp key k' (l.eraseP fun y => key y = k)
      = if k' = k then none else lookUp key k' l := by
  induction l with
  | nil => simp
  | cons z rest ih =>
    rw [List.map_cons, List.nodup_cons] at hl
    by_cases hz : key z = k
    · rw [List.eraseP_cons_of_pos (by simpa using hz), lookUp_cons]
      by_cases hk : k' = k
      · rw [if_pos hk, lookUp_eq_none_iff, hk, ← hz]
        exact hl.1
      · rw [if_neg hk, if_neg fun h => hk (h.symm.trans hz)]
    · rw [List.eraseP_cons_of_neg (by simpa using hz), lookUp_cons, lookUp_cons, ih hl.2]
      by_cases hzk : key z = k'
      · rw [if_pos hzk, if_pos hzk, if_neg fun h => hz (hzk.trans h)]
      · rw [if_neg hzk, if_neg hzk]

theorem nodup_eraseP (hl : (l.map key).Nodup) :
    ((l.eraseP fun y => key y = k).map key).Nodup :=
  hl.sublist (List.eraseP_sublist.map key)

end Sluice.Keyed
