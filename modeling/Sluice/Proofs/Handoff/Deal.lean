import Mathlib.Data.Int.CardIntervalMod
import Mathlib.Data.List.Perm.Basic

/-!
# Dealing in turn

`deal n w l` is what hand `w` gets when the elements of `l` are dealt out to `n` hands in turn.
Every element goes to exactly one hand (`perm_deal`), and how many a hand has is known from the
length of `l` (`length_deal`), so that no two hands differ by more than one.
-/

namespace Sluice

variable {α : Type}

/-- The elements of a list that stand at the places `w`, `w + n`, `w + 2 * n`, .. . -/
def deal (n w : Nat) (l : List α) : List α :=
  (l.zipIdx.filter fun x => x.2 % n == w).map Prod.fst

@[simp] theorem deal_nil (n w : Nat) : deal n w ([] : List α) = [] := rfl

theorem deal_concat (n w : Nat) (l : List α) (x : α) :
    deal n w (l ++ [x]) = deal n w l ++ if l.length % n = w then [x] else [] := by
  rw [deal, List.zipIdx_append, List.filter_append, List.map_append, ← deal]
  by_cases h : l.length % n = w <;> simp [h]

theorem deal_subset (n w : Nat) (l : List α) : deal n w l ⊆ l := by
  intro x hx
  obtain ⟨y, hy, rfl⟩ := List.mem_map.mp hx
  exact List.fst_mem_of_mem_zipIdx (List.mem_filter.mp hy).1

theorem length_deal {n w : Nat} (h : w < n) (l : List α) :
    (deal n w l).length = l.length / n + if w < l.length % n then 1 else 0 := by
  have hcount : (deal n w l).length = l.length.count (· ≡ w [MOD n]) := by
    induction l using List.reverseRecOn with
    | nil => rfl
    | append_singleton l x ih =>
      rw [deal_concat, List.length_append, ih, List.length_append, List.length_singleton,
        Nat.count_succ]
      congr 1
      simp only [Nat.ModEq, Nat.mod_eq_of_lt h]
      split <;> rfl
  rw [hcount, Nat.count_modEq_card _ (Nat.zero_lt_of_lt h), Nat.mod_eq_of_lt h]

/-- No hand has more than one element more than another, whichever of the two comes first. Both
lengths are the length of the list divided by the number of hands, rounded in one direction or the
other. -/
theorem length_deal_le {n v w : Nat} (hv : v < n) (hw : w < n) (l : List α) :
    (deal n v l).length ≤ (deal n w l).length + 1 := by
  rw [length_deal hv, length_deal hw]
  split <;> split <;> omega

theorem modify_length_deal (n : Nat) (l : List α) (x : α) :
    ((List.range n).map fun w => (deal n w l).length).modify (l.length % n) (· + 1)
      = (List.range n).map fun w => (deal n w (l ++ [x])).length := by
  refine List.ext_getElem (by simp) fun w hw hw' => ?_
  simp only [List.getElem_modify, List.getElem_map, List.getElem_range, deal_concat]
  split <;> simp

theorem flatMap_ite_perm {ws : List Nat} (hws : ws.Nodup) {r : Nat} (hr : r ∈ ws) (x : α)
    (f : Nat → List α) :
    (ws.flatMap fun w => f w ++ if r = w then [x] else []).Perm (ws.flatMap f ++ [x]) := by
  have hone : (ws.flatMap fun w => if r = w then [x] else []) = [x] := by
    induction ws with
    | nil => cases hr
    | cons w ws ih =>
      obtain ⟨hnot, hnodup⟩ := List.nodup_cons.mp hws
      rw [List.flatMap_cons]
      by_cases hw : r = w
      · subst hw
        have hrest : (ws.flatMap fun w => if r = w then [x] else []) = [] :=
          List.flatMap_eq_nil_iff.mpr fun v hv => if_neg fun (h : r = v) => hnot (h ▸ hv)
        rw [if_pos rfl, hrest]
        rfl
      · rw [if_neg hw, ih hnodup ((List.mem_cons.mp hr).resolve_left hw)]
        rfl
  have := (List.flatMap_append_perm ws f fun w => if r = w then [x] else []).symm
  rwa [hone] at this

/-- Dealing loses nothing, gives nothing twice and gives nothing to two hands. As a permutation this
also holds of a list in which the same element stands at several places. -/
theorem perm_deal {n : Nat} (h : 0 < n) (l : List α) :
    ((List.range n).flatMap fun w => deal n w l).Perm l := by
  induction l using List.reverseRecOn with
  | nil => simp
  | append_singleton l x ih =>
    simp only [deal_concat]
    exact (flatMap_ite_perm List.nodup_range (List.mem_range.mpr (Nat.mod_lt _ h)) x _).trans
      (ih.append_right [x])

end Sluice
