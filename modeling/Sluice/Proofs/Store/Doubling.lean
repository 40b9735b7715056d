import Mathlib.Algebra.Group.Nat.Defs
import Mathlib.Order.Bounds.Basic
import Sluice.Readiness.ReadyList

/-!
# Doubling

Storage that is too small is doubled until it is large enough. `isLeast_doubled` says when a number
that came of doubling is the least one that is enough; the pool of buffers and the lists of events
share it.

`doubledCapacity?` doubles in 64 bits. It finds the least number that will do (`least_of_doubled`),
and it finds none only where there is none (`unreachable_of_overflow`); `doubling_minimal` puts the
two together.
-/

namespace Sluice

variable {base current needed capacity c d m k : Nat}

/-- What came of doubling is the least that is enough, when nothing was doubled or half of it is not
enough. -/
theorem isLeast_doubled (henough : m ≤ base * 2 ^ k) (hhalf : k = 0 ∨ base * 2 ^ k < 2 * m) :
    IsLeast {c | (∃ j, c = base * 2 ^ j) ∧ m ≤ c} (base * 2 ^ k) := by
  refine ⟨⟨⟨k, rfl⟩, henough⟩, ?_⟩
  rintro c ⟨⟨j, rfl⟩, hm⟩
  have hkj : k ≤ j := by
    rcases hhalf with rfl | hlt
    · exact Nat.zero_le j
    · have hless : base * 2 ^ k < base * 2 ^ (j + 1) := by
        rw [Nat.pow_succ, ← Nat.mul_assoc]
        omega
      have hexp := (Nat.pow_lt_pow_iff_right (by decide)).mp (Nat.lt_of_mul_lt_mul_left hless)
      omega
  exact Nat.mul_le_mul_left base (Nat.pow_le_pow_right (by decide) hkj)

/-! ## Doubling in 64 bits -/

/-- What the doubling comes to: it is enough, and unless nothing was doubled, half of it is not and
it is a 64-bit number. -/
theorem of_doubleUntil {pos : 0 < capacity} (h : doubleUntil needed capacity pos = some c) :
    ∃ k, c = capacity * 2 ^ k ∧ needed ≤ c ∧ (k = 0 ∨ c < 2 * needed ∧ c < wordLimit) := by
  fun_induction doubleUntil needed capacity pos with
  | case1 capacity pos henough =>
    cases h
    exact ⟨0, (Nat.mul_one _).symm, henough, Or.inl rfl⟩
  | case2 capacity pos hshort hfits ih =>
    obtain ⟨k, rfl, henough, hhalf⟩ := ih h
    refine ⟨k + 1, by rw [Nat.pow_succ', Nat.mul_assoc], henough, Or.inr ?_⟩
    rcases hhalf with rfl | hhalf
    · omega
    · exact hhalf
  | case3 => cases h

/-- Where the doubling would leave 64 bits, every 64-bit number that comes of it is too small. The
induction is that of the loop, which stops before the first number that does not fit. -/
theorem of_doubleUntil_none {pos : 0 < capacity} (h : doubleUntil needed capacity pos = none)
    (hfits : capacity * 2 ^ k < wordLimit) : capacity * 2 ^ k < needed := by
  fun_induction doubleUntil needed capacity pos generalizing k with
  | case1 => cases h
  | case2 capacity pos hshort _ ih =>
    cases k with
    | zero => omega
    | succ k =>
      rw [Nat.pow_succ', ← Nat.mul_assoc] at hfits ⊢
      exact ih h hfits
  | case3 capacity pos hshort hleaves =>
    cases k with
    | zero => omega
    | succ k =>
      have hpos := Nat.two_pow_pos k
      rw [Nat.pow_succ', ← Nat.mul_assoc] at hfits
      have := Nat.le_mul_of_pos_right (capacity * 2) hpos
      omega

def startCapacity (current : Nat) : Nat :=
  if current = 0 then initialReadyCapacity else current

theorem startCapacity_pos (current : Nat) : 0 < startCapacity current := by
  unfold startCapacity
  split
  · decide
  · omega

theorem doubledCapacity?_eq (current needed : Nat) :
    doubledCapacity? current needed
      = doubleUntil needed (startCapacity current) (startCapacity_pos current) := by
  unfold doubledCapacity?
  split
  · next hzero => simp only [startCapacity, if_pos hzero]
  · next hpos => simp only [startCapacity, if_neg hpos]

/-- The 64-bit numbers that come of doubling and are enough. What the doubling should find is the
least of them, and it is said without a word about the loop that looks for it. -/
def Suitable (current needed : Nat) : Set Nat :=
  {c | (∃ k, c = startCapacity current * 2 ^ k) ∧ c < wordLimit ∧ needed ≤ c}

theorem doubledCapacity?_of_le (h : needed ≤ startCapacity current) :
    doubledCapacity? current needed = some (startCapacity current) := by
  rw [doubledCapacity?_eq, doubleUntil, if_pos h]

theorem startCapacity_lt (h : current < wordLimit) : startCapacity current < wordLimit := by
  unfold startCapacity
  split
  · decide
  · exact h

theorem least_of_doubled (hcurrent : current < wordLimit)
    (h : doubledCapacity? current needed = some c) :
    IsLeast (Suitable current needed) c := by
  rw [doubledCapacity?_eq] at h
  obtain ⟨k, rfl, henough, hhalf⟩ := of_doubleUntil h
  have hleast := isLeast_doubled henough (hhalf.imp_right And.left)
  have hfits : startCapacity current * 2 ^ k < wordLimit := by
    rcases hhalf with rfl | ⟨-, hfits⟩
    · rw [Nat.pow_zero, Nat.mul_one]
      exact startCapacity_lt hcurrent
    · exact hfits
  exact ⟨⟨⟨k, rfl⟩, hfits, henough⟩, fun d hd => hleast.2 ⟨hd.1, hd.2.2⟩⟩

theorem unreachable_of_overflow (h : doubledCapacity? current needed = none) :
    Suitable current needed = ∅ := by
  rw [doubledCapacity?_eq] at h
  refine Set.eq_empty_of_forall_notMem ?_
  rintro c ⟨⟨k, rfl⟩, hfits, henough⟩
  have hshort := of_doubleUntil_none h hfits
  omega

theorem exists_doubled (h : c ∈ Suitable current needed) :
    ∃ d, doubledCapacity? current needed = some d := by
  cases hd : doubledCapacity? current needed with
  | none =>
    rw [unreachable_of_overflow hd] at h
    exact absurd h (Set.notMem_empty c)
  | some d => exact ⟨d, rfl⟩

/-- What there is to say of the capacity that the doubling finds: which one it is, how large it is
at most, and how it depends on what was needed. -/
structure Fitted (current needed c : Nat) : Prop where
  least : IsLeast (Suitable current needed) c
  start_le : startCapacity current ≤ c
  eq_start : needed ≤ startCapacity current → c = startCapacity current
  lt_twice : startCapacity current < needed → c < 2 * needed
  /-- Where less is needed, no more is found. -/
  monotone : ∀ fewer ≤ needed, ∃ d ≤ c, doubledCapacity? current fewer = some d
  /-- It is not doubled again for as much or for less. -/
  stable : ∀ fewer ≤ needed, doubledCapacity? c fewer = some c

theorem fitted_of_doubled (hcurrent : current < wordLimit)
    (h : doubledCapacity? current needed = some c) :
    Fitted current needed c := by
  obtain ⟨⟨-, hfits, henough⟩, -⟩ := least_of_doubled hcurrent h
  have hdoubled := h
  rw [doubledCapacity?_eq] at hdoubled
  obtain ⟨k, hk, -, hhalf⟩ := of_doubleUntil hdoubled
  have hstart : startCapacity current ≤ c := hk ▸ Nat.le_mul_of_pos_right _ (Nat.two_pow_pos k)
  have hpos := startCapacity_pos current
  constructor
  case least => exact least_of_doubled hcurrent h
  case start_le => exact hstart
  case eq_start =>
    intro hle
    exact Option.some.inj (h.symm.trans (doubledCapacity?_of_le hle))
  case lt_twice =>
    intro hlt
    rcases hhalf with rfl | ⟨htwice, -⟩
    · omega
    · exact htwice
  case monotone =>
    intro fewer hfewer
    have hmem : c ∈ Suitable current fewer := ⟨⟨k, hk⟩, hfits, hfewer.trans henough⟩
    obtain ⟨d, hd⟩ := exists_doubled hmem
    exact ⟨d, (least_of_doubled hcurrent hd).2 hmem, hd⟩
  case stable =>
    intro fewer hfewer
    have hsame : startCapacity c = c := if_neg (by omega)
    have hle : fewer ≤ startCapacity c := hsame.symm ▸ hfewer.trans henough
    rw [doubledCapacity?_of_le hle, hsame]

/-- For all 64-bit numbers the doubling finds the least number that will do, and it leaves 64 bits
exactly where no number will. -/
theorem doubling_minimal (current needed : UInt64) :
    ((Suitable current.toNat needed.toNat).Nonempty →
      ∃ c, doubledCapacity? current.toNat needed.toNat = some c
        ∧ Fitted current.toNat needed.toNat c)
    ∧ (doubledCapacity? current.toNat needed.toNat = none
      ↔ Suitable current.toNat needed.toNat = ∅) := by
  constructor
  · rintro ⟨c, hc⟩
    obtain ⟨d, hd⟩ := exists_doubled hc
    exact ⟨d, hd, fitted_of_doubled current.toNat_lt hd⟩
  · refine ⟨unreachable_of_overflow, fun hempty => ?_⟩
    cases hd : doubledCapacity? current.toNat needed.toNat with
    | none => rfl
    | some d =>
      have hmem := (least_of_doubled current.toNat_lt hd).1
      rw [hempty] at hmem
      exact absurd hmem (Set.notMem_empty d)

/-- From three times a power of two on. It is doubled once to hold `2 ^ 63`, and beyond that there
is no room in 64 bits. -/
theorem doubling_minimal_of_three : (Suitable (3 * 2 ^ 61) (2 ^ 63)).Nonempty
    ∧ doubledCapacity? (3 * 2 ^ 61) (2 ^ 63) = some (3 * 2 ^ 62)
    ∧ Fitted (3 * 2 ^ 61) (2 ^ 63) (3 * 2 ^ 62)
    ∧ doubledCapacity? (3 * 2 ^ 61) (3 * 2 ^ 62 + 1) = none
    ∧ Suitable (3 * 2 ^ 61) (3 * 2 ^ 62 + 1) = ∅ := by
  have hcurrent : (3 * 2 ^ 61 : UInt64).toNat = 3 * 2 ^ 61 := by decide +kernel
  have hneeded : (2 ^ 63 : UInt64).toNat = 2 ^ 63 := by decide +kernel
  have hbeyond : (3 * 2 ^ 62 + 1 : UInt64).toNat = 3 * 2 ^ 62 + 1 := by decide +kernel
  have hmem : 3 * 2 ^ 62 ∈ Suitable (3 * 2 ^ 61) (2 ^ 63) :=
    ⟨⟨1, by decide +kernel⟩, by decide +kernel, by decide +kernel⟩
  have hfound : doubledCapacity? (3 * 2 ^ 61) (2 ^ 63) = some (3 * 2 ^ 62) := by decide +kernel
  have hnone : doubledCapacity? (3 * 2 ^ 61) (3 * 2 ^ 62 + 1) = none := by decide +kernel
  have hreached := (doubling_minimal (3 * 2 ^ 61) (2 ^ 63)).1
  have hoverflow := (doubling_minimal (3 * 2 ^ 61) (3 * 2 ^ 62 + 1)).2
  rw [hcurrent, hneeded] at hreached
  rw [hcurrent, hbeyond] at hoverflow
  obtain ⟨c, hc, hfitted⟩ := hreached ⟨_, hmem⟩
  obtain rfl := Option.some.inj (hfound.symm.trans hc)
  exact ⟨⟨_, hmem⟩, hfound, hfitted, hnone, hoverflow.mp hnone⟩

end Sluice
