import Mathlib.Algebra.Group.Nat.Defs
import Sluice.Text.Numeral

/-!
# Numerals that are written and read

The text of a number is a row of digits (`Numeral.isDigit_ofNat`) that stands for that number
(`Numeral.value_ofNat`), and the reader finds exactly these digits at the head of a text that goes
on with something else (`Numeral.span_ofNat`). A decimal digit is what the standard library takes
for one, with the same value (`Numeral.value_eq_ofDigitChars`).
-/

namespace Sluice.Numeral

variable {base n d : Nat} {c : Char} {s rest digits : List Char}

/-! ## Digits -/

theorem digit?_digitChar (hd : d < base) (hbase : base ≤ 16) :
    digit? base (Nat.digitChar d) = some d := by
  have hsmall : ∀ d < 16, digit? 16 (Nat.digitChar d) = some d := by decide
  have h16 := hsmall d (by omega)
  simp only [digit?, Option.filter_eq_some_iff] at h16 ⊢
  exact ⟨h16.1, by simpa using hd⟩

theorem isDigit_digitChar (hd : d < base) (hbase : base ≤ 16) :
    isDigit base (Nat.digitChar d) = true := by
  rw [isDigit, digit?_digitChar hd hbase]
  rfl

theorem isDigit_mono {base' : Nat} (hle : base ≤ base') (h : isDigit base c = true) :
    isDigit base' c = true := by
  simp only [isDigit, digit?, Option.isSome_iff_exists, Option.filter_eq_some_iff,
    decide_eq_true_eq] at h ⊢
  obtain ⟨v, hv, hlt⟩ := h
  exact ⟨v, hv, Nat.lt_of_lt_of_le hlt hle⟩

theorem isDigit_iff : c.isDigit = true ↔ '0' ≤ c ∧ c ≤ '9' := by
  rw [Char.isDigit, Bool.and_eq_true, decide_eq_true_eq, decide_eq_true_eq]
  exact Iff.rfl

theorem digit?_ten (h : c.isDigit = true) : digit? 10 c = some (c.toNat - '0'.toNat) := by
  obtain ⟨hlow, hhigh⟩ := isDigit_iff.mp h
  have hle : c.toNat ≤ '9'.toNat := hhigh
  have hzero : '0'.toNat = 48 := rfl
  have hnine : '9'.toNat = 57 := rfl
  rw [digit?, if_pos ⟨hlow, hhigh⟩, Option.filter_some, if_pos]
  rw [decide_eq_true_eq]
  omega

theorem isDigit_ten : isDigit 10 c = c.isDigit := by
  rw [Bool.eq_iff_iff]
  constructor
  · intro h
    rw [isDigit, digit?] at h
    split at h
    · next hten => exact isDigit_iff.mpr hten
    -- the values of letters begin at ten
    · split at h
      · simp only [Option.filter_some, decide_eq_true_eq, Option.isSome_ite] at h
        omega
      · split at h
        · simp only [Option.filter_some, decide_eq_true_eq, Option.isSome_ite] at h
          omega
        · cases h
  · intro h
    rw [isDigit, digit?_ten h]
    rfl

/-! ## Values -/

theorem value_append_singleton (base : Nat) (digits : List Char) (c : Char) :
    value base (digits ++ [c]) = value base digits * base + (digit? base c).getD 0 := by
  rw [value, List.foldl_append]
  rfl

theorem value_eq_ofDigitChars (h : ∀ c ∈ digits, c.isDigit = true) :
    value 10 digits = Nat.ofDigitChars 10 digits 0 := by
  rw [value, Nat.ofDigitChars_eq_foldl]
  have hgen (n : Nat) : digits.foldl (fun n c => n * 10 + (digit? 10 c).getD 0) n
      = digits.foldl (fun n c => 10 * n + (c.toNat - '0'.toNat)) n := by
    induction digits generalizing n with
    | nil => rfl
    | cons c rest ih =>
      obtain ⟨hc, hrest⟩ := List.forall_mem_cons.mp h
      rw [List.foldl_cons, List.foldl_cons, ih hrest, digit?_ten hc, Option.getD_some,
        Nat.mul_comm n 10]
  exact hgen 0

/-! ## The text of a number -/

theorem isDigit_ofNat (hbase : 1 < base) (hle : base ≤ 16) (n : Nat) :
    ∀ c ∈ ofNat base n, isDigit base c = true := by
  induction n using Nat.strongRecOn with
  | ind n ih =>
    intro c hc
    rw [ofNat, Nat.toDigits_eq_if hbase] at hc
    split at hc
    · next hlt =>
      obtain rfl := List.mem_singleton.mp hc
      exact isDigit_digitChar hlt hle
    · next hge =>
      have hpos : 0 < n := by omega
      rcases List.mem_append.mp hc with hlead | hlast
      · exact ih (n / base) (Nat.div_lt_self hpos hbase) c hlead
      · obtain rfl := List.mem_singleton.mp hlast
        exact isDigit_digitChar (Nat.mod_lt n (by omega)) hle

theorem value_ofNat (hbase : 1 < base) (hle : base ≤ 16) (n : Nat) :
    value base (ofNat base n) = n := by
  induction n using Nat.strongRecOn with
  | ind n ih =>
    rw [ofNat, Nat.toDigits_eq_if hbase]
    split
    · next hlt =>
      have hdigit := digit?_digitChar hlt hle
      simp [value, hdigit]
    · next hge =>
      have hpos : 0 < n := by omega
      have hdigit := digit?_digitChar (Nat.mod_lt n (by omega : base > 0)) hle
      have hlead := ih (n / base) (Nat.div_lt_self hpos hbase)
      rw [ofNat] at hlead
      rw [value_append_singleton, hlead, hdigit, Nat.mul_comm]
      exact Nat.div_add_mod n base

theorem ofNat_ne_nil : ofNat base n ≠ [] :=
  Nat.toDigits_ne_nil

/-- No text of more than one digit begins with a zero. -/
theorem head?_ofNat (hbase : 1 < base) (hle : base ≤ 16) (hpos : 0 < n) :
    (ofNat base n).head? ≠ some '0' := by
  induction n using Nat.strongRecOn with
  | ind n ih =>
    rw [ofNat, Nat.toDigits_eq_if hbase]
    split
    · next hlt =>
      have hsmall : ∀ d < 16, Nat.digitChar d = '0' → d = 0 := by decide
      intro hzero
      have hn := hsmall n (by omega) (Option.some.inj hzero)
      omega
    · next hge =>
      have hquot : 0 < n / base := Nat.div_pos (by omega) (by omega)
      have hlead := ih (n / base) (Nat.div_lt_self hpos hbase) hquot
      rw [List.head?_append]
      cases hhead : (Nat.toDigits base (n / base)).head? with
      | none => exact absurd (List.head?_eq_none_iff.mp hhead) Nat.toDigits_ne_nil
      | some c =>
        rw [ofNat, hhead] at hlead
        exact hlead

theorem length_ofNat_le {k : Nat} (hbase : 1 < base) (hk : 0 < k) (hn : n < base ^ k) :
    (ofNat base n).length ≤ k :=
  (Nat.length_toDigits_le_iff hbase hk).mpr hn

/-- The reader takes the digits of a number and leaves what comes behind them. What comes has to
begin with something else than a digit, or it would be taken as well. -/
theorem span_ofNat (hbase : 1 < base) (hle : base ≤ 16)
    (hrest : ∀ c ∈ rest.head?, isDigit base c = false) :
    span base (ofNat base n ++ rest) = (ofNat base n, rest) := by
  have hdigits := isDigit_ofNat hbase hle n
  have htake : rest.takeWhile (isDigit base) = [] := by
    cases rest with
    | nil => rfl
    | cons c rest => simp [hrest c rfl]
  have hdrop : rest.dropWhile (isDigit base) = rest := by
    cases rest with
    | nil => rfl
    | cons c rest => simp [hrest c rfl]
  rw [span, List.takeWhile_append_of_pos hdigits,
    List.dropWhile_append_of_pos hdigits, htake, hdrop, List.append_nil]

/-! ## Unsigned numbers -/

/-- A text is read as a number when it consists of digits, with a plus sign before them or without
one. -/
theorem unsigned?_eq_some_iff : unsigned? s = some n ↔ ∃ digits, (s = digits ∨ s = '+' :: digits)
    ∧ digits ≠ [] ∧ (∀ c ∈ digits, c.isDigit = true) ∧ Nat.ofDigitChars 10 digits 0 = n := by
  have hread (digits : List Char) :
      (if digits ≠ [] ∧ digits.all (isDigit 10) then some (value 10 digits) else none)
      = some n ↔ digits ≠ [] ∧ (∀ c ∈ digits, c.isDigit = true)
        ∧ Nat.ofDigitChars 10 digits 0 = n := by
    simp only [List.all_eq_true, isDigit_ten]
    constructor
    · intro h
      split at h
      · next hdigits => exact ⟨hdigits.1, hdigits.2,
          (value_eq_ofDigitChars hdigits.2).symm.trans (Option.some.inj h)⟩
      · cases h
    · rintro ⟨hne, hdigits, hvalue⟩
      rw [if_pos ⟨hne, hdigits⟩, value_eq_ofDigitChars hdigits, hvalue]
  unfold unsigned?
  dsimp only
  rw [hread]
  constructor
  · intro h
    split at h
    · next rest => exact ⟨rest, Or.inr rfl, h⟩
    · exact ⟨s, Or.inl rfl, h⟩
  · rintro ⟨digits, rfl | rfl, h⟩
    · split
      · next rest =>
        -- a plus sign is no digit
        have hplus := h.2.1 '+' (List.mem_cons_self ..)
        cases hplus
      · exact h
    · exact h

end Sluice.Numeral
