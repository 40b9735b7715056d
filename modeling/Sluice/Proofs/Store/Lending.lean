import Sluice.Pool

/-!
# Lending and taking back

What a pool lends has the pool's size and is counted as lent out until it comes back; the pool's
size never changes, its number of buffers only grows and stays below the allocation limit.
-/

namespace Sluice.Pool

variable {p q : Pool} {b : Buffer}

/-- The pool has buffers, and no more than can be allocated. -/
structure Sound (p : Pool) : Prop where
  positive : 0 < p.capacity
  bounded : p.capacity * slotLength ≤ allocationLimit

theorem tooLarge_mono {size m n : Nat} (hmn : m ≤ n) (h : tooLarge size m = true) :
    tooLarge size n = true := by
  simp only [tooLarge, Bool.or_eq_true, decide_eq_true_eq] at h ⊢
  have hroom : m * slotLength ≤ n * slotLength := Nat.mul_le_mul_right slotLength hmn
  exact h.imp_left fun hlt => Nat.lt_of_lt_of_le hlt hroom

theorem Sound.of_capacity (h : p.Sound) (hcap : q.capacity = p.capacity) : q.Sound :=
  ⟨hcap ▸ h.positive, hcap ▸ h.bounded⟩

/-! ## Making and growing -/

theorem grow_ok {n : Nat} {hle : p.capacity ≤ n} (h : p.grow n hle = .ok q) :
    q.bufferSize = p.bufferSize ∧ q.capacity = n ∧ n * slotLength ≤ allocationLimit
      ∧ q.inUse = p.inUse := by
  have hp := p.length_available_le
  unfold grow at h
  split at h
  · cases h
  · next hsmall =>
    cases h
    simp only [tooLarge, Bool.or_eq_true, decide_eq_true_eq, not_or, Nat.not_lt] at hsmall
    refine ⟨rfl, rfl, hsmall.1, ?_⟩
    simp only [inUse, List.length_append, List.length_replicate]
    omega

theorem grow_error {n : Nat} {hle : p.capacity ≤ n} {cause : PanicCause}
    (h : p.grow n hle = .error cause) :
    cause = .capacityOverflow ∧ tooLarge p.bufferSize n = true := by
  unfold grow at h
  split at h
  · next hlarge =>
    cases h
    exact ⟨rfl, hlarge⟩
  · cases h

/-- A new pool has lent nothing, and its buffers hold at least a byte. -/
theorem create_ok {size initial : Nat} (h : create size initial = .ok p) :
    0 < size ∧ p.bufferSize = size ∧ p.inUse = 0 ∧ p.Sound := by
  unfold create at h
  split at h
  · cases h
  · next hfault =>
    obtain ⟨hsize, hcap, hbounded, huse⟩ := grow_ok h
    have hpos : size ≠ 0 ∧ initial ≠ 0 := by
      unfold creationFault? at hfault
      by_cases h0 : size = 0
      · rw [if_pos h0] at hfault; cases hfault
      · by_cases h1 : initial = 0
        · rw [if_neg h0, if_pos h1] at hfault; cases hfault
        · exact ⟨h0, h1⟩
    refine ⟨Nat.pos_of_ne_zero hpos.1, hsize, by simpa [inUse] using huse, ?_, ?_⟩
    · exact hcap ▸ Nat.pos_of_ne_zero hpos.2
    · exact hcap ▸ hbounded

/-! ## Lending -/

theorem lend_some (h : p.lend = some (b, q)) :
    b.length = p.bufferSize ∧ q.bufferSize = p.bufferSize ∧ q.capacity = p.capacity
      ∧ q.inUse = p.inUse + 1 := by
  have hp := p.length_available_le
  unfold lend at h
  split at h
  · cases h
  · next b' rest hav =>
    cases h
    rw [hav, List.length_cons] at hp
    refine ⟨p.length_of_mem b (by rw [hav]; exact List.mem_cons_self ..), rfl, rfl, ?_⟩
    simp only [inUse, hav, List.length_cons]
    omega

theorem lend_eq_none_iff : p.lend = none ↔ p.available = [] := by
  unfold lend
  split <;> simp_all

/-- From `p` to `q` the buffer `b` was lent, for which the pool has doubled if none was at hand. In
either case one buffer more is out than before. -/
structure Lent (p : Pool) (b : Buffer) (q : Pool) : Prop where
  length : b.length = p.bufferSize
  bufferSize : q.bufferSize = p.bufferSize
  inUse : q.inUse = p.inUse + 1
  capacity : p.inUse < p.capacity ∧ q.capacity = p.capacity
    ∨ p.inUse = p.capacity ∧ q.capacity = p.capacity * 2
  sound : q.Sound

theorem Lent.le_capacity (h : Lent p b q) : p.capacity ≤ q.capacity := by
  rcases h.capacity with ⟨-, hcap⟩ | ⟨-, hcap⟩
  · exact Nat.le_of_eq hcap.symm
  · omega

structure Spent (p : Pool) : Prop where
  full : p.inUse = p.capacity
  tooLarge : tooLarge p.bufferSize (p.capacity * 2) = true

theorem Spent.tooLarge_inUse (h : p.Spent) : Pool.tooLarge p.bufferSize (p.inUse * 2) = true := by
  rw [h.full]
  exact h.tooLarge

/-- Lending succeeds, or the pool cannot grow. The second case is a panic and no error, because the
number of bytes to allocate does not fit into the address space. -/
theorem acquire_cases (hp : p.Sound) : (∃ b q, p.acquire = .ok (b, q) ∧ Lent p b q)
    ∨ p.Spent ∧ p.acquire = .error (.panic .capacityOverflow) := by
  have hsum := p.available_add_inUse
  have hpos := hp.positive
  unfold acquire
  cases hl : p.lend with
  | some r =>
    obtain ⟨b, q⟩ := r
    obtain ⟨hlen, hsize, hcap, huse⟩ := lend_some hl
    have hleft : 0 < p.available.length := by
      rw [List.length_pos_iff]
      intro hnone
      rw [lend_eq_none_iff.mpr hnone] at hl
      cases hl
    exact Or.inl ⟨b, q, rfl, hlen, hsize, huse, Or.inl ⟨by omega, hcap⟩, hp.of_capacity hcap⟩
  | none =>
    have hnone := lend_eq_none_iff.mp hl
    rw [hnone, List.length_nil, Nat.zero_add] at hsum
    dsimp only
    cases hg : p.grow (p.capacity * 2) (by omega) with
    | error cause =>
      obtain ⟨rfl, hlarge⟩ := grow_error hg
      exact Or.inr ⟨⟨hsum, hlarge⟩, rfl⟩
    | ok grown =>
      obtain ⟨hsize, hcap, hbounded, huse⟩ := grow_ok hg
      dsimp only
      cases hl' : grown.lend with
      | some r =>
        obtain ⟨b, q⟩ := r
        obtain ⟨hlen, hsize', hcap', huse'⟩ := lend_some hl'
        refine Or.inl ⟨b, q, rfl, hlen.trans hsize, hsize'.trans hsize, ?_, Or.inr ⟨hsum, ?_⟩, ?_⟩
        · rw [huse', huse]
        · rw [hcap', hcap]
        · exact Sound.of_capacity ⟨by omega, hcap ▸ hbounded⟩ hcap'
      | none =>
        -- all buffers were out, so growing has made as many new ones
        have hsum' := grown.available_add_inUse
        rw [lend_eq_none_iff.mp hl', List.length_nil] at hsum'
        omega

/-! ## Taking back -/

/-- A buffer of the right size is taken back while any is lent out. -/
theorem release_ok (hlen : b.length = p.bufferSize) (huse : 0 < p.inUse) :
    ∃ q, p.release b = .ok q ∧ q.bufferSize = p.bufferSize ∧ q.capacity = p.capacity
      ∧ q.inUse + 1 = p.inUse := by
  have hroom : p.available.length < p.capacity := Nat.lt_of_sub_pos huse
  have hrel : ∃ q, p.release b = .ok q ∧ q.bufferSize = p.bufferSize
      ∧ q.capacity = p.capacity ∧ q.available = b :: p.available := by
    rw [release, dif_neg (not_not_intro hlen), dif_pos hroom]
    exact ⟨_, rfl, rfl, rfl, rfl⟩
  obtain ⟨q, hq, hsize, hcap, hav⟩ := hrel
  refine ⟨q, hq, hsize, hcap, ?_⟩
  simp only [inUse, hcap, hav, List.length_cons]
  omega

theorem release_available (h : p.release b = .ok q) : q.available = b :: p.available := by
  unfold release at h
  split at h
  · cases h
  · split at h <;> cases h
    rfl

end Sluice.Pool
