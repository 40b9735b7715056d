import Mathlib.Algebra.Group.Nat.Defs
import Mathlib.Order.Bounds.Basic
import Sluice.Proofs.Store.Doubling
import Sluice.Proofs.Store.Lending

/-!
# A pool under demand

What a pool comes to under any sequence of requests, of which some may be refused (`Pool.Accounts`).
Buffers may be given back that the pool has never lent. The pool doubles only when the demand
exceeds what it has, so that its number of buffers follows from the largest demand so far:
`Provides` ties the two, one request keeps it (`Provides.serve`), and so does a run
(`Provides.after`). Every new pool keeps its accounts (`Pool.accounts_of_requests`).
-/

namespace Sluice.Pool

variable {p q : Pool} {b : Buffer} {r : Request} {rs : List Request} {size initial m : Nat}

/-! ## Requests -/

/-- What a pool is asked for. A buffer that is given back may be any buffer. -/
inductive Request where
  | acquire
  | release (b : Buffer)

inductive Reply where
  | lent (b : Buffer)
  | returned
  | stopped (a : Abort)

def Reply.isLent : Reply → Bool
  | .lent _ => true
  | _ => false

def Reply.isReturned : Reply → Bool
  | .returned => true
  | _ => false

def serve (p : Pool) : Request → Reply × Pool
  | .acquire =>
    match p.acquire with
    | .ok (b, q) => (.lent b, q)
    | .error a => (.stopped a, p)
  | .release b =>
    match p.release b with
    | .ok q => (.returned, q)
    | .error cause => (.stopped (.panic cause), p)

def after (p : Pool) : List Request → Pool
  | [] => p
  | r :: rs => (p.serve r).2.after rs

def replies (p : Pool) : List Request → List Reply
  | [] => []
  | r :: rs => (p.serve r).1 :: (p.serve r).2.replies rs

/-- The largest number of buffers that are lent out at a time, counted from the state that the run
begins in. -/
def peak (p : Pool) : List Request → Nat
  | [] => p.inUse
  | r :: rs => max p.inUse ((p.serve r).2.peak rs)

/-! ## One request -/

theorem serve_acquire (hp : p.Sound) : (∃ b q, p.serve .acquire = (.lent b, q) ∧ p.Lent b q)
    ∨ p.Spent ∧ p.serve .acquire = (.stopped (.panic .capacityOverflow), p) := by
  simp only [serve]
  rcases acquire_cases hp with ⟨b, q, hok, hlent⟩ | ⟨hspent, herror⟩
  · rw [hok]
    exact Or.inl ⟨b, q, rfl, hlent⟩
  · rw [herror]
    exact Or.inr ⟨hspent, rfl⟩

/-- A buffer is taken back when it has the right size and some buffer is lent out. The pool knows no
buffers apart, so that nothing else can be asked of the one that comes back. -/
theorem serve_release (hlen : b.length = p.bufferSize) (huse : 0 < p.inUse) :
    ∃ q, p.serve (.release b) = (.returned, q) ∧ q.bufferSize = p.bufferSize
      ∧ q.capacity = p.capacity
      ∧ q.inUse + 1 = p.inUse := by
  obtain ⟨q, hok, hsize, hcap, hlent⟩ := release_ok hlen huse
  refine ⟨q, ?_, hsize, hcap, hlent⟩
  simp only [serve, hok]

def refusal? (p : Pool) (b : Buffer) : Option PanicCause :=
  if b.length ≠ p.bufferSize then some .wrongBufferSize
  else if p.inUse = 0 then some .fullPool
  else none

theorem refusal?_eq_none_iff : p.refusal? b = none ↔ b.length = p.bufferSize ∧ 0 < p.inUse := by
  unfold refusal?
  split
  · next hsize => simp [hsize]
  · next hsize =>
    have hpos := Nat.pos_iff_ne_zero (n := p.inUse)
    split
    · next hnone => simp [hnone]
    · next hsome => simp [not_not.mp hsize, hpos.mpr hsome]

theorem serve_release_refused {cause : PanicCause} (h : p.refusal? b = some cause) :
    p.serve (.release b) = (.stopped (.panic cause), p) := by
  have hsum := p.available_add_inUse
  unfold refusal? at h
  have hrel : p.release b = .error cause := by
    unfold release
    split at h
    · next hsize =>
      cases h
      rw [dif_pos hsize]
    · next hsize =>
      split at h
      · next hnone =>
        cases h
        have hfull : ¬ p.available.length < p.capacity := by omega
        rw [dif_neg hsize, dif_neg hfull]
      · cases h
  simp only [serve, hrel]

/-- All that can come of a request: a buffer is lent, one is taken back, or the pool stays as it
is. -/
theorem Sound.serve_cases (hp : p.Sound) (r : Request) :
    (∃ b q, p.serve r = (.lent b, q) ∧ p.Lent b q)
    ∨ (∃ q, p.serve r = (.returned, q) ∧ q.bufferSize = p.bufferSize ∧ q.capacity = p.capacity
      ∧ q.inUse + 1 = p.inUse)
    ∨ ∃ a, p.serve r = (.stopped a, p) := by
  cases r with
  | acquire =>
    rcases serve_acquire hp with hlent | ⟨-, hserve⟩
    · exact Or.inl hlent
    · exact Or.inr (Or.inr ⟨_, hserve⟩)
  | release b =>
    refine Or.inr ?_
    cases hrefused : p.refusal? b with
    | some cause => exact Or.inr ⟨_, serve_release_refused hrefused⟩
    | none =>
      obtain ⟨hlen, huse⟩ := refusal?_eq_none_iff.mp hrefused
      exact Or.inl (serve_release hlen huse)

/-- What is taken back is lent next, and that undoes it. -/
theorem serve_acquire_release (h : p.serve (.release b) = (.returned, q)) :
    q.serve .acquire = (.lent b, p) := by
  have hok : p.release b = .ok q := by
    simp only [serve] at h
    split at h
    · next hok =>
      cases h
      exact hok
    · cases h
  have hlend : q.lend = some (b, p) := by
    unfold release at hok
    split at hok
    · cases hok
    · split at hok
      · cases hok
        rfl
      · cases hok
  simp only [serve, acquire, hlend]

/-! ## Runs -/

/-- A pool that began with `initial` buffers of `size` bytes, of which `m` at most were lent out at
a time. It has doubled only for want of buffers: either never, or so that half of what it has would
not have been enough. -/
structure Provides (size initial m : Nat) (p : Pool) : Prop where
  bufferSize : p.bufferSize = size
  sound : p.Sound
  inUse : p.inUse ≤ m
  enough : m ≤ p.capacity
  doubled : ∃ k, p.capacity = initial * 2 ^ k ∧ (k = 0 ∨ p.capacity < 2 * m)

theorem Provides.lent (h : Provides size initial m p) (hl : p.Lent b q) :
    Provides size initial (max m q.inUse) q := by
  obtain ⟨hsize, hsound, huse, henough, k, hk, hleast⟩ := h
  have hpos := hsound.positive
  have hlent := hl.inUse
  refine ⟨hl.bufferSize.trans hsize, hl.sound, Nat.le_max_right .., ?_, ?_⟩
  · rcases hl.capacity with ⟨hroom, hcap⟩ | ⟨hfull, hcap⟩
    · omega
    · omega
  · rcases hl.capacity with ⟨hroom, hcap⟩ | ⟨hfull, hcap⟩
    · refine ⟨k, hcap.trans hk, hleast.imp_right fun hlt => ?_⟩
      omega
    · refine ⟨k + 1, ?_, Or.inr ?_⟩
      · rw [hcap, hk, Nat.pow_succ, Nat.mul_assoc]
      · omega

theorem Provides.returned (h : Provides size initial m p) (hsize : q.bufferSize = p.bufferSize)
    (hcap : q.capacity = p.capacity) (hback : q.inUse + 1 = p.inUse) :
    Provides size initial m q := by
  obtain ⟨hbytes, hsound, huse, henough, hdoubled⟩ := h
  refine ⟨hsize.trans hbytes, hsound.of_capacity hcap, by omega, hcap ▸ henough, ?_⟩
  rw [hcap]
  exact hdoubled

/-- A request keeps what ties the number of buffers to the demand. Only lending can double, and it
does so when all buffers are lent, so that the demand is the old number and one more. -/
theorem Provides.serve (h : Provides size initial m p) (r : Request) :
    Provides size initial (max m (p.serve r).2.inUse) (p.serve r).2 := by
  have huse := h.inUse
  rcases h.sound.serve_cases r with
    ⟨b, q, hserve, hlent⟩ | ⟨q, hserve, hsize, hcap, hback⟩ | ⟨a, hserve⟩
  · rw [hserve]
    exact h.lent hlent
  · have hless : max m q.inUse = m := Nat.max_eq_left (by omega)
    rw [hserve, hless]
    exact h.returned hsize hcap hback
  · rw [hserve, Nat.max_eq_left huse]
    exact h

theorem inUse_le_peak (p : Pool) (rs : List Request) : p.inUse ≤ p.peak rs := by
  cases rs with
  | nil => exact Nat.le_refl _
  | cons r rs => exact Nat.le_max_left ..

theorem Provides.after (h : Provides size initial m p) (rs : List Request) :
    Provides size initial (max m (p.peak rs)) (p.after rs) := by
  induction rs generalizing p m with
  | nil =>
    have hm : max m (p.peak []) = m := Nat.max_eq_left h.inUse
    rw [hm]
    exact h
  | cons r rs ih =>
    have hnext := ih (h.serve r)
    have hpeak := (p.serve r).2.inUse_le_peak rs
    have hm : max (max m (p.serve r).2.inUse) ((p.serve r).2.peak rs)
        = max m (p.peak (r :: rs)) := by
      have huse := h.inUse
      rw [peak]
      omega
    rw [hm] at hnext
    exact hnext

/-- No other number of buffers that comes of doubling is enough and smaller. The peak decides this
alone, and not the order of the requests or what was given back between them. -/
theorem Provides.isLeast (h : Provides size initial m p) :
    IsLeast {c | (∃ k, c = initial * 2 ^ k) ∧ m ≤ c} p.capacity := by
  obtain ⟨k, hk, hhalf⟩ := h.doubled
  have henough := h.enough
  rw [hk] at henough hhalf ⊢
  exact isLeast_doubled henough hhalf

theorem after_append (p : Pool) (rs more : List Request) :
    p.after (rs ++ more) = (p.after rs).after more := by
  induction rs generalizing p with
  | nil => rfl
  | cons r rs ih => exact ih (p.serve r).2

/-- A request lends one buffer, takes one back or leaves the number of those that are out.
Subtraction is avoided, because what is taken back may have been lent before the run began. -/
theorem Sound.balance_serve (hp : p.Sound) (r : Request) :
    (p.serve r).2.inUse + (if (p.serve r).1.isReturned then 1 else 0)
      = p.inUse + (if (p.serve r).1.isLent then 1 else 0) := by
  rcases hp.serve_cases r with ⟨b, q, hserve, hlent⟩ | ⟨q, hserve, -, -, hback⟩ | ⟨a, hserve⟩
  · rw [hserve]
    exact hlent.inUse
  · rw [hserve]
    exact hback
  · rw [hserve]
    rfl

theorem Provides.balance (h : Provides size initial m p) (rs : List Request) :
    (p.after rs).inUse + (p.replies rs).countP Reply.isReturned
      = p.inUse + (p.replies rs).countP Reply.isLent := by
  induction rs generalizing p m with
  | nil => rfl
  | cons r rs ih =>
    have hfirst := h.sound.balance_serve r
    have hrest := ih (h.serve r)
    simp only [Pool.after, replies, List.countP_cons]
    omega

theorem Provides.lent_length (h : Provides size initial m p) (rs : List Request)
    (hb : .lent b ∈ p.replies rs) : b.length = size := by
  induction rs generalizing p m with
  | nil => exact absurd hb List.not_mem_nil
  | cons r rs ih =>
    rcases List.mem_cons.mp hb with hfirst | hrest
    · rcases h.sound.serve_cases r with ⟨c, q, hserve, hlent⟩ | ⟨q, hserve, -⟩ | ⟨a, hserve⟩
      · rw [hserve] at hfirst
        cases hfirst
        exact hlent.length.trans h.bufferSize
      · rw [hserve] at hfirst
        cases hfirst
      · rw [hserve] at hfirst
        cases hfirst
    · exact ih (h.serve r) hrest

theorem Sound.capacity_le_serve (hp : p.Sound) (r : Request) :
    p.capacity ≤ (p.serve r).2.capacity := by
  rcases hp.serve_cases r with ⟨b, q, hserve, hlent⟩ | ⟨q, hserve, -, hcap, -⟩ | ⟨a, hserve⟩
  · rw [hserve]
    exact hlent.le_capacity
  · rw [hserve]
    exact Nat.le_of_eq hcap.symm
  · rw [hserve]

theorem Provides.capacity_le_after (h : Provides size initial m p) (rs : List Request) :
    p.capacity ≤ (p.after rs).capacity := by
  induction rs generalizing p m with
  | nil => exact Nat.le_refl _
  | cons r rs ih => exact Nat.le_trans (h.sound.capacity_le_serve r) (ih (h.serve r))

/-! ## Accounts -/

/-- What holds of a pool after some requests, when it began with `initial` buffers of `size` bytes,
and of the request that comes next. -/
structure Accounts (size initial : Nat) (p : Pool) (rs : List Request) : Prop where
  whole : (p.after rs).available.length + (p.after rs).inUse = (p.after rs).capacity
  stock : ∀ b ∈ (p.after rs).available, b.length = size
  lent : ∀ b, .lent b ∈ p.replies rs → b.length = size
  balance : (p.after rs).inUse + (p.replies rs).countP Reply.isReturned
    = (p.replies rs).countP Reply.isLent
  /-- The pool has doubled as often as the demand has asked for, and no more. -/
  capacity : IsLeast {c | (∃ k, c = initial * 2 ^ k) ∧ p.peak rs ≤ c} (p.after rs).capacity
  grows : ∀ more, (p.after rs).capacity ≤ (p.after (rs ++ more)).capacity
  /-- A buffer is lent, unless all are and twice as many cannot be allocated. -/
  acquire : (∃ b q, (p.after rs).serve .acquire = (.lent b, q))
    ∨ (p.after rs).Spent
      ∧ (p.after rs).serve .acquire = (.stopped (.panic .capacityOverflow), p.after rs)
  /-- A buffer that is taken back is the next to be lent, and the pool is the same again then. -/
  release : ∀ b, b.length = size → 0 < (p.after rs).inUse →
    ∃ q, (p.after rs).serve (.release b) = (.returned, q) ∧ q.serve .acquire = (.lent b, p.after rs)
  refused : ∀ b, b.length ≠ size ∨ (p.after rs).inUse = 0 →
    ∃ cause, (p.after rs).serve (.release b) = (.stopped (.panic cause), p.after rs)

theorem Provides.accounts (h : Provides size initial 0 p) (rs : List Request) :
    p.Accounts size initial rs := by
  have hafter := h.after rs
  rw [Nat.zero_max] at hafter
  have hnone : p.inUse = 0 := Nat.le_zero.mp h.inUse
  constructor
  case whole => exact (p.after rs).available_add_inUse
  case stock =>
    intro b hb
    exact ((p.after rs).length_of_mem b hb).trans hafter.bufferSize
  case lent => exact fun b => h.lent_length rs
  case balance =>
    have hbalance := h.balance rs
    omega
  case capacity => exact hafter.isLeast
  case grows =>
    intro more
    rw [after_append]
    exact hafter.capacity_le_after more
  case acquire =>
    rcases serve_acquire hafter.sound with ⟨b, q, hserve, -⟩ | hspent
    · exact Or.inl ⟨b, q, hserve⟩
    · exact Or.inr hspent
  case release =>
    intro b hlen huse
    obtain ⟨q, hserve, -⟩ := serve_release (hlen.trans hafter.bufferSize.symm) huse
    exact ⟨q, hserve, serve_acquire_release hserve⟩
  case refused =>
    intro b hb
    cases hrefused : (p.after rs).refusal? b with
    | some cause => exact ⟨cause, serve_release_refused hrefused⟩
    | none =>
      obtain ⟨hlen, huse⟩ := refusal?_eq_none_iff.mp hrefused
      rcases hb with hwrong | hempty
      · exact absurd (hlen.trans hafter.bufferSize) hwrong
      · omega

/-- A pool can be made of any positive number of buffers of any positive size that can be allocated,
and it keeps its accounts whatever it is asked for. -/
theorem accounts_of_requests (hsize : 0 < size) (hinitial : 0 < initial)
    (hroom : tooLarge size initial = false) :
    ∃ p, create size initial = .ok p ∧ ∀ rs, p.Accounts size initial rs := by
  have hfault : creationFault? size initial = none := by
    rw [creationFault?, if_neg (Nat.pos_iff_ne_zero.mp hsize),
      if_neg (Nat.pos_iff_ne_zero.mp hinitial), hroom]
    rfl
  cases hcreate : create size initial with
  | error cause =>
    rw [create_eq_error_iff, hfault] at hcreate
    cases hcreate
  | ok p =>
    obtain ⟨-, hbytes, hnone, hsound⟩ := create_ok hcreate
    have hcap : p.capacity = initial := by
      unfold create at hcreate
      rw [hfault] at hcreate
      exact (grow_ok hcreate).2.1
    have hnew : Provides size initial 0 p := by
      refine ⟨hbytes, hsound, Nat.le_of_eq hnone, Nat.zero_le _, 0, ?_, Or.inl rfl⟩
      rw [hcap, Nat.pow_zero, Nat.mul_one]
    exact ⟨p, rfl, hnew.accounts⟩

/-- Of a pool of one buffer two are lent. One of another size is not taken back, and neither is a
third one when the two are back. -/
theorem accounts_of_six : ∃ p rs, create 4 1 = .ok p ∧ p.Accounts 4 1 rs
    ∧ rs = [.acquire, .acquire, .release (.blank 3), .release (.blank 4), .release (.blank 4),
      .release (.blank 4)]
    ∧ (p.replies rs).map Reply.isLent = [true, true, false, false, false, false]
    ∧ (p.replies rs).map Reply.isReturned = [false, false, false, true, true, false]
    ∧ p.peak rs = 2 ∧ (p.after rs).capacity = 2 := by
  obtain ⟨p, hp, haccounts⟩ :=
    accounts_of_requests (by decide : 0 < 4) (by decide : 0 < 1) (by decide)
  have hmade : create 4 1 = .ok ⟨4, [.blank 4], 1, by decide, by decide⟩ := rfl
  obtain rfl := Except.ok.inj (hmade.symm.trans hp)
  exact ⟨_, _, hp, haccounts _, rfl, rfl, rfl, rfl, rfl⟩

end Sluice.Pool
