import Sluice.Allocation
import Sluice.Buffer

/-!
# Buffer pools

A pool lends buffers of one size and takes them back. It starts with some buffers and doubles their
number when it runs out; it never gives any up. The buffer that came back last is lent first. Every
buffer in the pool has the pool's size, and there are never more of them than the pool has made.
-/

namespace Sluice

/-- The room that a buffer takes in the pool's own list. -/
def slotLength : Nat := 16

structure Pool where
  bufferSize : Nat
  available : List Buffer
  capacity : Nat
  length_available_le : available.length ≤ capacity
  length_of_mem : ∀ b ∈ available, b.length = bufferSize

namespace Pool

/-- How many buffers are lent out. -/
def inUse (p : Pool) : Nat :=
  p.capacity - p.available.length

/-- Whether so many buffers of such a size are more than can be allocated. -/
def tooLarge (bufferSize capacity : Nat) : Bool :=
  allocationLimit < capacity * slotLength || allocationLimit < bufferSize

/-- Makes new buffers until there are `capacity` in all. -/
def grow (p : Pool) (capacity : Nat) (le : p.capacity ≤ capacity) : Except PanicCause Pool :=
  if tooLarge p.bufferSize capacity then .error .capacityOverflow
  else
    let made := List.replicate (capacity - p.capacity) (Buffer.blank p.bufferSize)
    .ok { p with
      available := made ++ p.available
      capacity
      length_available_le := by
        have := p.length_available_le
        simp [made]; omega
      length_of_mem := by
        intro b hb
        rcases List.mem_append.1 hb with hb | hb
        · simp [made] at hb; simp [hb]
        · exact p.length_of_mem b hb }

/-- Why a pool of `initial` buffers cannot be made, if it cannot. -/
def creationFault? (bufferSize initial : Nat) : Option PanicCause :=
  if bufferSize = 0 then some .bufferSizeZero
  else if initial = 0 then some .poolSizeZero
  else if tooLarge bufferSize initial then some .capacityOverflow
  else none

def create (bufferSize initial : Nat) : Except PanicCause Pool :=
  match creationFault? bufferSize initial with
  | some cause => .error cause
  | none => grow ⟨bufferSize, [], 0, Nat.le_of_eq List.length_nil, by simp⟩ initial (Nat.zero_le _)

def lend (p : Pool) : Option (Buffer × Pool) :=
  match h : p.available with
  | [] => none
  | b :: rest =>
    some (b, { p with
      available := rest
      length_available_le := by
        have := p.length_available_le
        rw [h] at this
        exact Nat.le_of_succ_le this
      length_of_mem := fun c hc => p.length_of_mem c (by rw [h]; exact List.mem_cons_of_mem b hc) })

/-- Lends a buffer. If none is left the pool is doubled first, which is the only way in which it
grows. -/
def acquire (p : Pool) : Except Abort (Buffer × Pool) :=
  match p.lend with
  | some r => .ok r
  | none =>
    match p.grow (p.capacity * 2) (by omega) with
    | .error cause => .error (.panic cause)
    | .ok grown =>
      match grown.lend with
      | some r => .ok r
      | none => .error (.fatal .poolEmpty)

def release (p : Pool) (b : Buffer) : Except PanicCause Pool :=
  if size : b.length ≠ p.bufferSize then .error .wrongBufferSize
  else if room : p.available.length < p.capacity then
    .ok { p with
      available := b :: p.available
      length_available_le := room
      length_of_mem := by
        intro c hc
        rcases List.mem_cons.1 hc with rfl | hc
        · simpa using size
        · exact p.length_of_mem c hc }
  else .error .fullPool

/-- Making a pool fails for the stated reasons only. -/
theorem create_eq_error_iff {bufferSize initial : Nat} {cause : PanicCause} :
    create bufferSize initial = .error cause ↔ creationFault? bufferSize initial = some cause := by
  unfold create
  split
  · next h => simp [h]
  · next h =>
    have hl : tooLarge bufferSize initial = false := by
      unfold creationFault? at h
      split at h
      · cases h
      · split at h
        · cases h
        · split at h
          · cases h
          · next hl => simpa using hl
    simp [grow, hl, h]

theorem available_add_inUse (p : Pool) : p.available.length + p.inUse = p.capacity := by
  have := p.length_available_le
  simp only [inUse]; omega

end Pool

end Sluice
