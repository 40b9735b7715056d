import Sluice.Pool
import Sluice.Socket.Transfer

/-!
# Staged bytes

A buffer with a window of bytes that wait to be written. Staging puts new bytes at the front of the
buffer and opens the window on them; flushing writes from the front of the window and narrows it by
what the stream takes, until nothing is left or the stream takes no more.
-/

namespace Sluice

/-- A buffer and the window of it that waits to be written. -/
structure Staging where
  buffer : Buffer
  offset : Nat := 0
  len : Nat := 0
  offset_le : offset ≤ len := by omega
  len_le : len ≤ buffer.length := by omega

/-- What a flush came to. -/
inductive Flush where
  | complete
  | wouldBlock
  | failed (e : IoError)
  deriving DecidableEq, Repr, Inhabited

namespace Staging

def pending (st : Staging) : Nat :=
  st.len - st.offset

/-- The bytes that wait. -/
def window (st : Staging) : List UInt8 :=
  st.buffer.slice st.offset st.pending

/-- Puts `data` at the front of the buffer and opens the window on it. -/
def stage (st : Staging) (data : List UInt8)
    (_fits : data.length ≤ st.buffer.length) : Staging where
  buffer := st.buffer.overwrite data
  len := data.length
  offset_le := Nat.zero_le _
  len_le := by rw [Buffer.length_overwrite _fits]; exact _fits

/-- A buffer with nothing that waits. -/
def empty (buffer : Buffer) : Staging where
  buffer
  offset_le := Nat.le_refl 0
  len_le := Nat.zero_le _

def clear (st : Staging) : Staging :=
  empty st.buffer

/-- Narrows the window by the `n` bytes at its front. -/
def advance (st : Staging) (n : Nat) : Staging where
  buffer := st.buffer
  offset := min (st.offset + n) st.len
  len := st.len
  offset_le := Nat.min_le_right ..
  len_le := st.len_le

@[simp] theorem length_window (st : Staging) : st.window.length = st.pending := by
  have := st.len_le
  simp only [window, pending, Buffer.length_slice]
  omega

theorem window_ne_nil {st : Staging} (h : st.offset < st.len) : st.window ≠ [] := by
  refine List.ne_nil_of_length_pos ?_
  rw [length_window, pending]
  omega

@[simp] theorem window_stage (st : Staging) (data : List UInt8)
    (fits : data.length ≤ st.buffer.length) : (st.stage data fits).window = data := by
  simp [window, pending, stage, Buffer.slice_eq, Buffer.toList_overwrite]

@[simp] theorem length_buffer_stage (st : Staging) (data : List UInt8)
    (fits : data.length ≤ st.buffer.length) :
    (st.stage data fits).buffer.length = st.buffer.length :=
  Buffer.length_overwrite fits

theorem window_advance (st : Staging) (n : Nat) : (st.advance n).window = st.window.drop n := by
  have := st.len_le
  simp only [window, pending, advance, Buffer.slice_eq, List.drop_take, List.drop_drop]
  by_cases h : st.offset + n ≤ st.len
  · rw [Nat.min_eq_left h, Nat.sub_add_eq]
  · rw [Nat.min_eq_right (by omega), Nat.sub_self, List.take_zero,
      show st.len - st.offset - n = 0 by omega, List.take_zero]

section

variable {σ : Type} [ByteStream σ]

/-- Writes the window to `s` until nothing is left of it or `s` takes no more. What was taken before
that is out of the window, so that the next flush goes on where this one has stopped. -/
def flush (st : Staging) (s : σ) : Flush × Staging × σ :=
  if _h : st.offset < st.len then
    match writeSome s st.window (window_ne_nil _h) with
    | (.done n _, s) => flush (st.advance n) s
    | (.wouldBlock, s) => (.wouldBlock, st, s)
    | (.failed e, s) => (.failed e, st, s)
  else (.complete, st, s)
termination_by st.pending
decreasing_by
  simp only [pending, advance]
  omega

end

end Staging

end Sluice
