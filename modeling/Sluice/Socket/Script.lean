import Sluice.Socket.Transfer

/-!
# Scripted streams

A stream that answers its calls from a list of steps, one step for each call, and counts the calls.
When the list is used up, it delivers and accepts nothing.
-/

namespace Sluice

/-- The answer to one call. A step that does not fit the call fails it. -/
inductive ScriptStep where
  | delivers (data : List UInt8)
  | accepts (count : Nat)
  | fails (e : IoError)
  deriving DecidableEq, Repr, Inhabited

structure Script where
  steps : List ScriptStep
  calls : Nat := 0
  written : List UInt8 := []
  deriving DecidableEq, Repr, Inhabited

namespace Script

def read (s : Script) (n : Nat) : Except IoError (List UInt8) × Script :=
  let called := { s with calls := s.calls + 1 }
  match s.steps with
  | [] => (.ok [], called)
  | .delivers data :: rest => (.ok (data.take n), { called with steps := rest })
  | .accepts _ :: rest => (.error (.plain .other), { called with steps := rest })
  | .fails e :: rest => (.error e, { called with steps := rest })

def write (s : Script) (data : List UInt8) : Except IoError Nat × Script :=
  let called := { s with calls := s.calls + 1 }
  match s.steps with
  | [] => (.ok 0, called)
  | .delivers _ :: rest => (.error (.plain .other), { called with steps := rest })
  | .accepts n :: rest =>
    (.ok (min n data.length),
      { called with steps := rest, written := s.written ++ data.take n })
  | .fails e :: rest => (.error e, { called with steps := rest })

instance : ByteStream Script where
  read := read
  write := write
  interruptions s := s.steps.length
  length_read_le s n data h := by
    unfold read at h
    split at h <;> simp only [Except.ok.injEq, reduceCtorEq] at h
    · subst h; exact Nat.zero_le n
    · subst h; rw [List.length_take]; exact Nat.min_le_left ..
  write_le_length s data n h := by
    unfold write at h
    split at h <;> simp only [Except.ok.injEq, reduceCtorEq] at h <;> omega
  interruptions_read s n e h _ := by
    unfold read at h ⊢
    split at h <;> simp_all
  interruptions_write s data e h _ := by
    unfold write at h ⊢
    split at h <;> simp_all

end Script

end Sluice
