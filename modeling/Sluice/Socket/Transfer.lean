import Sluice.Fault.IoError

/-!
# Transfers

Reading and writing without waiting. A byte stream answers each call with bytes or an error; a
transfer makes the call again when it was interrupted and sorts the answer into its outcomes. What a
stream has to promise is little: it never moves more than it was offered, and it knows a bound on
the interruptions it still has in store, which bounds the calls.
-/

namespace Sluice

/-- A stream of bytes that can be read and written call by call. Reading no bytes means that the
stream has ended. -/
class ByteStream (σ : Type) where
  read : σ → Nat → Except IoError (List UInt8) × σ
  write : σ → List UInt8 → Except IoError Nat × σ
  /-- A bound on the interrupted calls in a row. -/
  interruptions : σ → Nat
  length_read_le : ∀ (s : σ) (n : Nat) (data : List UInt8), (read s n).1 = .ok data →
    data.length ≤ n
  write_le_length : ∀ (s : σ) (data : List UInt8) (n : Nat), (write s data).1 = .ok n →
    n ≤ data.length
  interruptions_read : ∀ (s : σ) (n : Nat) (e : IoError), (read s n).1 = .error e →
    e.kind = .interrupted → interruptions (read s n).2 < interruptions s
  interruptions_write : ∀ (s : σ) (data : List UInt8) (e : IoError), (write s data).1 = .error e →
    e.kind = .interrupted → interruptions (write s data).2 < interruptions s

inductive ReadOutcome where
  | done (data : List UInt8)
  | wouldBlock
  | endOfStream
  | failed (e : IoError)
  deriving DecidableEq, Repr, Inhabited

/-- What a write came to; one that is done has taken at least a byte. -/
inductive WriteOutcome where
  | done (count : Nat) (pos : 0 < count)
  | wouldBlock
  | failed (e : IoError)
  deriving DecidableEq, Repr

def ReadOutcome.ofAnswer : Except IoError (List UInt8) → ReadOutcome
  | .ok data => if data.isEmpty then .endOfStream else .done data
  | .error e => if e.kind = .wouldBlock then .wouldBlock else .failed e

/-- A write that takes nothing has failed. -/
def WriteOutcome.ofAnswer : Except IoError Nat → WriteOutcome
  | .ok 0 => .failed (.plain .writeZero)
  | .ok (n + 1) => .done (n + 1) (Nat.succ_pos n)
  | .error e => if e.kind = .wouldBlock then .wouldBlock else .failed e

/-- Whether the call was interrupted, so that it has to be made again. -/
def interruptedCall {α : Type} : Except IoError α → Bool
  | .error e => e.kind == .interrupted
  | .ok _ => false

theorem interruptedCall_iff {α : Type} {answer : Except IoError α} :
    interruptedCall answer = true ↔ ∃ e, answer = .error e ∧ e.kind = .interrupted := by
  cases answer <;> simp [interruptedCall]

section

variable {σ : Type} [ByteStream σ]

def readSome (s : σ) (n : Nat) : ReadOutcome × σ :=
  let r := ByteStream.read s n
  if _h : interruptedCall r.1 then readSome r.2 n else (.ofAnswer r.1, r.2)
termination_by ByteStream.interruptions s
decreasing_by
  obtain ⟨e, he, hk⟩ := interruptedCall_iff.1 _h
  exact ByteStream.interruptions_read s n e he hk

/-- Writes as much of `data` as the stream takes. There has to be something to write, because a
stream that takes nothing is told from one that was offered nothing. -/
def writeSome (s : σ) (data : List UInt8) (nonempty : data ≠ []) : WriteOutcome × σ :=
  let r := ByteStream.write s data
  if _h : interruptedCall r.1 then writeSome r.2 data nonempty else (.ofAnswer r.1, r.2)
termination_by ByteStream.interruptions s
decreasing_by
  obtain ⟨e, he, hk⟩ := interruptedCall_iff.1 _h
  exact ByteStream.interruptions_write s data e he hk

theorem length_readSome_le (s : σ) (n : Nat) {data : List UInt8} {s' : σ}
    (h : readSome s n = (.done data, s')) : data.length ≤ n := by
  fun_induction readSome s n with
  | case1 s r _ ih => exact ih h
  | case2 s r _ =>
    have ha : ReadOutcome.ofAnswer r.1 = .done data := congrArg Prod.fst h
    match hr : r.1 with
    | .ok d =>
      rw [hr, ReadOutcome.ofAnswer] at ha
      split at ha
      · cases ha
      · cases ha; exact ByteStream.length_read_le s n _ hr
    | .error e =>
      rw [hr, ReadOutcome.ofAnswer] at ha
      split at ha <;> cases ha

end

end Sluice
