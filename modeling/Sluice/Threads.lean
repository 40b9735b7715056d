import Sluice.Fault.Abort
import Sluice.Log.Entry

/-!
# Named threads

Every thread has a name without null bytes, which its log lines carry. Threads may be pinned to
processor cores, which are assigned in rotation; when fewer cores can be used than were counted, the
assignment wraps around.
-/

namespace Sluice

/-- Why no thread can have the name. -/
def threadNameFault? (name : String) : Option PanicCause :=
  let bytes := name.toUTF8.toList
  (bytes.findIdx? (· = 0)).map (.nullInName · bytes)

/-- Assigns cores to the threads that are pinned; `cores` is how many were counted. -/
structure ThreadBuilder where
  pin : Bool
  cores : Nat
  nextCore : Nat := 0
  deriving DecidableEq, Repr, Inhabited

namespace ThreadBuilder

/-- The core for the next pinned thread, if threads are pinned at all. -/
def assign (b : ThreadBuilder) : Option Nat × ThreadBuilder :=
  if b.pin then (some (b.nextCore % max b.cores 1), { b with nextCore := b.nextCore + 1 })
  else (none, b)

end ThreadBuilder

/-- What pinning a thread came to. -/
inductive Pinning where
  | exact
  | instead (core : Nat)
  | failed
  deriving DecidableEq, Repr, Inhabited

namespace Pinning

/-- Pins a thread to `core` when `usable` cores can be used. -/
def attempt (usable core : Nat) : Pinning :=
  if usable = 0 then .failed
  else if core < usable then .exact
  else .instead (core % usable)

/-- What the thread says about it. -/
def entry (core : Nat) : Pinning → LogEntry
  | .exact => ⟨.debug, s!"pinned to core {core}"⟩
  | .instead actual => ⟨.debug, s!"pinned to core {actual} instead of {core}"⟩
  | .failed => ⟨.warn, s!"thread pinning to core {core}: Failed"⟩

end Pinning

end Sluice
