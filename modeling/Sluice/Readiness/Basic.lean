/-!
# Descriptors, tokens and readiness

The vocabulary of waiting for descriptors: what a registration asks for (`Interest`), the value it
is reported under (`Token`), what the system says about a descriptor (`FileStatus`) and what a wait
reports (`Event`). `FileStatus.event?` is the one rule that joins them: an error condition is always
reported, readable and writable only when asked for, and a descriptor with nothing to report is left
out.
-/

namespace Sluice

abbrev Descriptor := Int

/-- The value a registration is reported under. -/
structure Token where
  value : Nat
  deriving DecidableEq, Repr, Inhabited

/-- The token reserved for the control pipe of a worker. -/
def Token.control : Token := ⟨(1 <<< 64) - 1⟩

/-- What a registration asks for. -/
structure Interest where
  read : Bool
  write : Bool
  deriving DecidableEq, Repr, Inhabited

namespace Interest

def none : Interest := ⟨false, false⟩
def readable : Interest := ⟨true, false⟩
def writable : Interest := ⟨false, true⟩
def both : Interest := ⟨true, true⟩

end Interest

/-- The conditions of a descriptor at one moment, whoever asks. -/
structure Conditions where
  readable : Bool
  writable : Bool
  error : Bool
  deriving DecidableEq, Repr, Inhabited

/-- What the system knows of a descriptor number. A plain file has no events of its own: a scan
finds it ready at all times, an event set refuses it. -/
inductive FileStatus where
  | closed
  | plain
  | live (conditions : Conditions)
  deriving DecidableEq, Repr, Inhabited

/-- The system as a poller sees it: the status of every descriptor number, and whether the process
has used up its allowance of descriptors. -/
structure SystemView where
  status : Descriptor → FileStatus
  exhausted : Bool

/-- One ready descriptor, by its token. -/
structure Event where
  token : Token
  readable : Bool
  writable : Bool
  error : Bool
  deriving DecidableEq, Repr, Inhabited

namespace Event

def isQuiet (e : Event) : Bool :=
  !e.readable && !e.writable && !e.error

end Event

/-- The report of `c` under `token` to someone who asked for `i`, or nothing. -/
def Conditions.event? (c : Conditions) (token : Token) (i : Interest) : Option Event :=
  let e : Event := ⟨token, c.readable && i.read, c.writable && i.write, c.error⟩
  if e.isQuiet then none else some e

theorem Conditions.token_of_event? {c : Conditions} {t : Token} {i : Interest} {e : Event}
    (h : c.event? t i = some e) : e.token = t := by
  grind [event?]

theorem Conditions.event?_eq_none_iff {c : Conditions} {t : Token} {i : Interest} :
    c.event? t i = none ↔
      (c.readable && i.read) = false ∧ (c.writable && i.write) = false ∧ c.error = false := by
  grind [event?, Event.isQuiet]

end Sluice
