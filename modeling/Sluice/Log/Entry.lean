/-!
# Log entries

What the relay has to say, by level. Levels are ordered by importance, and a log shows the entries
that are at least as important as its threshold.
-/

namespace Sluice

inductive Level where
  | trace
  | debug
  | info
  | warn
  | error
  deriving DecidableEq, Repr, Inhabited

namespace Level

def rank : Level → Nat
  | .trace => 0
  | .debug => 1
  | .info => 2
  | .warn => 3
  | .error => 4

def name : Level → String
  | .trace => "TRACE"
  | .debug => "DEBUG"
  | .info => "INFO"
  | .warn => "WARN"
  | .error => "ERROR"

/-- Whether an entry of this level shows in a log with the given threshold. -/
def passes (l threshold : Level) : Bool :=
  threshold.rank ≤ l.rank

end Level

structure LogEntry where
  level : Level
  text : String
  deriving DecidableEq, Repr, Inhabited

end Sluice
