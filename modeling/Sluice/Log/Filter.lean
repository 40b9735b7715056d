import Sluice.Fault.Abort
import Sluice.Log.Directive
import Sluice.Log.Line
import Sluice.Readiness.Backend

/-!
# Log filters

Which entries the log shows can be set by a text: directives with commas between them. Of the
directives that cover a part of the program the most specific one decides, and of equal ones the
last; a part that none covers shows nothing. A text with a directive that makes no sense is as good
as none.
-/

namespace Sluice.Log

/-- The parts of the program that write to its log. -/
inductive Part where
  /-- What reads the command line and reports how the run ended. -/
  | program
  /-- What listens and starts the threads. -/
  | service
  /-- What waits for readiness. -/
  | poller (backend : Backend)
  deriving DecidableEq, Repr, Inhabited

def Part.name : Part → String
  | .program => "relaygate"
  | .service => "relaygate_core::proxy"
  | .poller .epoll => "relaygate_core::poll::epoll"
  | .poller .kqueue => "relaygate_core::poll::kqueue"
  | .poller .poll => "relaygate_core::poll::portable"

/-- What the parts of the program have said, oldest first. -/
abbrev Report := List (Part × LogEntry)

namespace Directive

/-- The one value that every entry carries: what it says. -/
def carried : List Char := "message".toList

/-- Whether the directive is about entries made outside of spans, where the log does not look at
values. -/
def isStatic (d : Directive) : Bool :=
  d.span.isNone && d.condition.all (·.pattern.isNone)

/-- Whether the directive decides about entries of a part, unless a more specific one does. -/
def covers (d : Directive) (p : Part) : Bool :=
  d.isStatic && d.target.all (·.isPrefixOf p.name.toList) && d.condition.all (·.name = carried)

/-- How specific the directive is: first by its target, then by its condition. -/
def specificity (d : Directive) : Nat × Nat :=
  ((d.target.map fun t => Text.byteLength t + 1).getD 0, if d.condition.isSome then 1 else 0)

/-- Whether the directive is not more specific than another one. -/
def yields (d other : Directive) : Bool :=
  d.specificity.1 < other.specificity.1 ||
    d.specificity.1 = other.specificity.1 && d.specificity.2 ≤ other.specificity.2

end Directive

structure Filter where
  directives : List Directive
  deriving DecidableEq, Repr, Inhabited

namespace Filter

def uniform (threshold : Level) : Filter :=
  ⟨[{ threshold := some threshold }]⟩

/-- The filter that a text sets. The first flaw is reported. -/
def ofText? (s : String) : Except Flaw Filter :=
  (((s.splitOn ",").filter (· ≠ "")).mapM fun d => Directive.ofText? d.toList).map (⟨·⟩)

/-- The filter of a run: the one that was set, or else what the user asked for. -/
def ofRun (setting : Option String) (verbose : Bool) : Except PanicCause Filter :=
  let default := uniform (if verbose then .debug else .info)
  match setting.map ofText? with
  | some (.ok f) => .ok f
  | some (.error (.miscut place)) => .error (.cutCharacter place)
  | some (.error .senseless) => .ok default
  | none => .ok default

/-- The directive that decides about a part, if any covers it. -/
def deciding? (f : Filter) (p : Part) : Option Directive :=
  let closer (best : Option Directive) (d : Directive) :=
    match best with
    | some b => if b.yields d then some d else best
    | none => some d
  (f.directives.filter (·.covers p)).foldl closer none

def shows (f : Filter) (p : Part) (e : LogEntry) : Bool :=
  match (f.deciding? p).bind (·.threshold) with
  | some threshold => e.level.passes threshold
  | none => false

/-- What the log shows of a report. -/
def shown (f : Filter) (report : Report) : List LogEvent :=
  (report.filter fun said => f.shows said.1 said.2).map fun said => { entry := said.2 }

end Filter

end Sluice.Log
