import Sluice.Log.Entry
import Sluice.Text.Quoted

/-!
# Log lines

A line shows when something was said, on which thread, and what: a message, followed by named
values. Text values stand in quotes; a value that has a form of its own stands as it is.
-/

namespace Sluice

inductive LogValue where
  | number (n : Int)
  | text (s : String)
  | shown (s : String)
  deriving DecidableEq, Repr, Inhabited

def LogValue.form : LogValue → String
  | .number n => toString n
  | .text s => Text.quoted s
  | .shown s => s

/-- A message with named values. -/
structure LogEvent where
  entry : LogEntry
  values : List (String × LogValue) := []
  deriving DecidableEq, Repr, Inhabited

namespace Log

/-- The environment variable that sets the threshold. -/
def settingName : String := "RELAYGATE_LOG"

/-- The form of the time in a line: year, month by name, day, and the time of day to the
microsecond. -/
def timeForm : String := "%Y-%b-%d %H:%M:%S%.6f"

/-- The complaint about a log that is set up a second time. -/
def alreadySetUp : String :=
  "Failed to install log subscriber: a global default trace dispatcher has already been set"

def line (time : String) (thread : Option String) (e : LogEvent) : String :=
  let values := e.values.map fun v => " " ++ v.1 ++ "=" ++ v.2.form
  time ++ " [" ++ thread.getD "unknown" ++ "] " ++ Text.escaped e.entry.text
    ++ String.join values ++
    "\n"

/-- The text of a log with the given threshold. -/
def render (time : String) (thread : Option String) (threshold : Level) (events : List LogEvent) :
    String :=
  String.join ((events.filter (·.entry.level.passes threshold)).map (line time thread))

end Log

end Sluice
