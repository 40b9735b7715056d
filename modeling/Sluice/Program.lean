import Sluice.Cli.Reader
import Sluice.Log.Filter
import Sluice.Log.Line
import Sluice.Service

/-!
# The program

From the command line to the end of the program. A command line that is not run, and settings that
make no sense, are answered on the spot; whatever else goes wrong is logged. A relay that works has
no end.
-/

namespace Sluice

/-- How a run of the program comes out: what its log shows of the main thread, and the texts it
prints. -/
structure Transcript where
  output : String := ""
  errors : String := ""
  log : List LogEvent := []
  /-- The threads that panicked, with the reasons. -/
  panics : List (String × PanicCause) := []
  /-- The exit status, if the program ends. -/
  status : Option Nat
  deriving Repr, Inhabited

namespace Transcript

/-- The text of the log, in which every line has the same time. -/
def logText (t : Transcript) (time : String) : String :=
  Log.render time (some "main") .trace t.log

end Transcript

namespace Program

/-- What went wrong, in which step, and because of what. -/
def account (step : String) (e : RelayError) : String :=
  ": ".intercalate (step :: e.message :: e.causes)

/-- The status of a program whose main thread panicked. -/
def panicStatus : Nat := 101

def panicked (log : List LogEvent) (cause : PanicCause) : Transcript :=
  { log, panics := [("main", cause)], status := some panicStatus }

/-- The end of a program that met an error after its service had said `said`. -/
def failed (filter : Log.Filter) (said : Log.Report) (step : String)
    (e : RelayError) : Transcript :=
  if e.isUsageError then
    { errors := "error: " ++ e.message ++ "\n\n" ++ Cli.usage ++ "\n"
      log := filter.shown said
      status := some 1 }
  else
    { log := filter.shown (said ++ [(.program, ⟨.error, account step e⟩)])
      status := some 1 }

/-- Runs the relay with the given settings. -/
def serve (filter : Log.Filter) (settings : Settings) (m : Machine) : Transcript :=
  let bound := Service.bind settings m false 3
  match bound.1 with
  | .error e => failed filter bound.2 "failed to set up listeners" e
  | .ok service =>
    let started := service.start false (3 + service.listeners.length)
    let said := bound.2 ++ started.2
    match started.1 with
    | .error (.refused e) => failed filter said "failed to start relay threads" e
    | .error (.panicked cause) => panicked (filter.shown said) cause
    | .ok running =>
      let panics := running.workers.filterMap fun w => w.2.map (w.1, ·)
      match running.join? with
      | some e => { failed filter said "relay stopped" e with panics }
      | none => { log := filter.shown said, panics, status := none }

def run (arguments : List String) (logSetting : Option String) (m : Machine) : Transcript :=
  match Cli.parse arguments with
  | .error complaint =>
    if complaint.isAnswer then { output := complaint.text, status := some 0 }
    else { errors := complaint.text, status := some 1 }
  | .ok invocation =>
    match Log.Filter.ofRun logSetting invocation.verbose with
    | .error cause => panicked [] cause
    | .ok filter =>
      match invocation.toSettings with
      | .error e => failed filter [] "invalid arguments" e
      | .ok settings => serve filter settings m

end Program

end Sluice
