import Sluice.Cli.Option
import Sluice.Fault.Abort
import Sluice.Text.Terminal

/-!
# Complaints about the command line

Why a command line is not run: what it asks for is only to be printed, or something about it is
wrong. A complaint names its cause; the text follows from the cause. It is written for a terminal,
with emphasis on what the user wrote, and printed without whatever would steer one.
-/

namespace Sluice.Cli

open Text.Terminal (emphasized)

/-- Why a command line is not run. -/
inductive Complaint where
  | help
  | version
  | unknown (argument : String)
  /-- A long name that is none, and the options used before. -/
  | unknownLong (name : String) (used : List Item)
  | unexpectedValue (item : Item) (value : String) (used : List Item)
  | missingValue (option : Valued)
  | repeated (item : Item)
  | unknownBackend (value : String)
  | notPositive (option : Valued) (value : String)
  | missingOptions (missing used : List Item)
  deriving DecidableEq, Repr, Inhabited

namespace Complaint

/-- Whether the user asked for a text and gets it. -/
def isAnswer : Complaint → Bool
  | .help => true
  | .version => true
  | _ => false

/-- The first paragraph of the text. -/
def lead : Complaint → List String
  | .help => [Cli.help]
  | .version => [Cli.version]
  | .unknown argument => ["error: unexpected argument '" ++ emphasized argument ++ "' found"]
  | .unknownLong name _ =>
    ["error: unexpected argument '" ++ emphasized ("--" ++ name) ++ "' found"]
  | .unexpectedValue item value _ =>
    ["error: unexpected value '" ++ emphasized value ++ "' for '" ++ item.display ++
      "' found; no more were expected"]
  | .missingValue option =>
    let complaint :=
      "error: a value is required for '" ++ (Item.valued option).display
        ++ "' but none was supplied"
    if option = .backend then [complaint, "  " ++ possibleBackends] else [complaint]
  | .repeated item =>
    ["error: the argument '" ++ item.display ++ "' cannot be used multiple times"]
  | .unknownBackend value =>
    ["error: invalid value '" ++ emphasized value ++ "' for '"
      ++ (Item.valued .backend).display ++ "'",
      "  " ++ possibleBackends]
  | .notPositive option value =>
    ["error: invalid value '" ++ emphasized value ++ "' for '" ++ (Item.valued option).display ++
      "': '" ++ value ++ "' is not a positive integer"]
  | .missingOptions missing _ =>
    "error: the following required arguments were not provided:" ::
      missing.map fun i => "  " ++ i.display

/-- What the user may have meant. -/
def tip? : Complaint → Option String
  | .unknownLong name _ =>
    (Item.similarLong? name).map fun n => "  tip: a similar argument exists: '--" ++ n ++ "'"
  | .unknownBackend value =>
    (Text.mostSimilar? value (Backend.all.map Backend.name)).map fun n =>
      "  tip: a similar value exists: '" ++ n ++ "'"
  | _ => none

/-- The usage line that goes with the complaint. A long name that is taken for another counts as a
use of that one. -/
def usageLine? : Complaint → Option String
  | .unknown _ => some usage
  | .unknownLong name used =>
    let used := used ++ ((Item.similarLong? name).bind Item.ofLong?).toList
    some (if used = [] then usage else usageWith used)
  | .unexpectedValue item _ used => some (if used = [] then usageWith [item] else usageAmong item)
  | .repeated _ => some usage
  | .missingOptions _ used => some (usageWith used)
  | _ => none

/-- The lines of the whole text. -/
def lines (c : Complaint) : List String :=
  let more := "For more information, try '" ++ emphasized "--help" ++ "'."
  let paragraphs := c.tip?.toList ++ c.usageLine?.toList ++ [more]
  c.lead ++ paragraphs.flatMap fun line => ["", line]

/-- The whole text as it is written for a terminal. -/
def written (c : Complaint) : String :=
  match c with
  | .help => Cli.help
  | .version => Cli.version
  | _ => String.join (c.lines.map (· ++ "\n"))

def text (c : Complaint) : String :=
  Text.Terminal.printed c.written

/-- The text as characters, unless what the user wrote breaks one. -/
def text? (c : Complaint) : Except PanicCause String :=
  match Text.Terminal.shown? c.written with
  | some s => .ok s
  | none => .error .brokenCharacter

end Complaint

end Sluice.Cli
