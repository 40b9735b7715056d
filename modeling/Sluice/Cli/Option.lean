import Sluice.Readiness.Backend
import Sluice.Text.Likeness

/-!
# Options of the command line

The options that take a value, the switches that do not, and the two that only print something. Each
has one name that messages use for it.
-/

namespace Sluice.Cli

/-- An option with a value. -/
inductive Valued where
  | listen
  | remote
  | bufferSize
  | ioThreads
  | backend
  deriving DecidableEq, Repr, Inhabited

/-- An option without a value. -/
inductive Switch where
  | noDelay
  | pinThreads
  | verbose
  deriving DecidableEq, Repr, Inhabited

/-- Anything that has a name on the command line. -/
inductive Item where
  | valued (v : Valued)
  | switch (s : Switch)
  | help
  | version
  deriving DecidableEq, Repr, Inhabited

namespace Item

def ofShort? : Char → Option Item
  | 'l' => some (.valued .listen)
  | 'r' => some (.valued .remote)
  | 'b' => some (.valued .bufferSize)
  | 'n' => some (.switch .noDelay)
  | 't' => some (.valued .ioThreads)
  | 'p' => some (.switch .pinThreads)
  | 'v' => some (.switch .verbose)
  | 'h' => some .help
  | 'V' => some .version
  | _ => none

def longNames : List (String × Item) :=
  [("pin-threads", .switch .pinThreads), ("poller", .valued .backend),
    ("verbose", .switch .verbose), ("help", .help), ("version", .version)]

def ofLong? (name : String) : Option Item :=
  longNames.lookup name

/-- The long name most like a name that is none. -/
def similarLong? (name : String) : Option String :=
  Text.mostSimilar? name (longNames.map (·.1))

/-- The option as messages show it. -/
def display : Item → String
  | .valued .listen => "-l <HOST:PORT>"
  | .valued .remote => "-r <HOST:PORT>"
  | .valued .bufferSize => "-b <BYTES>"
  | .valued .ioThreads => "-t <THREADS>"
  | .valued .backend => "--poller <POLLER>"
  | .switch .noDelay => "-n"
  | .switch .pinThreads => "--pin-threads"
  | .switch .verbose => "--verbose"
  | .help => "--help"
  | .version => "--version"

end Item

/-! ## Texts -/

def programName : String := "relaygate"

def requiredOptions : List Item := [.valued .listen, .valued .remote]

def spaced (items : List Item) : String :=
  " ".intercalate (items.map Item.display)

/-- How to call the program, in one line. -/
def usage : String :=
  "Usage: " ++ programName ++ " [OPTIONS] " ++ spaced requiredOptions

/-- How to call the program with the options that were used, the required ones first. -/
def usageWith (used : List Item) : String :=
  "Usage: " ++ programName ++ " " ++ spaced (requiredOptions ++ used).eraseDups

/-- All options that say what to do, of which any may be used. -/
def options : List Item := [
  .valued .listen, .valued .remote, .valued .bufferSize, .switch .noDelay, .valued .ioThreads,
  .switch .pinThreads, .valued .backend, .switch .verbose]

/-- How to call the program with an option, when some of the others were used. -/
def usageAmong (item : Item) : String :=
  let asked := if options.contains item then "" else item.display ++ " "
  "Usage: " ++ programName ++ " " ++ asked ++ "<"
    ++ "|".intercalate (options.map Item.display) ++ ">"

def version : String := programName ++ " 0.1.0\n"

/-- The names a backend can be asked for by. -/
def possibleBackends : String :=
  "[possible values: " ++ ", ".intercalate (Backend.all.map Backend.name) ++ "]"

def help : String :=
  "\n".intercalate [
    "Relay TCP connections from local listen addresses to one remote endpoint",
    "",
    usage,
    "",
    "Options:",
    "  -l <HOST:PORT>         Local address to listen on (repeatable)",
    "  -r <HOST:PORT>         Remote address to relay to",
    "  -b <BYTES>             Staging buffer size per connection, in bytes [default: 16384]",
    "  -n                     Set TCP_NODELAY on client and remote sockets",
    "  -t <THREADS>           Number of I/O threads [default: 1]",
    "  -p, --pin-threads      Pin I/O threads to CPU cores",
    "      --poller <POLLER>  Readiness backend (defaults to the platform's native one) " ++
      possibleBackends,
    "  -v, --verbose          Log at debug level",
    "  -h, --help             Print help",
    "  -V, --version          Print version",
    ""]

end Sluice.Cli
