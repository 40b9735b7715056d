import Sluice.Cli.Complaint
import Sluice.Settings
import Sluice.Text.Numeral

/-!
# Reading the command line

Arguments are read one by one. An option whose value is not attached to it stays open until the next
argument, and what was given for it is only judged when another option begins or the arguments end;
so a complaint about an argument that nobody knows comes before one about the value of an open
option. Single letters may be written together, and the last of them may take the rest as its value.
-/

namespace Sluice.Cli

structure Invocation where
  listen : List String
  remote : String
  bufferSize : Nat
  noDelay : Bool
  ioThreads : Nat
  pinThreads : Bool
  verbose : Bool
  backend : Option Backend
  deriving DecidableEq, Repr, Inhabited

namespace Invocation

/-- The settings that the command line asks for, if its addresses can be resolved where the system
knows these names. -/
def toSettingsIn (names : Directory) (i : Invocation) : Except RelayError Settings := do
  let (listen, remote) ← Settings.resolveEndpointsIn names i.listen i.remote
  let base : Settings := { listen, remote }
  return { base with
    bufferSize := i.bufferSize
    noDelay := i.noDelay
    ioThreads := i.ioThreads
    pinThreads := i.pinThreads
    backend := i.backend.getD base.backend }

/-- The settings that the command line asks for where no names are known. -/
def toSettings (i : Invocation) : Except RelayError Settings :=
  i.toSettingsIn .empty

end Invocation

/-! ## Shapes of arguments -/

/-- What an argument looks like. -/
inductive Shape where
  /-- Ends the options. -/
  | escape
  | long (name : String) (value : Option String)
  | letters (cs : List Char)
  | plain (s : String)
  deriving DecidableEq, Repr, Inhabited

def Shape.of (argument : String) : Shape :=
  match argument.toList with
  | ['-', '-'] => .escape
  | '-' :: '-' :: body =>
    let name := String.ofList (body.takeWhile (· != '='))
    match body.dropWhile (· != '=') with
    | _ :: value => .long name (some (String.ofList value))
    | [] => .long name none
  | ['-'] => .plain argument
  | '-' :: cs => .letters cs
  | _ => .plain argument

/-! ## Drafts -/

/-- What has been read so far; `used` lists the options in the order of their first use. -/
structure Draft where
  listen : List String := []
  remote : Option String := none
  bufferSize : Option Nat := none
  ioThreads : Option Nat := none
  backend : Option Backend := none
  noDelay : Bool := false
  pinThreads : Bool := false
  verbose : Bool := false
  used : List Item := []
  deriving DecidableEq, Repr, Inhabited

/-- An option that waits for its value, or for its value to be judged. -/
structure Opened where
  option : Valued
  value : Option String
  deriving DecidableEq, Repr, Inhabited

namespace Draft

def use (d : Draft) (i : Item) : Draft :=
  if d.used.contains i then d else { d with used := d.used ++ [i] }

/-- Whether the option may not be used again. -/
def refuses (d : Draft) (i : Item) : Bool :=
  d.used.contains i && i != .valued .listen

def positive (option : Valued) (value : String) : Except Complaint Nat :=
  match Numeral.positiveWord? value.toList with
  | some n => .ok n
  | none => .error (.notPositive option value)

def give (d : Draft) (option : Valued) (value : String) : Except Complaint Draft :=
  let item := Item.valued option
  if d.refuses item then .error (.repeated item)
  else
    let d := d.use item
    match option with
    | .listen => .ok { d with listen := d.listen ++ [value] }
    | .remote => .ok { d with remote := some value }
    | .bufferSize => (positive option value).map fun n => { d with bufferSize := some n }
    | .ioThreads => (positive option value).map fun n => { d with ioThreads := some n }
    | .backend =>
      match Backend.ofName? value with
      | some b => .ok { d with backend := some b }
      | none =>
        if value = "" then .error (.missingValue option) else .error (.unknownBackend value)

def turnOn (d : Draft) (s : Switch) : Except Complaint Draft :=
  let item := Item.switch s
  if d.refuses item then .error (.repeated item)
  else
    let d := d.use item
    match s with
    | .noDelay => .ok { d with noDelay := true }
    | .pinThreads => .ok { d with pinThreads := true }
    | .verbose => .ok { d with verbose := true }

/-- Enters what was given for the open option. -/
def settle (d : Draft) : Option Opened → Except Complaint Draft
  | none => .ok d
  | some ⟨option, none⟩ => .error (.missingValue option)
  | some ⟨option, some value⟩ => d.give option value

/-- The options used once the open one counts as well. It does so as soon as it has a value; a use
too many takes the option out. -/
def usedWith (d : Draft) : Option Opened → List Item
  | some ⟨option, some _⟩ =>
    let item := Item.valued option
    if d.refuses item then d.used.erase item else (d.use item).used
  | _ => d.used

/-- What the draft amounts to when nothing follows. -/
def finish (d : Draft) : Except Complaint Invocation :=
  match d.listen, d.remote with
  | _ :: _, some remote =>
    .ok {
      listen := d.listen
      remote
      bufferSize := d.bufferSize.getD ({} : Settings).bufferSize
      noDelay := d.noDelay
      ioThreads := d.ioThreads.getD ({} : Settings).ioThreads
      pinThreads := d.pinThreads
      verbose := d.verbose
      backend := d.backend }
  | _, _ =>
    .error (.missingOptions (requiredOptions.filter fun i => !d.used.contains i) d.used)

end Draft

/-! ## Reading -/

/-- A draft with the option that is open in it. -/
abbrev Progress := Draft × Option Opened

def readLong (p : Progress) (name : String) (value : Option String) : Except Complaint Progress :=
  match Item.ofLong? name, value with
  | none, _ => .error (.unknownLong name (p.1.usedWith p.2))
  | some (.valued v), some value => do
    let d ← p.1.settle p.2
    return (← d.give v value, none)
  | some (.valued v), none => do
    let d ← p.1.settle p.2
    return (d, some ⟨v, none⟩)
  | some item, some value => .error (.unexpectedValue item value p.1.used)
  | some (.switch s), none => do
    let d ← p.1.settle p.2
    return (← d.turnOn s, none)
  | some .help, none => do
    let _ ← p.1.settle p.2
    .error .help
  | some .version, none => do
    let _ ← p.1.settle p.2
    .error .version

/-- The value that is attached to a letter, if any is. -/
def attached : List Char → Option String
  | [] => none
  | '=' :: value => some (String.ofList value)
  | value => some (String.ofList value)

def readLetters (p : Progress) : List Char → Except Complaint Progress
  | [] => .ok p
  | c :: rest =>
    match Item.ofShort? c with
    | none => .error (.unknown (String.ofList ['-', c]))
    | some (.valued v) => do
      let d ← p.1.settle p.2
      match attached rest with
      | some value => return (← d.give v value, none)
      | none => return (d, some ⟨v, none⟩)
    | some (.switch s) => do
      let d ← p.1.settle p.2
      readLetters (← d.turnOn s, none) rest
    | some .help => do
      let _ ← p.1.settle p.2
      .error .help
    | some .version => do
      let _ ← p.1.settle p.2
      .error .version

/-- Reads an argument that is no option: the value of an open option that has none yet. -/
def readPlain (p : Progress) (s : String) : Except Complaint Progress :=
  match p with
  | (d, some ⟨option, none⟩) => .ok (d, some ⟨option, some s⟩)
  | _ => .error (.unknown s)

def readArguments (p : Progress) : List String → Except Complaint Progress
  | [] => .ok p
  | argument :: rest =>
    match Shape.of argument with
    | .escape =>
      match rest with
      | [] => .ok p
      | next :: _ => .error (.unknown next)
    | .long name value => do readArguments (← readLong p name value) rest
    | .letters cs => do readArguments (← readLetters p cs) rest
    | .plain s => do readArguments (← readPlain p s) rest

def parse (arguments : List String) : Except Complaint Invocation := do
  let (d, opened) ← readArguments ({}, none) arguments
  (← d.settle opened).finish

end Sluice.Cli
