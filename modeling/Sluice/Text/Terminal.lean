/-!
# Text for terminals

Some characters steer a terminal instead of showing: control characters, and whole sequences that
begin with an escape character. What shows of a text is found by following the sequences. One reader
sees the text as it goes out byte by byte, and a foreign character inside a sequence is lost
(`printed`). Another one takes the text for whole characters, and such a character breaks it
(`shown?`). A text without anything to steer with shows as it is (`printed_eq_self`).
-/

namespace Sluice.Text.Terminal

/-- Where in a sequence a reader stands. -/
inductive State where
  /-- Outside of all sequences. -/
  | ground
  | escape
  | escapeIntermediate
  | controlEntry
  | controlParameter
  | controlIntermediate
  | controlIgnored
  | deviceEntry
  | deviceParameter
  | deviceIntermediate
  | deviceIgnored
  | deviceData
  /-- In a command to the system around the terminal. -/
  | command
  /-- In a string that nobody reads. -/
  | remark
  deriving DecidableEq, Repr, Inhabited

/-- What a character comes to. -/
inductive Effect where
  | print
  | execute
  | none
  deriving DecidableEq, Repr, Inhabited

namespace State

/-- A control character that neither begins nor ends a sequence everywhere. -/
def control (s : State) (code : Nat) : State × Effect :=
  match s with
  | .command => (if code = 0x07 then .ground else .command, .none)
  | .deviceEntry => (s, .none)
  | .deviceParameter => (s, .none)
  | .deviceIntermediate => (s, .none)
  | .deviceIgnored => (s, .none)
  | .deviceData => (s, .none)
  | .remark => (s, .none)
  | _ => (s, .execute)

/-- The state behind a graphic character. -/
def graphic (s : State) (c : Char) : State :=
  let code := c.toNat
  match s with
  | .ground => .ground
  | .escape =>
    if code < 0x30 then .escapeIntermediate
    else if c = '[' then .controlEntry
    else if c = ']' then .command
    else if c = 'P' then .deviceEntry
    else if c = 'X' ∨ c = '^' ∨ c = '_' then .remark
    else .ground
  | .escapeIntermediate => if code < 0x30 then s else .ground
  | .controlEntry =>
    if code < 0x30 then .controlIntermediate else if code < 0x40 then .controlParameter else .ground
  | .controlParameter =>
    if code < 0x30 then .controlIntermediate
    else if code < 0x3c then s
    else if code < 0x40 then .controlIgnored
    else .ground
  | .controlIntermediate =>
    if code < 0x30 then s else if code < 0x40 then .controlIgnored else .ground
  | .controlIgnored => if code < 0x40 then s else .ground
  | .deviceEntry =>
    if code < 0x30 then .deviceIntermediate else if code < 0x40 then .deviceParameter
      else .deviceData
  | .deviceParameter =>
    if code < 0x30 then .deviceIntermediate
    else if code < 0x3c then s
    else if code < 0x40 then .deviceIgnored
    else .deviceData
  | .deviceIntermediate => if code < 0x30 then s else if code < 0x40 then .deviceIgnored
      else .deviceData
  | .deviceIgnored => s
  | .deviceData => s
  | .command => s
  | .remark => s

/-- The step of a reader over a character of the basic set. -/
def step (s : State) (c : Char) : State × Effect :=
  if c = '\x1b' then (.escape, .none)
  else if c = '\x18' ∨ c = '\x1a' then (.ground, .execute)
  else if c < ' ' then s.control c.toNat
  else if c = '\x7f' then (s, .none)
  else (s.graphic c, if s = .ground then .print else .none)

/-- The state behind a foreign character inside a sequence. One of its bytes may be the end of a
string. -/
def foreign (s : State) (c : Char) : State :=
  let ends := s = .deviceIgnored ∨ s = .deviceData ∨ s = .remark
  if ends ∧ (String.utf8EncodeChar c).contains 0x9c then .ground else s

end State

/-- Control characters that move the place of writing show. -/
def isLayout (c : Char) : Bool :=
  c = '\t' || c = '\n' || c = '\x0c' || c = '\r'

/-- Whether a character with the given effect shows. -/
def shows (c : Char) : Effect → Bool
  | .print => true
  | .execute => isLayout c
  | .none => false

/-- Whether the character belongs to the basic set. -/
def isBasic (c : Char) : Bool :=
  c.toNat < 0x80

/-! ## The reader of bytes -/

/-- A reader of bytes. In a run of characters that show it does not look at its state. -/
structure Reader where
  state : State := .ground
  inRun : Bool := false
  deriving DecidableEq, Repr, Inhabited

def Reader.read (r : Reader) (c : Char) : Reader × Bool :=
  if isBasic c then
    if r.inRun && shows c (State.ground.step c).2 then (r, true)
    else
      let (state, effect) := r.state.step c
      ({ state, inRun := shows c effect }, shows c effect)
  else if r.inRun || r.state = .ground then ({ inRun := true }, true)
  else ({ state := r.state.foreign c }, false)

def Reader.printed (r : Reader) : List Char → List Char
  | [] => []
  | c :: s =>
    let (next, shown) := r.read c
    if shown then c :: next.printed s else next.printed s

/-- What shows of a text that goes out byte by byte. -/
def printed (s : String) : String :=
  String.ofList (Reader.printed {} s.toList)

/-! ## The reader of characters -/

/-- What shows of a text from a state on. A character that shows ends every sequence. -/
def State.shown? (state : State) : List Char → Option (List Char)
  | [] => some []
  | c :: s =>
    if isBasic c then
      let (next, effect) := state.step c
      if shows c effect then (State.shown? .ground s).map (c :: ·) else next.shown? s
    else if state = .ground then (State.shown? .ground s).map (c :: ·)
    else none

/-- What shows of a text, unless a sequence breaks a character. -/
def shown? (s : String) : Option String :=
  (State.ground.shown? s.toList).map String.ofList

/-! ## Emphasis -/

def boldMark : List Char := ['\x1b', '[', '1', 'm']

def plainMark : List Char := ['\x1b', '[', '0', 'm']

def emphasized (s : String) : String :=
  String.ofList (boldMark ++ s.toList ++ plainMark)

/-! ## Texts that show as they are -/

/-- Whether the character shows outside of sequences. -/
def isPlain (c : Char) : Bool :=
  !isBasic c || shows c (State.ground.step c).2

theorem read_of_isPlain {c : Char} {r : Reader} (h : isPlain c) (hr : r.state = .ground) :
    (r.read c).2 = true ∧ (r.read c).1.state = .ground := by
  obtain ⟨state, inRun⟩ := r
  subst hr
  by_cases hb : isBasic c
  · have hs : shows c (State.ground.step c).2 := by simpa [isPlain, hb] using h
    have hg : (State.ground.step c).1 = .ground := by
      unfold State.step at hs ⊢
      grind [shows, State.graphic, State.control]
    cases inRun <;> simp [Reader.read, hb, hs, hg]
  · simp [Reader.read, hb]

theorem printed_eq_of_isPlain {s : List Char} (h : ∀ c ∈ s, isPlain c) {r : Reader}
    (hr : r.state = .ground) : r.printed s = s := by
  induction s generalizing r with
  | nil => rfl
  | cons c s ih =>
    have hc := read_of_isPlain (h c (by simp)) hr
    simp only [Reader.printed, hc.1, if_true, ih (fun d hd => h d (by simp [hd])) hc.2]

theorem printed_eq_self {s : String} (h : ∀ c ∈ s.toList, isPlain c) : printed s = s := by
  rw [printed, printed_eq_of_isPlain h rfl, String.ofList_toList]

end Sluice.Text.Terminal
