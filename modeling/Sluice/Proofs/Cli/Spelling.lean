import Mathlib.Data.List.Induction
import Sluice.Cli.Reader

/-!
# What a command line spells

A list of arguments spells a list of uses of options (`Spells`): an option may have its value
attached or in the next argument, and single letters may stand together. There is at most one way to
read it (`Spells.unique`).

The reader keeps an option open until the next one begins, and judges its value only then. What it
accepts is the same as if every use were entered at once: the uses that are spelled, taken one after
the other (`reads_iff`).
-/

namespace Sluice

/-! ## Steps that may fail -/

section

variable {ε α β : Type} {x : Except ε α} {f : α → Except ε β} {a b : α} {c : β} {e : ε}

theorem pure_eq_ok_iff : (pure a : Except ε α) = .ok b ↔ b = a := by
  constructor
  · intro h
    cases h
    rfl
  · rintro rfl
    rfl

theorem pure_ne_error : ¬ (pure a : Except ε α) = .error e :=
  nofun

theorem bind_eq_ok_iff : (x >>= f) = .ok c ↔ ∃ a, x = .ok a ∧ f a = .ok c := by
  cases x with
  | error e =>
    constructor
    · intro h
      cases h
    · rintro ⟨a, ha, -⟩
      cases ha
  | ok a =>
    constructor
    · intro h
      exact ⟨a, rfl, h⟩
    · rintro ⟨_, ha, h⟩
      cases ha
      exact h

theorem bind_eq_error_iff :
    (x >>= f) = .error e ↔ x = .error e ∨ ∃ a, x = .ok a ∧ f a = .error e := by
  cases x with
  | error e' =>
    constructor
    · intro h
      cases h
      exact Or.inl rfl
    · rintro (h | ⟨a, ha, -⟩)
      · cases h
        rfl
      · cases ha
  | ok a =>
    constructor
    · intro h
      exact Or.inr ⟨a, rfl, h⟩
    · rintro (h | ⟨_, ha, h⟩)
      · cases h
      · cases ha
        exact h

end

namespace Cli

inductive Use where
  | value (option : Valued) (text : String)
  | flag (s : Switch)
  deriving DecidableEq

namespace Use

def item : Use → Item
  | .value option _ => .valued option
  | .flag s => .switch s

end Use

/-! ## Spelling -/

/-- Letters in one argument: switches, and at the end perhaps an option with a value. If the value
is not attached, that option is left waiting for it. -/
inductive Letters : List Char → List Use → Option Valued → Prop
  | nil : Letters [] [] none
  | switch {c : Char} {s : Switch} {rest : List Char} {uses : List Use} {waiting : Option Valued}
      (hc : Item.ofShort? c = some (.switch s)) (hrest : Letters rest uses waiting) :
      Letters (c :: rest) (.flag s :: uses) waiting
  | attached {c : Char} {option : Valued} {rest : List Char} {text : String}
      (hc : Item.ofShort? c = some (.valued option)) (hrest : attached rest = some text) :
      Letters (c :: rest) [.value option text] none
  | waiting {c : Char} {option : Valued} (hc : Item.ofShort? c = some (.valued option)) :
      Letters [c] [] (some option)

/-- An argument that is no value: the uses it spells, and the option that it leaves waiting. A long
name may carry its value behind a sign of equality, and letters may carry it behind the last of
them. -/
inductive Opens : String → List Use → Option Valued → Prop
  | switch {argument name : String} {s : Switch} (h : Shape.of argument = .long name none)
      (hname : Item.ofLong? name = some (.switch s)) : Opens argument [.flag s] none
  | attached {argument name text : String} {option : Valued}
      (h : Shape.of argument = .long name (some text))
      (hname : Item.ofLong? name = some (.valued option)) : Opens argument [.value option text] none
  | waiting {argument name : String} {option : Valued} (h : Shape.of argument = .long name none)
      (hname : Item.ofLong? name = some (.valued option)) : Opens argument [] (some option)
  | letters {argument : String} {cs : List Char} {uses : List Use} {waiting : Option Valued}
      (h : Shape.of argument = .letters cs) (hcs : Letters cs uses waiting) :
      Opens argument uses waiting

/-- What arguments spell when this option waits for its value. It takes the next argument if that is
not written like an option, and nothing else can come in its place. An escape may only come last,
because there are no arguments but those of options. -/
inductive Spells : Option Valued → List String → List Use → Prop
  | nil : Spells none [] []
  | escape {argument : String} (h : Shape.of argument = .escape) : Spells none [argument] []
  | value {option : Valued} {argument text : String} {rest : List String} {uses : List Use}
      (h : Shape.of argument = .plain text) (hrest : Spells none rest uses) :
      Spells (some option) (argument :: rest) (.value option text :: uses)
  | option {argument : String} {rest : List String} {uses more : List Use} {waiting : Option Valued}
      (h : Opens argument uses waiting) (hrest : Spells waiting rest more) :
      Spells none (argument :: rest) (uses ++ more)

/-! ## Reading what is spelled -/

variable {arguments rest : List String} {argument name : String} {value : Option String}
  {uses more : List Use} {left : Option Valued} {d d' : Draft} {p q : Progress} {cs : List Char}

namespace Draft

def take (d : Draft) : Use → Except Complaint Draft
  | .value option text => d.give option text
  | .flag s => d.turnOn s

def takeAll (d : Draft) (uses : List Use) : Except Complaint Draft :=
  uses.foldlM take d

theorem takeAll_append_eq_ok_iff :
    d.takeAll (uses ++ more) = .ok d' ↔ ∃ d₁, d.takeAll uses = .ok d₁
      ∧ d₁.takeAll more = .ok d' := by
  rw [takeAll, List.foldlM_append, bind_eq_ok_iff]
  exact Iff.rfl

theorem takeAll_singleton (d : Draft) (u : Use) : d.takeAll [u] = d.take u := by
  rw [takeAll, List.foldlM_cons]
  cases d.take u <;> rfl

theorem takeAll_cons_eq_ok_iff {u : Use} :
    d.takeAll (u :: uses) = .ok d' ↔ ∃ d₁, d.take u = .ok d₁ ∧ d₁.takeAll uses = .ok d' := by
  rw [takeAll, List.foldlM_cons, bind_eq_ok_iff]
  exact Iff.rfl

end Draft

namespace Opened

/-- The use that an open option is as soon as it has its value. -/
def owed : Option Opened → List Use
  | some ⟨option, some text⟩ => [.value option text]
  | _ => []

def waits : Option Opened → Option Valued
  | some ⟨option, none⟩ => some option
  | _ => none

def waiting (option : Option Valued) : Option Opened :=
  option.map (⟨·, none⟩)

@[simp] theorem owed_waiting (option : Option Valued) : owed (waiting option) = [] := by
  cases option <;> rfl

@[simp] theorem waits_waiting (option : Option Valued) : waits (waiting option) = option := by
  cases option <;> rfl

theorem waits_eq_some_iff {o : Option Opened} {option : Valued} :
    waits o = some option ↔ o = some ⟨option, none⟩ := by
  rcases o with _ | ⟨option', _ | text⟩ <;> simp [waits]

end Opened

open Opened

theorem settle_eq_ok_iff {o : Option Opened} :
    d.settle o = .ok d' ↔ waits o = none ∧ d.takeAll (owed o) = .ok d' := by
  rcases o with _ | ⟨option, _ | text⟩
  · constructor
    · intro h
      exact ⟨rfl, h⟩
    · exact And.right
  · constructor
    · intro h
      cases h
    · rintro ⟨h, -⟩
      cases h
  · have htake : d.takeAll (owed (some ⟨option, some text⟩))
        = d.settle (some ⟨option, some text⟩) :=
      Draft.takeAll_singleton ..
    rw [htake]
    exact ⟨fun h => ⟨rfl, h⟩, And.right⟩

/-! ### One argument -/

theorem attached_eq_none_iff : attached cs = none ↔ cs = [] := by
  constructor
  · intro h
    unfold attached at h
    split at h
    · rfl
    · cases h
    · cases h
  · rintro rfl
    rfl

/-- After the open option is settled, the draft takes these uses, and an option may be left
waiting. -/
def Takes (p : Progress) (uses : List Use) (left : Option Valued) (q : Progress) : Prop :=
  ∃ d d', p.1.settle p.2 = .ok d ∧ d.takeAll uses = .ok d' ∧ q = (d', waiting left)

theorem takes_waiting {option : Valued} :
    Takes p [] (some option) q ↔ ∃ d, p.1.settle p.2 = .ok d ∧ q = (d, some ⟨option, none⟩) := by
  constructor
  · rintro ⟨d, d', hsettle, htake, rfl⟩
    cases htake
    exact ⟨d, hsettle, rfl⟩
  · rintro ⟨d, hsettle, rfl⟩
    exact ⟨d, d, hsettle, rfl, rfl⟩

theorem takes_one {u : Use} :
    Takes p [u] none q ↔ ∃ d d', p.1.settle p.2 = .ok d ∧ d.take u = .ok d' ∧ q = (d', none) := by
  simp only [Takes, Draft.takeAll_singleton]
  exact Iff.rfl

theorem readLong_eq_ok_iff (h : Shape.of argument = .long name value) :
    readLong p name value = .ok q ↔ ∃ uses left, Opens argument uses left
      ∧ Takes p uses left q := by
  constructor
  · intro hread
    unfold readLong at hread
    split at hread
    case h_1 => cases hread
    case h_2 option text hname =>
      simp only [bind_eq_ok_iff, pure_eq_ok_iff] at hread
      obtain ⟨d, hsettle, d', hgive, rfl⟩ := hread
      exact ⟨_, _, .attached h hname, takes_one.mpr ⟨d, d', hsettle, hgive, rfl⟩⟩
    case h_3 option hname =>
      simp only [bind_eq_ok_iff, pure_eq_ok_iff] at hread
      exact ⟨_, _, .waiting h hname, takes_waiting.mpr hread⟩
    case h_4 => cases hread
    case h_5 s hname =>
      simp only [bind_eq_ok_iff, pure_eq_ok_iff] at hread
      obtain ⟨d, hsettle, d', hturn, rfl⟩ := hread
      exact ⟨_, _, .switch h hname, takes_one.mpr ⟨d, d', hsettle, hturn, rfl⟩⟩
    case h_6 =>
      simp only [bind_eq_ok_iff] at hread
      obtain ⟨_, -, hread⟩ := hread
      cases hread
    case h_7 =>
      simp only [bind_eq_ok_iff] at hread
      obtain ⟨_, -, hread⟩ := hread
      cases hread
  · rintro ⟨uses, left, hopens, htakes⟩
    cases hopens with
    | switch h' hname =>
      cases h'.symm.trans h
      obtain ⟨d, d', hsettle, hturn, rfl⟩ := takes_one.mp htakes
      simp only [readLong, hname, bind_eq_ok_iff, pure_eq_ok_iff]
      exact ⟨d, hsettle, d', hturn, rfl⟩
    | attached h' hname =>
      cases h'.symm.trans h
      obtain ⟨d, d', hsettle, hgive, rfl⟩ := takes_one.mp htakes
      simp only [readLong, hname, bind_eq_ok_iff, pure_eq_ok_iff]
      exact ⟨d, hsettle, d', hgive, rfl⟩
    | waiting h' hname =>
      cases h'.symm.trans h
      simp only [readLong, hname, bind_eq_ok_iff, pure_eq_ok_iff]
      exact takes_waiting.mp htakes
    | letters h' => cases h'.symm.trans h

/-- Of letters the first settles what was open before, so that a row of letters can be read as if
nothing had been open. Without letters nothing would be settled. -/
theorem readLetters_cons_eq_ok_iff {c : Char} : readLetters p (c :: cs) = .ok q
    ↔ ∃ d, p.1.settle p.2 = .ok d ∧ readLetters (d, none) (c :: cs) = .ok q := by
  have hsettled (d : Draft) : d.settle none = .ok d := rfl
  simp only [readLetters]
  split
  case h_1 =>
    constructor
    · intro h
      cases h
    · rintro ⟨_, -, h⟩
      cases h
  all_goals
    simp only [bind_eq_ok_iff, hsettled, Except.ok.injEq, exists_eq_left', bind_eq_ok_iff]

theorem readLetters_settled_eq_ok_iff : readLetters (d, none) cs = .ok q
    ↔ ∃ uses left d', Letters cs uses left ∧ d.takeAll uses = .ok d' ∧ q = (d', waiting left) := by
  induction cs generalizing d with
  | nil =>
    constructor
    · intro h
      cases h
      exact ⟨[], none, d, .nil, rfl, rfl⟩
    · rintro ⟨uses, left, d', hletters, htake, rfl⟩
      cases hletters
      cases htake
      rfl
  | cons c rest ih =>
    have hsettled : d.settle none = .ok d := rfl
    constructor
    · intro h
      simp only [readLetters] at h
      split at h
      case h_1 => cases h
      case h_2 option hc =>
        simp only [bind_eq_ok_iff, hsettled, Except.ok.injEq, exists_eq_left'] at h
        split at h
        case h_1 text hattached =>
          simp only [bind_eq_ok_iff, pure_eq_ok_iff] at h
          obtain ⟨d', hgive, rfl⟩ := h
          exact ⟨_, _, d', .attached hc hattached, (Draft.takeAll_singleton ..).trans hgive, rfl⟩
        case h_2 hnone =>
          obtain rfl := pure_eq_ok_iff.mp h
          obtain rfl := attached_eq_none_iff.mp hnone
          exact ⟨_, _, d, .waiting hc, rfl, rfl⟩
      case h_3 s hc =>
        simp only [bind_eq_ok_iff, hsettled, Except.ok.injEq, exists_eq_left'] at h
        obtain ⟨d₁, hturn, h⟩ := h
        obtain ⟨uses, left, d', hletters, htake, rfl⟩ := ih.mp h
        exact ⟨_, left, d', .switch hc hletters,
          Draft.takeAll_cons_eq_ok_iff.mpr ⟨d₁, hturn, htake⟩, rfl⟩
      all_goals
        obtain ⟨_, -, h⟩ := bind_eq_ok_iff.mp h
        cases h
    · rintro ⟨uses, left, d', hletters, htake, rfl⟩
      cases hletters with
      | switch hc hrest =>
        obtain ⟨d₁, hturn, htake⟩ := Draft.takeAll_cons_eq_ok_iff.mp htake
        simp only [readLetters, hc, bind_eq_ok_iff]
        exact ⟨d, rfl, d₁, hturn, ih.mpr ⟨_, _, d', hrest, htake, rfl⟩⟩
      | attached hc hrest =>
        rw [Draft.takeAll_singleton] at htake
        simp only [readLetters, hc, hrest, bind_eq_ok_iff, pure_eq_ok_iff]
        exact ⟨d, rfl, d', htake, rfl⟩
      | waiting hc =>
        cases htake
        simp only [readLetters, hc, bind_eq_ok_iff]
        exact ⟨d, rfl, rfl⟩

theorem Shape.letters_ne_nil (h : Shape.of argument = .letters cs) : cs ≠ [] := by
  rintro rfl
  unfold Shape.of at h
  split at h
  · cases h
  · dsimp only at h
    split at h <;> cases h
  · cases h
  · next hdash _ =>
    cases h
    exact hdash rfl
  · cases h

theorem readLetters_eq_ok_iff (h : Shape.of argument = .letters cs) :
    readLetters p cs = .ok q ↔ ∃ uses left, Opens argument uses left ∧ Takes p uses left q := by
  obtain ⟨c, rest, rfl⟩ := List.exists_cons_of_ne_nil (Shape.letters_ne_nil h)
  rw [readLetters_cons_eq_ok_iff]
  simp only [readLetters_settled_eq_ok_iff]
  constructor
  · rintro ⟨d, hsettle, uses, left, d', hletters, htake, rfl⟩
    exact ⟨uses, left, .letters h hletters, d, d', hsettle, htake, rfl⟩
  · rintro ⟨uses, left, hopens, d, d', hsettle, htake, rfl⟩
    cases hopens with
    | letters h' hletters =>
      cases h'.symm.trans h
      exact ⟨d, hsettle, uses, left, d', hletters, htake, rfl⟩
    | switch h' | attached h' | waiting h' => cases h'.symm.trans h

/-! ### All arguments -/

def reads (p : Progress) (arguments : List String) : Except Complaint Draft := do
  let q ← readArguments p arguments
  q.1.settle q.2

theorem Opens.shape (h : Opens argument uses left) :
    (∃ name value, Shape.of argument = .long name value)
      ∨ ∃ cs, Shape.of argument = .letters cs := by
  cases h with
  | switch h | attached h | waiting h => exact Or.inl ⟨_, _, h⟩
  | letters h => exact Or.inr ⟨_, h⟩

theorem spells_option_iff (hescape : Shape.of argument ≠ .escape)
    (hplain : ∀ text, Shape.of argument ≠ .plain text) :
    Spells left (argument :: rest) uses ↔ left = none ∧ ∃ first left' more,
      Opens argument first left' ∧ Spells left' rest more ∧ uses = first ++ more := by
  constructor
  · intro h
    cases h with
    | escape h => exact absurd h hescape
    | value h => exact absurd h (hplain _)
    | option hopens hrest => exact ⟨rfl, _, _, _, hopens, hrest, rfl⟩
  · rintro ⟨rfl, first, left', more, hopens, hrest, rfl⟩
    exact .option hopens hrest

/-- Wherever the reader stands, it accepts these arguments exactly when they spell uses that can be
taken. -/
def Reads (arguments : List String) : Prop :=
  ∀ (p : Progress) (d' : Draft), reads p arguments = .ok d'
    ↔ ∃ uses, Spells (waits p.2) arguments uses ∧ p.1.takeAll (owed p.2 ++ uses) = .ok d'

/-- An argument that is no value is taken before the rest. Every shape of such an argument is an
instance; what differs is only the action `x` by which the reader enters it. -/
theorem reads_option (ih : Reads rest) {x : Except Complaint Progress}
    (hescape : Shape.of argument ≠ .escape) (hplain : ∀ text, Shape.of argument ≠ .plain text)
    (hread : readArguments p (argument :: rest) = x >>= (readArguments · rest))
    (hx : ∀ q, x = .ok q ↔ ∃ uses left, Opens argument uses left ∧ Takes p uses left q) :
    reads p (argument :: rest) = .ok d'
      ↔ ∃ uses, Spells (waits p.2) (argument :: rest) uses
        ∧ p.1.takeAll (owed p.2 ++ uses) = .ok d' := by
  have hreads : reads p (argument :: rest) = x >>= (reads · rest) := by
    rw [reads, hread, bind_assoc]
    rfl
  simp only [hreads, bind_eq_ok_iff, hx, spells_option_iff hescape hplain]
  constructor
  · rintro ⟨_, ⟨first, left, hopens, d₁, d, hsettle, htake, rfl⟩, hrest⟩
    obtain ⟨hwaits, howed⟩ := settle_eq_ok_iff.mp hsettle
    obtain ⟨more, hspells, hmore⟩ := (ih ..).mp hrest
    rw [waits_waiting] at hspells
    rw [owed_waiting, List.nil_append] at hmore
    refine ⟨first ++ more, ⟨hwaits, first, left, more, hopens, hspells, rfl⟩, ?_⟩
    simp only [Draft.takeAll_append_eq_ok_iff]
    exact ⟨d₁, howed, d, htake, hmore⟩
  · rintro ⟨_, ⟨hwaits, first, left, more, hopens, hspells, rfl⟩, hall⟩
    simp only [Draft.takeAll_append_eq_ok_iff] at hall
    obtain ⟨d₁, howed, d, htake, hmore⟩ := hall
    refine ⟨_, ⟨first, left, hopens, d₁, d, settle_eq_ok_iff.mpr ⟨hwaits, howed⟩, htake, rfl⟩,
      (ih ..).mpr ⟨more, ?_⟩⟩
    rw [waits_waiting, owed_waiting]
    exact ⟨hspells, hmore⟩

theorem readPlain_eq_ok_iff {text : String} : readPlain p text = .ok q
    ↔ ∃ option, p.2 = some ⟨option, none⟩ ∧ q = (p.1, some ⟨option, some text⟩) := by
  rcases p with ⟨d, _ | ⟨option, _ | value⟩⟩ <;> simp [readPlain, eq_comm]

/-- The reader accepts what can be spelled and taken. The induction is on the arguments, for every
option that may be open before the first. -/
theorem reads_iff (arguments : List String) : Reads arguments := by
  induction arguments with
  | nil =>
    intro p d'
    have hreads : reads p [] = p.1.settle p.2 := rfl
    rw [hreads, settle_eq_ok_iff]
    constructor
    · rintro ⟨hwaits, htake⟩
      rw [hwaits]
      exact ⟨[], .nil, by rwa [List.append_nil]⟩
    · rintro ⟨uses, hspells, htake⟩
      generalize waits p.2 = left at hspells
      cases hspells
      rw [List.append_nil] at htake
      exact ⟨rfl, htake⟩
  | cons argument rest ih =>
    intro p d'
    cases hshape : Shape.of argument with
    | escape =>
      have hlast : reads p (argument :: rest) = .ok d' ↔ rest = [] ∧ p.1.settle p.2 = .ok d' := by
        cases rest with
        | nil => simp [reads, readArguments, hshape, bind_eq_ok_iff]
        | cons next others => simp [reads, readArguments, hshape, bind_eq_ok_iff]
      rw [hlast, settle_eq_ok_iff]
      constructor
      · rintro ⟨rfl, hwaits, htake⟩
        rw [hwaits]
        exact ⟨[], .escape hshape, by rwa [List.append_nil]⟩
      · rintro ⟨uses, hspells, htake⟩
        generalize waits p.2 = left at hspells
        cases hspells with
        | escape =>
          rw [List.append_nil] at htake
          exact ⟨rfl, rfl, htake⟩
        | value h => cases hshape.symm.trans h
        | option hopens => rcases hopens.shape with ⟨_, _, h⟩ | ⟨_, h⟩ <;> cases hshape.symm.trans h
    | long name value =>
      have hread : readArguments p (argument :: rest)
          = readLong p name value >>= (readArguments · rest) := by
        simp only [readArguments, hshape]
      exact reads_option ih (by simp [hshape]) (by simp [hshape]) hread fun q =>
        readLong_eq_ok_iff hshape
    | letters cs =>
      have hread : readArguments p (argument :: rest)
          = readLetters p cs >>= (readArguments · rest) := by
        simp only [readArguments, hshape]
      exact reads_option ih (by simp [hshape]) (by simp [hshape]) hread fun q =>
        readLetters_eq_ok_iff hshape
    | plain text =>
      have hread : reads p (argument :: rest) = readPlain p text >>= (reads · rest) := by
        simp only [reads, readArguments, hshape, bind_assoc]
      simp only [hread, bind_eq_ok_iff, readPlain_eq_ok_iff]
      constructor
      · rintro ⟨_, ⟨option, hopen, rfl⟩, hrest⟩
        obtain ⟨uses, hspells, htake⟩ := (ih ..).mp hrest
        rw [hopen]
        exact ⟨.value option text :: uses, .value hshape hspells, htake⟩
      · rintro ⟨uses, hspells, htake⟩
        generalize hwaits : waits p.2 = left at hspells
        cases hspells with
        | escape h => cases hshape.symm.trans h
        | value h hrest =>
          cases hshape.symm.trans h
          have hopen := waits_eq_some_iff.mp hwaits
          rw [hopen] at htake
          exact ⟨_, ⟨_, hopen, rfl⟩, (ih ..).mpr ⟨_, hrest, htake⟩⟩
        | option hopens => rcases hopens.shape with ⟨_, _, h⟩ | ⟨_, h⟩ <;> cases hshape.symm.trans h

/-! ## One reading -/

theorem Letters.unique {uses' : List Use} {left' : Option Valued} (h : Letters cs uses left)
    (h' : Letters cs uses' left') : uses' = uses ∧ left' = left := by
  induction h generalizing uses' with
  | nil =>
    cases h'
    exact ⟨rfl, rfl⟩
  | switch hc hrest ih =>
    cases h' with
    | switch hc' hrest' =>
      cases hc.symm.trans hc'
      obtain ⟨rfl, rfl⟩ := ih hrest'
      exact ⟨rfl, rfl⟩
    | attached hc' | waiting hc' => cases hc.symm.trans hc'
  | attached hc hrest =>
    cases h' with
    | switch hc' => cases hc.symm.trans hc'
    | attached hc' hrest' =>
      cases hc.symm.trans hc'
      cases hrest.symm.trans hrest'
      exact ⟨rfl, rfl⟩
    | waiting => cases hrest
  | waiting hc =>
    cases h' with
    | switch hc' => cases hc.symm.trans hc'
    | attached hc' hrest' => cases hrest'
    | waiting hc' =>
      cases hc.symm.trans hc'
      exact ⟨rfl, rfl⟩

theorem Opens.unique {uses' : List Use} {left' : Option Valued} (h : Opens argument uses left)
    (h' : Opens argument uses' left') : uses' = uses ∧ left' = left := by
  cases h with
  | switch h hname =>
    cases h' with
    | switch h' hname' =>
      cases h.symm.trans h'
      cases hname.symm.trans hname'
      exact ⟨rfl, rfl⟩
    | waiting h' hname' =>
      cases h.symm.trans h'
      cases hname.symm.trans hname'
    | attached h' | letters h' => cases h.symm.trans h'
  | attached h hname =>
    cases h' with
    | attached h' hname' =>
      cases h.symm.trans h'
      cases hname.symm.trans hname'
      exact ⟨rfl, rfl⟩
    | switch h' | waiting h' | letters h' => cases h.symm.trans h'
  | waiting h hname =>
    cases h' with
    | waiting h' hname' =>
      cases h.symm.trans h'
      cases hname.symm.trans hname'
      exact ⟨rfl, rfl⟩
    | switch h' hname' =>
      cases h.symm.trans h'
      cases hname.symm.trans hname'
    | attached h' | letters h' => cases h.symm.trans h'
  | letters h hcs =>
    cases h' with
    | switch h' | attached h' | waiting h' => cases h.symm.trans h'
    | letters h' hcs' =>
      cases h.symm.trans h'
      exact hcs.unique hcs'

theorem Spells.unique {uses' : List Use} (h : Spells left arguments uses)
    (h' : Spells left arguments uses') :
    uses' = uses := by
  induction h generalizing uses' with
  | nil =>
    cases h'
    rfl
  | escape hescape =>
    cases h' with
    | escape => rfl
    | option hopens => rcases hopens.shape with ⟨_, _, h⟩ | ⟨_, h⟩ <;> cases hescape.symm.trans h
  | value hplain hrest ih =>
    cases h' with
    | value hplain' hrest' =>
      cases hplain.symm.trans hplain'
      rw [ih hrest']
  | option hopens hrest ih =>
    cases h' with
    | escape hescape => rcases hopens.shape with ⟨_, _, h⟩ | ⟨_, h⟩ <;> cases hescape.symm.trans h
    | option hopens' hrest' =>
      obtain ⟨rfl, rfl⟩ := hopens.unique hopens'
      rw [ih hrest']

end Cli

end Sluice
