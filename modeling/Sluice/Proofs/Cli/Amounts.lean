import Sluice.Proofs.Cli.Spelling
import Sluice.Proofs.Text.Numeral

/-!
# What uses of options amount to

What the uses of options amount to does not depend on how they were spelled (`Amounts`): every
listen address in order, exactly one remote address, and of everything else at most one use. The
reader enters the uses into a draft one by one; the draft it comes to is known from the uses
(`Draft.takeAll_eq_ok_iff`), and so is what the draft comes to (`amounts_iff`).

A command line asks for something exactly when it spells uses that amount to that
(`parse_eq_ok_iff`).
-/

namespace Sluice.Cli

variable {uses more : List Use} {u : Use} {d : Draft} {option : Valued} {s : Switch} {text : String}

def given (option : Valued) (uses : List Use) : List String :=
  uses.filterMap fun
    | .value o text => if o = option then some text else none
    | .flag _ => none

/-- The text is a positive number of 64 bits: decimal digits, after an optional plus sign. -/
def NumberText (text : String) (n : Nat) : Prop :=
  ∃ digits, (text.toList = digits ∨ text.toList = '+' :: digits) ∧ digits ≠ []
    ∧ (∀ c ∈ digits, c.isDigit = true)
    ∧ Nat.ofDigitChars 10 digits 0 = n ∧ 0 < n ∧ n < 2 ^ 64

def BackendText (text : String) (b : Option Backend) : Prop :=
  ∃ kind : Backend, text = kind.name ∧ b = some kind

def number? (text : String) : Option Nat :=
  Numeral.positiveWord? text.toList

theorem numberText_iff (text : String) (n : Nat) : NumberText text n ↔ number? text = some n := by
  have hword : 1 <<< 64 = 2 ^ 64 := rfl
  rw [number?, Numeral.positiveWord?, Option.filter_eq_some_iff, Numeral.unsigned?_eq_some_iff,
    decide_eq_true_eq, hword]
  constructor
  · rintro ⟨digits, htext, hne, hdigits, hvalue, hrange⟩
    exact ⟨⟨digits, htext, hne, hdigits, hvalue⟩, hrange⟩
  · rintro ⟨⟨digits, htext, hne, hdigits, hvalue⟩, hrange⟩
    exact ⟨digits, htext, hne, hdigits, hvalue, hrange⟩

theorem backendText_iff (text : String) (b : Option Backend) :
    BackendText text b ↔ (Backend.ofName? text).map some = some b := by
  rw [Option.map_eq_some_iff]
  constructor
  · rintro ⟨kind, rfl, rfl⟩
    exact ⟨kind, kind.ofName?_name, rfl⟩
  · rintro ⟨kind, hkind, rfl⟩
    have hname := List.find?_some hkind
    exact ⟨kind, (eq_of_beq hname).symm, rfl⟩

namespace Use

def Legible : Use → Prop
  | .value .bufferSize text | .value .ioThreads text => ∃ n, number? text = some n
  | .value .backend text => ∃ b, Backend.ofName? text = some b
  | _ => True

def Fresh (uses : List Use) (u : Use) : Prop :=
  u.item = .valued .listen ∨ u.item ∉ uses.map item

end Use

namespace Draft

/-- The draft of these uses, where the last one of an option counts. It is the closed form of the
fold over the uses, and grows by one use at a time (`take_tally`). -/
def tally (uses : List Use) : Draft where
  listen := given .listen uses
  remote := (given .remote uses).getLast?
  bufferSize := (given .bufferSize uses).getLast?.bind number?
  ioThreads := (given .ioThreads uses).getLast?.bind number?
  backend := (given .backend uses).getLast?.bind Backend.ofName?
  noDelay := uses.contains (.flag .noDelay)
  pinThreads := uses.contains (.flag .pinThreads)
  verbose := uses.contains (.flag .verbose)
  used := (uses.map Use.item).eraseDups

theorem refuses_tally : (tally uses).refuses u.item = true ↔ ¬ u.Fresh uses := by
  simp [refuses, tally, Use.Fresh, and_comm]

theorem use_eq (d : Draft) (i : Item) : d.use i = { d with used := (d.use i).used } := by
  unfold use
  split <;> rfl

theorem use_tally (uses : List Use) (u : Use) :
    (tally uses).use u.item = { tally uses with used := (tally (uses ++ [u])).used } := by
  rw [use_eq, mk.injEq]
  simp only [true_and]
  have hused : (tally (uses ++ [u])).used
      = (tally uses).used ++ ([u.item].removeAll (uses.map Use.item)).eraseDups := by
    simp only [tally, List.map_append, List.map_cons, List.map_nil, List.eraseDups_append]
  have hcontains : (tally uses).used.contains u.item = (uses.map Use.item).contains u.item := by
    rw [Bool.eq_iff_iff, List.contains_iff_mem, List.contains_iff_mem]
    exact List.mem_eraseDups
  rw [hused, use, hcontains]
  cases h : (uses.map Use.item).contains u.item with
  | true => simp [List.removeAll, -List.contains_map, -List.contains_eq_mem, h]
  | false =>
    simp [List.removeAll, List.eraseDups_cons, -List.contains_map, -List.contains_eq_mem, h]

theorem positive_of_some {n : Nat} (h : number? text = some n) (option : Valued) :
    positive option text = .ok n := by
  rw [number?] at h
  rw [positive, h]

theorem positive_of_none (h : number? text = none) (option : Valued) :
    positive option text = .error (.notPositive option text) := by
  rw [number?] at h
  rw [positive, h]

theorem take_tally :
    (tally uses).take u = .ok d ↔ u.Fresh uses ∧ u.Legible ∧ d = tally (uses ++ [u]) := by
  by_cases hfresh : u.Fresh uses
  · have hrefuses : (tally uses).refuses u.item = false := by
      rw [← Bool.not_eq_true, refuses_tally]
      exact not_not.mpr hfresh
    have huse := use_tally uses u
    cases u with
    | value option text =>
      simp only [Use.item] at hrefuses huse
      simp only [take, give, hrefuses, huse, hfresh, true_and]
      cases option with
      | listen | remote => simp [Use.Legible, tally, given, eq_comm]
      | bufferSize | ioThreads =>
        cases hread : number? text with
        | none => simp [Use.Legible, hread, positive_of_none hread, Except.map]
        | some n =>
          simp [Use.Legible, hread, positive_of_some hread, Except.map, tally, given, eq_comm]
      | backend =>
        cases hread : Backend.ofName? text with
        | none =>
          have hillegible : ¬ (Use.value .backend text).Legible := by simp [Use.Legible, hread]
          simp only [hillegible, false_and, iff_false]
          by_cases hempty : text = "" <;> simp [hempty]
        | some b => simp [Use.Legible, hread, tally, given, eq_comm]
    | flag s =>
      simp only [Use.item] at hrefuses huse
      simp only [take, turnOn, hrefuses, huse, hfresh, true_and]
      cases s with
      | noDelay | pinThreads | verbose => simp [Use.Legible, tally, given, eq_comm]
  · have hrefuses : (tally uses).refuses u.item = true := refuses_tally.mpr hfresh
    cases u with
    | value option text =>
      simp only [Use.item] at hrefuses
      simp [take, give, hrefuses, hfresh]
    | flag s =>
      simp only [Use.item] at hrefuses
      simp [take, turnOn, hrefuses, hfresh]

def OnceEach (uses : List Use) : Prop :=
  ∀ i, i ≠ .valued .listen → (uses.map Use.item).count i ≤ 1

theorem onceEach_append : OnceEach (uses ++ [u]) ↔ OnceEach uses ∧ u.Fresh uses := by
  have hcount (i : Item) : ((uses ++ [u]).map Use.item).count i
      = (uses.map Use.item).count i + if u.item = i then 1 else 0 := by
    simp [List.count_append, List.count_singleton]
  simp only [OnceEach, hcount, Use.Fresh, ← List.count_eq_zero]
  constructor
  · intro h
    refine ⟨fun i hi => Nat.le_of_add_right_le (h i hi), or_iff_not_imp_left.mpr fun hlisten => ?_⟩
    have honce := h u.item hlisten
    rw [if_pos rfl] at honce
    omega
  · rintro ⟨honce, hfresh⟩ i hi
    have hle := honce i hi
    split
    · next heq =>
      subst heq
      have hzero := hfresh.resolve_left hi
      omega
    · exact hle

/-- The draft of legible uses is accepted if none is one too many, and it is their tally. The uses
are taken from the last one back, so that what was used before is the tally of all the others. -/
theorem takeAll_eq_ok_iff :
    takeAll {} uses = .ok d ↔ (∀ u ∈ uses, u.Legible) ∧ OnceEach uses ∧ d = tally uses := by
  induction uses using List.reverseRecOn generalizing d with
  | nil =>
    have hnil : OnceEach [] := fun _ _ => Nat.zero_le _
    have htake : takeAll {} [] = .ok (tally []) := rfl
    rw [htake, Except.ok.injEq]
    constructor
    · rintro rfl
      exact ⟨nofun, hnil, rfl⟩
    · rintro ⟨-, -, rfl⟩
      rfl
  | append_singleton uses u ih =>
    simp only [takeAll_append_eq_ok_iff, takeAll_singleton, ih, onceEach_append,
      List.forall_mem_append, List.forall_mem_singleton]
    constructor
    · rintro ⟨_, ⟨hlegible, honce, rfl⟩, htake⟩
      obtain ⟨hfresh, hu, rfl⟩ := take_tally.mp htake
      exact ⟨⟨hlegible, hu⟩, ⟨honce, hfresh⟩, rfl⟩
    · rintro ⟨⟨hlegible, hu⟩, ⟨honce, hfresh⟩, rfl⟩
      exact ⟨_, ⟨hlegible, honce, rfl⟩, take_tally.mpr ⟨hfresh, hu, rfl⟩⟩

theorem finish_eq_ok_iff {i : Invocation} :
    d.finish = .ok i ↔ d.listen ≠ [] ∧ d.remote = some i.remote
    ∧ i.listen = d.listen ∧ i.bufferSize = d.bufferSize.getD 16384 ∧ i.noDelay = d.noDelay
    ∧ i.ioThreads = d.ioThreads.getD 1 ∧ i.pinThreads = d.pinThreads ∧ i.verbose = d.verbose
    ∧ i.backend = d.backend := by
  obtain ⟨listen, remote, bufferSize, noDelay, ioThreads, pinThreads, verbose, backend⟩ := i
  unfold finish
  split
  · next first others address hlisten hremote =>
    simp only [Except.ok.injEq, Invocation.mk.injEq, hlisten, hremote, Option.some.injEq]
    constructor
    · rintro ⟨rfl, rfl, rfl, rfl, rfl, rfl, rfl, rfl⟩
      exact ⟨nofun, rfl, rfl, rfl, rfl, rfl, rfl, rfl, rfl⟩
    · rintro ⟨-, rfl, rfl, rfl, rfl, rfl, rfl, rfl, rfl⟩
      exact ⟨rfl, rfl, rfl, rfl, rfl, rfl, rfl, rfl⟩
  · next hmissing =>
    constructor
    · intro h
      cases h
    · rintro ⟨hlisten, hremote, -⟩
      obtain ⟨first, others, hlisten⟩ := List.exists_cons_of_ne_nil hlisten
      exact absurd hremote (hmissing first others remote hlisten)

end Draft

/-! ## Amounts -/

/-- What the values given for an option come to: the default if there is none, and otherwise what
the only one stands for. Two values come to nothing. -/
inductive Asks {α : Type} (stands : String → α → Prop) (default : α) : List String → α → Prop
  | unset : Asks stands default [] default
  | set {text : String} {x : α} (h : stands text x) : Asks stands default [text] x

theorem asks_iff {α : Type} {stands : String → α → Prop} {read : String → Option α} {default x : α}
    {texts : List String} (hread : ∀ text x, stands text x ↔ read text = some x) :
    Asks stands default texts x ↔ texts.length ≤ 1 ∧ (∀ text ∈ texts, ∃ y, read text = some y)
      ∧ x = (texts.getLast?.bind read).getD default := by
  constructor
  · intro h
    cases h with
    | unset => exact ⟨Nat.zero_le 1, nofun, rfl⟩
    | set h => simp [(hread _ _).mp h]
  · rintro ⟨hlength, hreads, rfl⟩
    match texts with
    | [] => exact .unset
    | [text] =>
      obtain ⟨y, hy⟩ := hreads text (List.mem_singleton_self _)
      simpa [hy] using Asks.set ((hread _ _).mpr hy)

/-- What uses amount to, field by field, in terms of the values given and not of the draft in which
the reader collects them. -/
structure Amounts (uses : List Use) (i : Invocation) : Prop where
  listen : given .listen uses = i.listen
  listen_ne : i.listen ≠ []
  remote : given .remote uses = [i.remote]
  bufferSize : Asks NumberText 16384 (given .bufferSize uses) i.bufferSize
  ioThreads : Asks NumberText 1 (given .ioThreads uses) i.ioThreads
  backend : Asks BackendText none (given .backend uses) i.backend
  noDelay : uses.count (.flag .noDelay) = i.noDelay.toNat
  pinThreads : uses.count (.flag .pinThreads) = i.pinThreads.toNat
  verbose : uses.count (.flag .verbose) = i.verbose.toNat

theorem Asks.pos {default n : Nat} {texts : List String} (h : Asks NumberText default texts n)
    (hdefault : 0 < default) : 0 < n := by
  cases h with
  | unset => exact hdefault
  | set h =>
    obtain ⟨_, _, _, _, _, hpos, _⟩ := h
    exact hpos

theorem mem_given : text ∈ given option uses ↔ .value option text ∈ uses := by
  rw [given, List.mem_filterMap]
  constructor
  · rintro ⟨u, hu, hgiven⟩
    cases u with
    | value o t =>
      obtain ⟨rfl, htext⟩ := Option.ite_none_right_eq_some.mp hgiven
      cases htext
      exact hu
    | flag s => cases hgiven
  · intro h
    exact ⟨_, h, if_pos rfl⟩

theorem count_valued (uses : List Use) (option : Valued) :
    (uses.map Use.item).count (.valued option) = (given option uses).length := by
  induction uses with
  | nil => rfl
  | cons u uses ih =>
    rw [List.map_cons, List.count_cons, ih]
    cases u with
    | value o text => by_cases h : o = option <;> simp [given, Use.item, h]
    | flag s => simp [given, Use.item]

theorem count_switch (uses : List Use) (s : Switch) :
    (uses.map Use.item).count (.switch s) = uses.count (.flag s) := by
  induction uses with
  | nil => rfl
  | cons u uses ih =>
    rw [List.map_cons, List.count_cons, List.count_cons, ih]
    cases u <;> simp [Use.item]

theorem onceEach_iff : Draft.OnceEach uses
    ↔ (∀ option, option ≠ .listen → (given option uses).length ≤ 1)
      ∧ ∀ s, uses.count (.flag s) ≤ 1 := by
  have hanswer (i : Item) (h : ∀ u : Use, u.item ≠ i) : (uses.map Use.item).count i = 0 := by
    rw [List.count_eq_zero, List.mem_map]
    rintro ⟨u, -, hu⟩
    exact h u hu
  constructor
  · intro h
    refine ⟨fun option hoption => ?_, fun s => ?_⟩
    · rw [← count_valued]
      exact h _ (by simpa using hoption)
    · rw [← count_switch]
      exact h _ nofun
  · rintro ⟨hvalued, hswitch⟩ i hi
    cases i with
    | valued option =>
      rw [count_valued]
      exact hvalued option (by simpa using hi)
    | switch s =>
      rw [count_switch]
      exact hswitch s
    | help | version =>
      rw [hanswer _ fun u => by cases u <;> nofun]
      exact Nat.zero_le 1

theorem legible_iff :
    (∀ u ∈ uses, u.Legible) ↔ (∀ text ∈ given .bufferSize uses, ∃ n, number? text = some n)
    ∧ (∀ text ∈ given .ioThreads uses, ∃ n, number? text = some n)
    ∧ ∀ text ∈ given .backend uses, ∃ b, Backend.ofName? text = some b := by
  simp only [mem_given]
  constructor
  · intro h
    exact ⟨fun text => h (.value .bufferSize text), fun text => h (.value .ioThreads text),
      fun text => h (.value .backend text)⟩
  · rintro ⟨hbuffer, hthreads, hbackend⟩ u hu
    cases u with
    | value option text =>
      cases option with
      | listen | remote => trivial
      | bufferSize => exact hbuffer text hu
      | ioThreads => exact hthreads text hu
      | backend => exact hbackend text hu
    | flag s => trivial

theorem count_eq_toNat_iff {b : Bool} : uses.count (.flag s) = b.toNat
    ↔ uses.count (.flag s) ≤ 1 ∧ b = uses.contains (.flag s) := by
  have hcontains : uses.contains (.flag s) = true ↔ 0 < uses.count (.flag s) := by
    rw [List.contains_iff_mem, List.count_pos_iff]
  rw [eq_comm (a := b)]
  cases b with
  | false =>
    rw [← Bool.not_eq_true, hcontains, Bool.toNat_false]
    omega
  | true =>
    rw [hcontains, Bool.toNat_true]
    omega

theorem asks_backend_iff {b : Option Backend} {texts : List String} :
    Asks BackendText none texts b ↔ texts.length ≤ 1
      ∧ (∀ text ∈ texts, ∃ kind, Backend.ofName? text = some kind)
      ∧ b = texts.getLast?.bind Backend.ofName? := by
  have hlast : (texts.getLast?.bind fun text => (Backend.ofName? text).map some).getD none
      = texts.getLast?.bind Backend.ofName? := by
    cases texts.getLast? with
    | none => rfl
    | some text => cases h : Backend.ofName? text <;> simp [h]
  have hread (text : String) : (∃ y, (Backend.ofName? text).map some = some y)
      ↔ ∃ kind, Backend.ofName? text = some kind := by
    cases Backend.ofName? text <;> simp
  simp only [asks_iff backendText_iff, hlast, hread]

/-- The draft of the uses comes to what they amount to. Apart from the addresses, of which there has
to be one on either side, all that is not asked for has its default. -/
theorem amounts_iff {i : Invocation} : Amounts uses i
    ↔ ∃ d, Draft.takeAll {} uses = .ok d ∧ d.finish = .ok i := by
  simp only [Draft.takeAll_eq_ok_iff, Draft.finish_eq_ok_iff, onceEach_iff, legible_iff]
  constructor
  · intro h
    obtain ⟨hbuffer, hlegibleBuffer, hbufferSize⟩ := (asks_iff numberText_iff).mp h.bufferSize
    obtain ⟨hthreads, hlegibleThreads, hioThreads⟩ := (asks_iff numberText_iff).mp h.ioThreads
    obtain ⟨hpoller, hlegibleBackend, hbackend⟩ := asks_backend_iff.mp h.backend
    obtain ⟨hn, hnoDelay⟩ := count_eq_toNat_iff.mp h.noDelay
    obtain ⟨hp, hpinThreads⟩ := count_eq_toNat_iff.mp h.pinThreads
    obtain ⟨hv, hverbose⟩ := count_eq_toNat_iff.mp h.verbose
    have hvalued : ∀ option, option ≠ .listen → (given option uses).length ≤ 1 := by
      intro option hoption
      cases option with
      | listen => exact absurd rfl hoption
      | remote => rw [h.remote]; exact Nat.le_refl 1
      | bufferSize => exact hbuffer
      | ioThreads => exact hthreads
      | backend => exact hpoller
    have hswitch : ∀ s, uses.count (.flag s) ≤ 1 := by
      intro s
      cases s <;> assumption
    have hremote : (given .remote uses).getLast? = some i.remote := by
      rw [h.remote]
      rfl
    have hlisten : given .listen uses ≠ [] := by
      rw [h.listen]
      exact h.listen_ne
    exact ⟨Draft.tally uses,
      ⟨⟨hlegibleBuffer, hlegibleThreads, hlegibleBackend⟩, ⟨hvalued, hswitch⟩, rfl⟩, hlisten,
      hremote, h.listen.symm, hbufferSize, hnoDelay, hioThreads, hpinThreads, hverbose, hbackend⟩
  · rintro ⟨_,
      ⟨⟨hlegibleBuffer, hlegibleThreads, hlegibleBackend⟩, ⟨hvalued, hswitch⟩, rfl⟩, hfinish⟩
    obtain ⟨hne, hremote, hlisten, hbufferSize, hnoDelay, hioThreads, hpinThreads, hverbose,
        hbackend⟩ := hfinish
    exact {
      listen := hlisten.symm
      listen_ne := by rw [hlisten]; exact hne
      remote := by
        obtain ⟨before, hlast⟩ := List.getLast?_eq_some_iff.mp hremote
        have hlength := hvalued .remote (by decide)
        rw [hlast, List.length_append] at hlength
        obtain rfl : before = [] :=
          List.eq_nil_of_length_eq_zero (Nat.le_zero.mp (Nat.le_of_succ_le_succ hlength))
        exact hlast
      bufferSize :=
        (asks_iff numberText_iff).mpr ⟨hvalued .bufferSize (by decide), hlegibleBuffer, hbufferSize⟩
      ioThreads :=
        (asks_iff numberText_iff).mpr ⟨hvalued .ioThreads (by decide), hlegibleThreads, hioThreads⟩
      backend := asks_backend_iff.mpr ⟨hvalued .backend (by decide), hlegibleBackend, hbackend⟩
      noDelay := count_eq_toNat_iff.mpr ⟨hswitch .noDelay, hnoDelay⟩
      pinThreads := count_eq_toNat_iff.mpr ⟨hswitch .pinThreads, hpinThreads⟩
      verbose := count_eq_toNat_iff.mpr ⟨hswitch .verbose, hverbose⟩ }

/-- A command line asks for something exactly when it spells uses that amount to that. Nothing in it
is about the order in which the reader looks at the arguments, and every refusal is on the other
side. -/
theorem parse_eq_ok_iff {arguments : List String} {i : Invocation} :
    parse arguments = .ok i ↔ ∃ uses, Spells none arguments uses ∧ Amounts uses i := by
  have hparse : parse arguments = reads ({}, none) arguments >>= Draft.finish := by
    rw [reads, bind_assoc]
    rfl
  simp only [hparse, bind_eq_ok_iff, reads_iff arguments ({}, none), amounts_iff]
  constructor
  · rintro ⟨d, ⟨uses, hspells, htake⟩, hfinish⟩
    exact ⟨uses, hspells, d, htake, hfinish⟩
  · rintro ⟨uses, hspells, d, htake, hfinish⟩
    exact ⟨d, ⟨uses, hspells, htake⟩, hfinish⟩

end Sluice.Cli
