import Mathlib.Data.List.Forall2
import Sluice.Proofs.Store.Registrations

/-!
# The backends agree

Whoever holds a poller makes calls on it (`Call`) and gets replies (`Reply`). The replies are those
of a finite map from descriptors to tokens and interests (`Roster`), whichever backend is at work:
the poller stands for the map (`Poller.Stands`), one call keeps it so and is answered alike
(`Stands.perform`), and hence so does a run of calls (`Stands.replies`).

The system may change its mind about a descriptor between two calls, as long as what is registered
or named stays open (`Roster.Open`). A plain file is not open in this sense: the two backends differ
there.
-/

namespace Sluice

open Keyed

inductive Call where
  | add (fd : Descriptor) (token : Token) (i : Interest)
  | update (fd : Descriptor) (token : Token) (i : Interest)
  | remove (fd : Descriptor)
  | wait

def Call.fd? : Call → Option Descriptor
  | .add fd _ _ => some fd
  | .update fd _ _ => some fd
  | .remove fd => some fd
  | .wait => none

inductive Reply where
  | done
  | refused (e : PollError)
  /-- Nothing is registered. -/
  | idle
  | found (events : List Event)

/-- The same reply, but for the order of the events in it. -/
inductive Reply.Alike : Reply → Reply → Prop
  | rfl (r : Reply) : Alike r r
  | found {events events' : List Event} (h : events.Perm events') :
      Alike (.found events) (.found events')

theorem Reply.Alike.symm {r r' : Reply} (h : r.Alike r') : r'.Alike r := by
  cases h with
  | rfl => exact .rfl r
  | found h => exact .found h.symm

theorem Reply.Alike.trans {r r' r'' : Reply} (h : r.Alike r') (h' : r'.Alike r'') :
    r.Alike r'' := by
  cases h with
  | rfl => exact h'
  | found h =>
    cases h' with
    | rfl => exact .found h
    | found h' => exact .found (h.trans h')

/-- The replies to a run of calls, each with what is there after it. Every call comes with the
system as it is then. -/
def replies {S : Type} (perform : S → SystemView → Call → Reply × S) (s : S) :
    List (SystemView × Call) → List (Reply × S)
  | [] => []
  | (view, c) :: rest => perform s view c :: replies perform (perform s view c).2 rest

/-! ## Calls on a poller -/

namespace Poller

def settle (p : Poller) : Except PollError Poller → Reply × Poller
  | .ok q => (.done, q)
  | .error e => (.refused e, p)

def perform (p : Poller) (view : SystemView) : Call → Reply × Poller
  | .add fd token i => p.settle (p.add view fd token i)
  | .update fd token i => p.settle (p.update view fd token i)
  | .remove fd => p.settle (p.remove view fd)
  | .wait =>
    match p.wait view with
    | .ok (none, q) => (.idle, q)
    | .ok (some ready, q) => (.found ready.events, q)
    | .error e => (.refused e, p)

end Poller

/-! ## Calls on a finite map -/

/-- A finite map from descriptors to the token and the interest registered for them. It is the
specification of both backends: no lists to hand to the system, and no order but that of the
numbers. -/
structure Roster where
  table : Table (Token × Interest) := .empty

namespace Roster

def get? (m : Roster) (fd : Descriptor) : Option (Token × Interest) :=
  m.table.get? fd

def size (m : Roster) : Nat :=
  m.table.size

def registrations (m : Roster) : List Registration :=
  m.table.entries.map fun x => ⟨x.1, x.2.1, x.2.2⟩

def due (view : SystemView) (m : Registration) : Option Event :=
  match view.status m.fd with
  | .live c => c.event? m.token m.interest
  | _ => none

/-- A call changes the map at its descriptor or, where it is refused, nowhere. Whether it is refused
is known from the map alone, and a wait reports all that is due. -/
def perform (m : Roster) (view : SystemView) : Call → Reply × Roster
  | .add fd token i =>
    if (m.get? fd).isSome then (.refused (.alreadyRegistered fd), m)
    else (.done, ⟨m.table.insert fd (token, i)⟩)
  | .update fd token i =>
    if (m.get? fd).isSome then (.done, ⟨m.table.insert fd (token, i)⟩)
    else (.refused (.notRegistered fd), m)
  | .remove fd =>
    if (m.get? fd).isSome then (.done, ⟨m.table.erase fd⟩)
    else (.refused (.notRegistered fd), m)
  | .wait =>
    if m.size = 0 then (.idle, m)
    else (.found (m.registrations.filterMap (due view)), m)

/-- The descriptors that are registered or named are open, and the system does not refuse a wait.
Without this the backends do differ: one of them asks the system at once, and the other one does
not. -/
structure Attended (m : Roster) (view : SystemView) (c : Call) : Prop where
  registered : ∀ fd, m.get? fd ≠ none → ∃ k, view.status fd = .live k
  named : ∀ fd, c.fd? = some fd → ∃ k, view.status fd = .live k
  allowed : c = .wait → view.exhausted = false

def Open (m : Roster) : List (SystemView × Call) → Prop
  | [] => True
  | (view, c) :: rest => m.Attended view c ∧ (m.perform view c).2.Open rest

variable {m : Roster} {r : Registration}

theorem mem_registrations : r ∈ m.registrations ↔ m.get? r.fd = some (r.token, r.interest) := by
  obtain ⟨⟨entries, hasc⟩⟩ := m
  have hnodup : (entries.map (·.1)).Nodup :=
    (List.pairwise_map.mpr hasc).imp fun h => Int.ne_of_lt h
  have hlook (fd : Int) : Table.find? fd entries = (lookUp (·.1) fd entries).map (·.2) := by
    clear hasc hnodup
    induction entries with
    | nil => rfl
    | cons x rest ih =>
      obtain ⟨fd', v⟩ := x
      rw [Table.find?, lookUp_cons, ih]
      by_cases h : fd = fd'
      · rw [if_pos h, if_pos h.symm]; rfl
      · rw [if_neg h, if_neg (Ne.symm h)]
  rw [get?, Table.get?, hlook, Option.map_eq_some_iff, registrations, List.mem_map]
  constructor
  · rintro ⟨x, hx, rfl⟩
    exact ⟨x, (lookUp_eq_some_iff hnodup).mpr ⟨hx, rfl⟩, rfl⟩
  · rintro ⟨x, hx, heq⟩
    obtain ⟨hmem, hkey⟩ := key_of_lookUp hx
    refine ⟨x, hmem, ?_⟩
    rw [hkey, heq]

theorem nodup_registrations (m : Roster) : (m.registrations.map (·.fd)).Nodup := by
  rw [registrations, List.map_map]
  exact (List.pairwise_map.mpr m.table.ascending).imp fun h => Int.ne_of_lt h

theorem length_registrations (m : Roster) : m.registrations.length = m.size :=
  List.length_map _

end Roster

/-! ## A poller and its map -/

/-- The poller is in order, and its registrations are those of the map. -/
structure Poller.Stands (p : Poller) (m : Roster) : Prop where
  sound : p.Sound
  look : ∀ fd, p.registration? fd = m.get? fd

/-- A poller gave the reply of a map, and has its registrations. -/
structure Matches (x : Reply × Poller) (y : Reply × Roster) : Prop where
  reply : x.1.Alike y.1
  size : x.2.size = y.2.size
  look : ∀ fd, x.2.registration? fd = y.2.get? fd

namespace Poller.Stands

variable {p q : Poller} {m : Roster} {view : SystemView} {fd : Descriptor} {c : Call}
  {calls : List (SystemView × Call)}

theorem registrations_perm (h : p.Stands m) : p.registrations.Perm m.registrations := by
  refine (List.perm_ext_iff_of_nodup (nodup_registrations h.sound).of_map
    m.nodup_registrations.of_map).mpr fun r => ?_
  rw [mem_registrations h.sound, Roster.mem_registrations, h.look]

theorem size (h : p.Stands m) : p.size = m.size := by
  rw [size_eq h.sound, h.registrations_perm.length_eq, m.length_registrations]

theorem matching {r r' : Reply} (h : p.Stands m) (hr : r.Alike r') : Matches (r, p) (r', m) :=
  ⟨hr, h.size, h.look⟩

theorem changed {x : Option (Token × Interest)} {table : Table (Token × Interest)} (h : p.Stands m)
    (hq : q.Sound)
    (hlook : ∀ fd', q.registration? fd' = if fd' = fd then x else p.registration? fd')
    (htable : ∀ fd', table.get? fd' = if fd' = fd then x else m.table.get? fd') :
    q.Stands ⟨table⟩ := by
  refine ⟨hq, fun fd' => ?_⟩
  rw [hlook, Roster.get?, htable, h.look]
  rfl

theorem wait (h : p.Stands m) (ha : m.Attended view .wait) :
    Matches (p.perform view .wait) (m.perform view .wait)
      ∧ (p.perform view .wait).2.Stands (m.perform view .wait).2 := by
  obtain ⟨o, q, hwait⟩ := p.wait_succeeds fun _ => ha.allowed rfl
  obtain ⟨hq, -, hlook⟩ := wait_ok h.sound hwait
  have hqm : q.Stands m := ⟨hq, fun fd => (hlook fd).trans (h.look fd)⟩
  have hnone : o = none ↔ m.size = 0 := by
    rw [wait_none_iff h.sound hwait, ← h.size, size_eq h.sound, List.length_eq_zero_iff]
  cases o with
  | none =>
    simp only [perform, hwait, Roster.perform, if_pos (hnone.mp rfl)]
    exact ⟨hqm.matching (.rfl _), hqm⟩
  | some ready =>
    have hsize : m.size ≠ 0 := fun hz => Option.some_ne_none _ (hnone.mpr hz)
    simp only [perform, hwait, Roster.perform, if_neg hsize]
    refine ⟨hqm.matching (.found ?_), hqm⟩
    -- every registered descriptor is open, so that both look at its conditions
    have hlive (r : Registration) (hr : r ∈ p.registrations) :
        ∃ k, view.status r.fd = .live k := by
      refine ha.registered r.fd ?_
      rw [← h.look, (mem_registrations h.sound).mp hr]
      exact Option.some_ne_none _
    have hadm (r : Registration) (hr : r ∈ p.registrations) :
        p.backend.Admits (view.status r.fd) := by
      obtain ⟨k, hk⟩ := hlive r hr
      exact hk ▸ backend_admits_live
    rw [(wait_found h.sound hwait).2 hadm]
    have hdue : p.registrations.filterMap (·.report? view)
        = p.registrations.filterMap (Roster.due view) := by
      refine List.filterMap_congr fun r hr => ?_
      obtain ⟨k, hk⟩ := hlive r hr
      rw [Registration.report?, Roster.due, hk]
      rfl
    rw [hdue]
    exact h.registrations_perm.filterMap _

/-- One call: the poller replies like the map and goes on standing for it. There is one case for
each call, and in each of them the poller may be of either backend. -/
theorem perform (h : p.Stands m) (ha : m.Attended view c) :
    Matches (p.perform view c) (m.perform view c)
      ∧ (p.perform view c).2.Stands (m.perform view c).2 := by
  have hadm {fd : Descriptor} (hfd : c.fd? = some fd) : p.backend.Admits (view.status fd) := by
    obtain ⟨k, hk⟩ := ha.named fd hfd
    exact hk ▸ backend_admits_live
  cases c with
  | add fd token i =>
    cases hm : m.get? fd with
    | none =>
      obtain ⟨q, hadd⟩ := add_succeeds token i h.sound ((h.look fd).trans hm) (hadm rfl)
      obtain ⟨hq, -, -, hchange⟩ := add_ok h.sound hadd
      have hqm := h.changed hq hchange fun fd' => Table.get?_insert ..
      simp only [Poller.perform, Roster.perform, hadd, hm, settle]
      exact ⟨hqm.matching (.rfl _), hqm⟩
    | some r =>
      have hr : p.registration? fd ≠ none := by rw [h.look, hm]; exact Option.some_ne_none r
      simp only [Poller.perform, Roster.perform,
        add_refused token i h.sound hr (hadm rfl), hm, settle]
      exact ⟨h.matching (.rfl _), h⟩
  | update fd token i =>
    cases hm : m.get? fd with
    | none =>
      have href := update_refused token i h.sound ((h.look fd).trans hm) (hadm rfl)
      simp only [Poller.perform, Roster.perform, href, hm, settle]
      exact ⟨h.matching (.rfl _), h⟩
    | some r =>
      obtain ⟨q, hupdate⟩ := update_succeeds token i h.sound ((h.look fd).trans hm) (hadm rfl)
      obtain ⟨hq, -, hchange⟩ := update_ok h.sound hupdate
      have hqm := h.changed hq hchange fun fd' => Table.get?_insert ..
      simp only [Poller.perform, Roster.perform, hupdate, hm, settle]
      exact ⟨hqm.matching (.rfl _), hqm⟩
  | remove fd =>
    cases hm : m.get? fd with
    | none =>
      have href := remove_refused h.sound ((h.look fd).trans hm) (hadm rfl)
      simp only [Poller.perform, Roster.perform, href, hm, settle]
      exact ⟨h.matching (.rfl _), h⟩
    | some r =>
      obtain ⟨q, hremove⟩ := remove_succeeds h.sound ((h.look fd).trans hm) (hadm rfl)
      obtain ⟨hq, -, hchange⟩ := remove_ok h.sound hremove
      have hqm := h.changed hq hchange fun fd' => Table.get?_erase ..
      simp only [Poller.perform, Roster.perform, hremove, hm, settle]
      exact ⟨hqm.matching (.rfl _), hqm⟩
  | wait => exact h.wait ha

/-- A run of calls: every reply is the map's. -/
theorem replies (h : p.Stands m) (ho : m.Open calls) :
    List.Forall₂ Matches (replies Poller.perform p calls) (replies Roster.perform m calls) := by
  induction calls generalizing p m with
  | nil => exact .nil
  | cons x rest ih =>
    obtain ⟨view, c⟩ := x
    obtain ⟨ha, hrest⟩ := ho
    obtain ⟨hmatch, hnext⟩ := h.perform ha
    exact .cons hmatch (ih hnext hrest)

/-- Two pollers that stand for one map cannot be told apart by the replies to a run of calls.
Nothing is said of one of them alone, so that their backends do not matter. -/
theorem replies_agree (hp : p.Stands m) (hq : q.Stands m) (ho : m.Open calls) :
    List.Forall₂ (fun x y => x.1.Alike y.1 ∧ x.2.size = y.2.size)
      (Sluice.replies Poller.perform p calls) (Sluice.replies Poller.perform q calls) := by
  induction calls generalizing p q m with
  | nil => exact .nil
  | cons x rest ih =>
    obtain ⟨view, c⟩ := x
    obtain ⟨ha, hrest⟩ := ho
    obtain ⟨hx, hp'⟩ := hp.perform ha
    obtain ⟨hy, hq'⟩ := hq.perform ha
    exact .cons ⟨hx.reply.trans hy.reply.symm, hx.size.trans hy.size.symm⟩ (ih hp' hq' hrest)

end Poller.Stands

namespace Poller

variable {p q : Poller}

theorem stands_create {b : Backend} {view : SystemView} {fd : Descriptor}
    (h : create b view fd = .ok p) : p.Stands {} := by
  obtain ⟨hs, hlook⟩ := create_ok h
  exact ⟨hs, hlook⟩

/-- The two backends answer every run of calls like one finite map, which starts empty, and like
each other. -/
theorem backends_agree {view view' : SystemView} {fd fd' : Descriptor}
    {calls : List (SystemView × Call)} (hp : create .epoll view fd = .ok p)
    (hq : create .poll view' fd' = .ok q) (ho : Roster.Open {} calls) :
    List.Forall₂ Matches (replies perform p calls) (replies Roster.perform {} calls)
      ∧ List.Forall₂ Matches (replies perform q calls) (replies Roster.perform {} calls)
      ∧ List.Forall₂ (fun x y => x.1.Alike y.1 ∧ x.2.size = y.2.size)
        (replies perform p calls) (replies perform q calls) := by
  have hp := stands_create hp
  have hq := stands_create hq
  exact ⟨hp.replies ho, hq.replies ho, hp.replies_agree hq ho⟩

/-- Two descriptors that become readable while their registrations change. -/
def sampleCalls : List (SystemView × Call) :=
  let quiet : SystemView := ⟨fun _ => .live ⟨false, true, false⟩, false⟩
  let ready : SystemView := ⟨fun _ => .live ⟨true, true, false⟩, false⟩
  [(quiet, .add 8 ⟨1⟩ .readable), (quiet, .add 7 ⟨2⟩ .both), (quiet, .add 8 ⟨3⟩ .both),
    (quiet, .wait), (ready, .wait), (ready, .update 7 ⟨4⟩ .none), (ready, .wait),
    (ready, .remove 8), (ready, .remove 8), (ready, .remove 7), (ready, .wait)]

theorem backends_agree_of_sample : ∃ p q,
    create .epoll ⟨fun _ => .closed, false⟩ 5 = .ok p
      ∧ create .poll ⟨fun _ => .closed, false⟩ 5 = .ok q
      ∧ Roster.Open {} sampleCalls
      ∧ (replies Roster.perform {} sampleCalls).map (·.1)
        = [.done, .done, .refused (.alreadyRegistered 8),
          .found [⟨⟨2⟩, false, true, false⟩],
          .found [⟨⟨2⟩, true, true, false⟩, ⟨⟨1⟩, true, false, false⟩], .done,
          .found [⟨⟨1⟩, true, false, false⟩], .done, .refused (.notRegistered 8), .done, .idle]
      ∧ List.Forall₂ Matches (replies perform p sampleCalls)
        (replies Roster.perform {} sampleCalls)
      ∧ List.Forall₂ Matches (replies perform q sampleCalls)
        (replies Roster.perform {} sampleCalls)
      ∧ List.Forall₂ (fun x y => x.1.Alike y.1 ∧ x.2.size = y.2.size)
        (replies perform p sampleCalls) (replies perform q sampleCalls) := by
  have hp : create .epoll ⟨fun _ => .closed, false⟩ 5 = .ok (.epoll { fd := 5 }) := rfl
  have hq : create .poll ⟨fun _ => .closed, false⟩ 5 = .ok (.scan {}) := rfl
  have hopen : Roster.Open {} sampleCalls := by
    iterate 11 refine ⟨⟨fun _ _ => ⟨_, rfl⟩, fun _ _ => ⟨_, rfl⟩, fun _ => rfl⟩, ?_⟩
    trivial
  exact ⟨_, _, hp, hq, hopen, rfl, backends_agree hp hq hopen⟩

end Poller

end Sluice
