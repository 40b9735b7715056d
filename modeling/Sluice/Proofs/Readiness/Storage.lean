import Mathlib.Data.Int.Interval
import Sluice.Proofs.Readiness.Agreement
import Sluice.Proofs.Store.Doubling

/-!
# Room for events

Storage for events that is doubled on demand is always enough, and no larger than the largest demand
so far asks for (`Doubled`). This holds of the list of reported events over any resets
(`ReadyList.Accounts`), and of the room that an event set keeps for its descriptors over any calls,
refused ones among them (`Epoll.Accounts`): `Epoll.Roomy` ties the room to the most descriptors that
were registered at a time, one call keeps it (`Roomy.perform`), and so does a run (`Roomy.after`).
There are no more than `2 ^ 32` descriptors, so that the doubling stays within 64 bits
(`Epoll.peak_le_of_narrow`). `storage_suffices` puts the two together.
-/

namespace Sluice

variable {c d m n : Nat}

/-! ## Storage that was doubled on demand -/

/-- Storage of this size has held what was asked for, `m` at most, and it was not doubled without
need. -/
def Doubled (m c : Nat) : Prop :=
  ∃ k, c = initialReadyCapacity * 2 ^ k ∧ m ≤ c ∧ (k = 0 ∨ c < 2 * m)

/-- More than this cannot be held by doubling in 64 bits: it is the last number that comes of
doubling before they are left. -/
def largestDemand : Nat := 2 ^ 63

theorem largestDemand_eq : largestDemand = initialReadyCapacity * 2 ^ 59 := by decide +kernel

theorem wordLimit_eq : wordLimit = initialReadyCapacity * 2 ^ 60 := by decide +kernel

namespace Doubled

theorem isLeast (h : Doubled m c) :
    IsLeast {c | (∃ k, c = initialReadyCapacity * 2 ^ k) ∧ m ≤ c} c := by
  obtain ⟨k, rfl, henough, hhalf⟩ := h
  exact isLeast_doubled henough hhalf

theorem pos (h : Doubled m c) : 0 < c := by
  obtain ⟨k, rfl, -, -⟩ := h
  exact Nat.mul_pos (by decide) (Nat.two_pow_pos k)

theorem start_eq (h : Doubled m c) : startCapacity c = c :=
  if_neg (Nat.pos_iff_ne_zero.mp h.pos)

theorem le (h : Doubled m c) : m ≤ c := by
  obtain ⟨k, -, henough, -⟩ := h
  exact henough

theorem mono (h : Doubled m c) (hmn : m ≤ n) (hn : n ≤ c) : Doubled n c := by
  obtain ⟨k, hk, -, hhalf⟩ := h
  exact ⟨k, hk, hn, hhalf.imp_right fun hlt => by omega⟩

theorem lt_limit (h : Doubled m c) (hm : m ≤ largestDemand) : c < wordLimit := by
  have hlargest := largestDemand_eq
  rw [wordLimit_eq]
  obtain ⟨k, rfl, -, rfl | hhalf⟩ := h
  · decide
  · omega

/-- What the doubling finds has been enough before and is enough now. The doubling begins with what
is there, so that there is none without need now if there was none before. -/
theorem next (h : Doubled m (startCapacity c)) (hd : doubledCapacity? c n = some d) :
    Doubled (max m n) d ∧ startCapacity c ≤ d := by
  rw [doubledCapacity?_eq] at hd
  obtain ⟨j, rfl, henough, hagain⟩ := of_doubleUntil hd
  obtain ⟨k, hk, hbefore, hhalf⟩ := h
  have hgrown : startCapacity c ≤ startCapacity c * 2 ^ j :=
    Nat.le_mul_of_pos_right _ (Nat.two_pow_pos j)
  refine ⟨⟨k + j, ?_, Nat.max_le.mpr ⟨hbefore.trans hgrown, henough⟩, ?_⟩, hgrown⟩
  · rw [hk, Nat.pow_add, Nat.mul_assoc]
  · rcases hagain with rfl | ⟨htwice, -⟩
    · rw [Nat.pow_zero, Nat.mul_one]
      omega
    · omega

end Doubled

theorem doubled_start : Doubled 0 (startCapacity 0) :=
  ⟨0, rfl, Nat.zero_le _, Or.inl rfl⟩

/-- The 64-bit numbers that come of doubling hold no more than the largest demand. -/
theorem le_largestDemand {k : Nat} (h : initialReadyCapacity * 2 ^ k < wordLimit) :
    initialReadyCapacity * 2 ^ k ≤ largestDemand := by
  rw [wordLimit_eq] at h
  have hk := (Nat.pow_lt_pow_iff_right (by decide)).mp (Nat.lt_of_mul_lt_mul_left h)
  rw [largestDemand_eq]
  exact Nat.mul_le_mul_left _ (Nat.pow_le_pow_right (by decide) (by omega))

/-- The doubling answers every demand up to the largest, and no other. Since the doubling passes
through the largest demand wherever it begins, it does not matter how far it has come. -/
theorem Doubled.answered_iff (h : Doubled m (startCapacity c)) (hm : m ≤ largestDemand) :
    (doubledCapacity? c n).isSome ↔ n ≤ largestDemand := by
  have hstart := h.lt_limit hm
  obtain ⟨k, hk, -, -⟩ := h
  have hmultiple (j : Nat) : startCapacity c * 2 ^ j = initialReadyCapacity * 2 ^ (k + j) := by
    rw [hk, Nat.pow_add, Nat.mul_assoc]
  rw [doubledCapacity?_eq]
  constructor
  · intro hsome
    obtain ⟨d, hd⟩ := Option.isSome_iff_exists.mp hsome
    obtain ⟨j, rfl, henough, hagain⟩ := of_doubleUntil hd
    have hfits : startCapacity c * 2 ^ j < wordLimit := by
      rcases hagain with rfl | ⟨-, hfits⟩
      · rwa [Nat.pow_zero, Nat.mul_one]
      · exact hfits
    rw [hmultiple] at henough hfits
    exact henough.trans (le_largestDemand hfits)
  · intro hn
    cases hd : doubleUntil n (startCapacity c) (startCapacity_pos c) with
    | some d => rfl
    | none =>
      -- the doubling passes through the largest demand
      rw [hk, wordLimit_eq] at hstart
      have hexp := (Nat.pow_lt_pow_iff_right (by decide)).mp (Nat.lt_of_mul_lt_mul_left hstart)
      have hreached : startCapacity c * 2 ^ (59 - k) = largestDemand := by
        rw [hmultiple, largestDemand_eq, Nat.add_sub_cancel' (by omega)]
      have hfits : largestDemand < wordLimit := by decide +kernel
      have hshort := of_doubleUntil_none hd (hreached ▸ hfits)
      omega

/-! ## The list of reported events -/

namespace ReadyList

structure Round where
  count : Nat
  events : List Event
  counted : events.length ≤ count

def refill (l : ReadyList) (r : Round) : ReadyList :=
  r.events.foldl push (l.reset r.count)

def after (l : ReadyList) : List Round → ReadyList
  | [] => l
  | r :: rest => (l.refill r).after rest

def Answered (l : ReadyList) : List Round → Prop
  | [] => True
  | r :: rest => (doubledCapacity? l.capacity r.count).isSome ∧ (l.refill r).Answered rest

variable {l : ReadyList} {r : Round} {rounds : List Round}

theorem events_refill (l : ReadyList) (r : Round) : (l.refill r).events = r.events := by
  rw [refill, events_foldl_push, reset, List.nil_append]

theorem doubled_refill (h : (doubledCapacity? l.capacity r.count).isSome) :
    doubledCapacity? l.capacity r.count = some (l.refill r).capacity := by
  obtain ⟨d, hd⟩ := Option.isSome_iff_exists.mp h
  rw [refill, capacity_foldl_push, reset, hd]
  rfl

/-- The list has had room for the largest count so far. What is pushed into it takes none of the
room away, and there is no more of it than was counted. -/
theorem doubled_of_refill (h : Doubled m (startCapacity l.capacity))
    (hsome : (doubledCapacity? l.capacity r.count).isSome) :
    Doubled (max m r.count) (l.refill r).capacity ∧ l.capacity ≤ (l.refill r).capacity := by
  obtain ⟨hdoubled, hgrown⟩ := h.next (doubled_refill hsome)
  refine ⟨hdoubled, Nat.le_trans ?_ hgrown⟩
  unfold startCapacity
  split <;> omega

theorem answered_iff (h : Doubled m (startCapacity l.capacity)) (hm : m ≤ largestDemand) :
    l.Answered rounds ↔ ∀ r ∈ rounds, r.count ≤ largestDemand := by
  induction rounds generalizing l m with
  | nil => exact iff_of_true trivial fun r hr => absurd hr List.not_mem_nil
  | cons r rest ih =>
    rw [Answered, h.answered_iff hm, List.forall_mem_cons]
    refine and_congr_right fun hr => ?_
    obtain ⟨hdoubled, -⟩ := doubled_of_refill h ((h.answered_iff hm).mpr hr)
    exact ih (hdoubled.start_eq.symm ▸ hdoubled) (Nat.max_le.mpr ⟨hm, hr⟩)

def largest : List Round → Nat
  | [] => 0
  | r :: rest => max r.count (largest rest)

theorem largest_le_iff : largest rounds ≤ n ↔ ∀ r ∈ rounds, r.count ≤ n := by
  induction rounds with
  | nil => exact iff_of_true (Nat.zero_le n) fun r hr => absurd hr List.not_mem_nil
  | cons r rest ih => rw [largest, Nat.max_le, ih, List.forall_mem_cons]

theorem doubled_after (h : Doubled m l.capacity) (ha : l.Answered rounds) :
    Doubled (max m (largest rounds)) (l.after rounds).capacity := by
  induction rounds generalizing l m with
  | nil => exact (Nat.max_eq_left (Nat.zero_le m)).symm ▸ h
  | cons r rest ih =>
    obtain ⟨hsome, hrest⟩ := ha
    obtain ⟨hdoubled, -⟩ := doubled_of_refill (h.start_eq.symm ▸ h) hsome
    have hlast := ih hdoubled hrest
    rwa [Nat.max_assoc] at hlast

theorem doubled_of_answered (ha : Answered {} rounds) (hrounds : rounds ≠ []) :
    Doubled (largest rounds) (after {} rounds).capacity := by
  cases rounds with
  | nil => exact absurd rfl hrounds
  | cons r rest =>
    obtain ⟨hsome, hrest⟩ := ha
    obtain ⟨hfirst, -⟩ := doubled_of_refill doubled_start hsome
    have hlast := doubled_after hfirst hrest
    rwa [Nat.zero_max] at hlast

/-- What holds of a list after some rounds, the first of them on a new list, and of the round that
comes next. -/
structure Accounts (rounds : List Round) : Prop where
  unused : rounds = [] → (after {} rounds).capacity = 0
  /-- The list has doubled as often as the counts have asked for, and no more. -/
  capacity : rounds ≠ [] →
    IsLeast {c | (∃ k, c = initialReadyCapacity * 2 ^ k) ∧ largest rounds ≤ c}
    (after {} rounds).capacity
  grows : ∀ r, r.count ≤ largestDemand →
    (after {} rounds).capacity ≤ ((after {} rounds).refill r).capacity
  fits : ∀ r, r.count ≤ largestDemand → ((after {} rounds).refill r).events = r.events
    ∧ r.events.length ≤ ((after {} rounds).refill r).capacity

theorem accounts_of_answered (ha : Answered {} rounds) : Accounts rounds := by
  have hcounts := (answered_iff doubled_start (Nat.zero_le _)).mp ha
  have hstart : Doubled (largest rounds) (startCapacity (after {} rounds).capacity) := by
    cases hrounds : rounds with
    | nil => exact doubled_start
    | cons r rest =>
      have hdoubled := doubled_of_answered ha (hrounds ▸ List.cons_ne_nil r rest)
      rw [← hrounds, hdoubled.start_eq]
      exact hdoubled
  have hnext (r : Round) (hr : r.count ≤ largestDemand) :
      (doubledCapacity? (after {} rounds).capacity r.count).isSome :=
    (hstart.answered_iff (largest_le_iff.mpr hcounts)).mpr hr
  constructor
  case unused =>
    rintro rfl
    rfl
  case capacity => exact fun hrounds => (doubled_of_answered ha hrounds).isLeast
  case grows =>
    intro r hr
    exact (doubled_of_refill hstart (hnext r hr)).2
  case fits =>
    intro r hr
    obtain ⟨hdoubled, -⟩ := doubled_of_refill hstart (hnext r hr)
    exact ⟨events_refill _ r, r.counted.trans ((Nat.le_max_right ..).trans hdoubled.le)⟩

end ReadyList

/-! ## Calls on an event set -/

def Call.isAdd : Call → Bool
  | .add .. => true
  | _ => false

def Call.isRemove : Call → Bool
  | .remove _ => true
  | _ => false

def Call.Narrow (c : Call) : Prop :=
  ∀ fd ∈ c.fd?, -2 ^ 31 ≤ fd ∧ fd < 2 ^ 31

instance (c : Call) : Decidable c.Narrow :=
  inferInstanceAs (Decidable (∀ fd ∈ c.fd?, -2 ^ 31 ≤ fd ∧ fd < 2 ^ 31))

def Reply.isDone : Reply → Bool
  | .done => true
  | _ => false

namespace Epoll

def settle (p : Epoll) : Except PollError Epoll → Reply × Epoll
  | .ok q => (.done, q)
  | .error e => (.refused e, p)

def perform (p : Epoll) (view : SystemView) : Call → Reply × Epoll
  | .add fd token i => p.settle (p.add view fd token i)
  | .update fd token i => p.settle (p.update view fd token i)
  | .remove fd => p.settle (p.remove view fd)
  | .wait =>
    match p.wait view with
    | .ok (none, q) => (.idle, q)
    | .ok (some ready, q) => (.found ready.events, q)
    | .error e => (.refused e, p)

def after (p : Epoll) : List (SystemView × Call) → Epoll
  | [] => p
  | (view, c) :: rest => (p.perform view c).2.after rest

def peak (p : Epoll) : List (SystemView × Call) → Nat
  | [] => p.members.length
  | (view, c) :: rest => max p.members.length ((p.perform view c).2.peak rest)

def successes (kind : Call → Bool) (p : Epoll) : List (SystemView × Call) → Nat
  | [] => 0
  | (view, c) :: rest => (if kind c && (p.perform view c).1.isDone then 1 else 0)
    + (p.perform view c).2.successes kind rest

variable {p q : Epoll} {view : SystemView} {fd : Descriptor} {token : Token}
  {i : Interest} {c : Call}
  {reply : Reply} {calls : List (SystemView × Call)}

/-- All that can come of a call: a member more, a member less, or as many as before. Only the first
of these asks for room, and only a wait touches the list of reported events. -/
inductive Performed (p : Epoll) : Call → Reply → Epoll → Prop
  | added {fd : Descriptor} {token : Token} {i : Interest} {q : Epoll}
      (members : q.members = p.members ++ [⟨fd, token, i⟩])
      (room : q.room = grownRoom p.room (p.members.length + 1)) (ready : q.ready = p.ready) :
      Performed p (.add fd token i) .done q
  | removed {fd : Descriptor} {q : Epoll} (members : q.members.Sublist p.members)
      (fewer : q.members.length + 1 = p.members.length) (room : q.room = p.room)
      (ready : q.ready = p.ready) :
      Performed p (.remove fd) .done q
  | updated {fd : Descriptor} {token : Token} {i : Interest} {q : Epoll}
      (members : q.members.map (·.fd) = p.members.map (·.fd)) (room : q.room = p.room)
      (ready : q.ready = p.ready) : Performed p (.update fd token i) .done q
  | unchanged {c : Call} {reply : Reply} (notDone : reply.isDone = false) : Performed p c reply p
  | found {events : List Event} (few : events.length ≤ p.members.length) :
      Performed p .wait (.found events) { p with ready := p.ready.report events }

theorem performed_add (hs : p.Sound) (h : p.add view fd token i = .ok q) :
    p.Performed (.add fd token i) .done q := by
  unfold add at h
  split at h
  · cases h
  · cases h
    exact .added rfl (by rw [hs.counted]) rfl

theorem performed_remove (hs : p.Sound) (h : p.remove view fd = .ok q) :
    p.Performed (.remove fd) .done q := by
  obtain ⟨-, ⟨m, hm⟩, -⟩ := remove_ok hs h
  obtain ⟨hmem, hfd⟩ := Keyed.key_of_lookUp hm
  unfold remove at h
  split at h
  · cases h
  · cases h
    refine .removed List.eraseP_sublist ?_ rfl rfl
    exact List.length_eraseP_add_one hmem (decide_eq_true hfd)

theorem performed_update (h : p.update view fd token i = .ok q) :
    p.Performed (.update fd token i) .done q := by
  unfold update at h
  split at h
  · cases h
  · cases h
    have hreplace : (p.members.map fun m => if m.fd = fd then ⟨fd, token, i⟩ else m)
        = Keyed.replace (·.fd) ⟨fd, token, i⟩ p.members := rfl
    exact .updated (hreplace ▸ Keyed.map_key_replace) rfl rfl

/-- What a wait comes to: nothing where nothing is registered, else a report on every member that
has one. -/
theorem wait_eq (hs : p.Sound) (view : SystemView) : p.wait view = .ok
    (if p.registered = 0 then (none, p)
      else (some (p.ready.report (p.members.filterMap (look view))),
        { p with ready := p.ready.report (p.members.filterMap (look view)) })) := by
  have hall : (p.members.filterMap (look view)).take p.registered
      = p.members.filterMap (look view) := by
    rw [hs.counted]
    exact List.take_of_length_le (List.length_filterMap_le _ _)
  unfold wait
  split
  · rfl
  · rw [hall]

theorem Sound.performed (hs : p.Sound) (view : SystemView) (c : Call) :
    p.Performed c (p.perform view c).1 (p.perform view c).2 ∧ (p.perform view c).2.Sound := by
  cases c with
  | add fd token i =>
    simp only [perform]
    cases hadd : p.add view fd token i with
    | ok q => exact ⟨performed_add hs hadd, (add_ok hs hadd).1⟩
    | error e => exact ⟨.unchanged rfl, hs⟩
  | update fd token i =>
    simp only [perform]
    cases hupdate : p.update view fd token i with
    | ok q => exact ⟨performed_update hupdate, (update_ok hs hupdate).1⟩
    | error e => exact ⟨.unchanged rfl, hs⟩
  | remove fd =>
    simp only [perform]
    cases hremove : p.remove view fd with
    | ok q => exact ⟨performed_remove hs hremove, (remove_ok hs hremove).1⟩
    | error e => exact ⟨.unchanged rfl, hs⟩
  | wait =>
    simp only [perform, wait_eq hs]
    by_cases hnone : p.registered = 0
    · rw [if_pos hnone]
      exact ⟨.unchanged rfl, hs⟩
    · rw [if_neg hnone]
      refine ⟨?_, ⟨hs.nodup, hs.counted⟩⟩
      simp only [ReadyList.events_report]
      exact .found (List.length_filterMap_le _ _)

/-! ## The room of an event set -/

/-- An event set that had `m` members at most. It has doubled its room only for want of room, and
the list of reported events has room for some number of members that it had at a time. -/
structure Roomy (m : Nat) (p : Epoll) : Prop where
  sound : p.Sound
  size_le : p.members.length ≤ m
  room : Doubled m (startCapacity p.room)
  begun : p.room = 0 ↔ m = 0
  ready : ∃ n ≤ m, Doubled n (startCapacity p.ready.capacity)

theorem Roomy.same (h : p.Roomy m) (hs : q.Sound) (hlen : q.members.length ≤ p.members.length)
    (hroom : q.room = p.room) (hready : q.ready = p.ready) : q.Roomy (max m q.members.length) := by
  have hsize := h.size_le
  rw [Nat.max_eq_left (hlen.trans hsize)]
  refine ⟨hs, hlen.trans hsize, ?_, ?_, ?_⟩
  · rw [hroom]
    exact h.room
  · rw [hroom]
    exact h.begun
  · rw [hready]
    exact h.ready

/-- Where the room is short for one more, it is doubled, and otherwise it stays, which is doubled as
well as far as `Doubled` goes. -/
theorem Roomy.doubled_grownRoom (h : p.Roomy m) (hm : m ≤ largestDemand) (hn : n ≤ largestDemand)
    (hpos : 0 < n) :
    Doubled (max m n) (grownRoom p.room n) := by
  unfold grownRoom
  split
  · obtain ⟨d, hd⟩ := Option.isSome_iff_exists.mp ((h.room.answered_iff hm).mpr hn)
    rw [hd]
    exact (h.room.next hd).1
  · next hroomy =>
    have hroom : Doubled m p.room := by
      have hstart : startCapacity p.room = p.room := if_neg (by omega)
      exact hstart ▸ h.room
    exact hroom.mono (Nat.le_max_left ..) (Nat.max_le.mpr ⟨hroom.le, Nat.le_of_not_lt hroomy⟩)

/-- What a call does to an event set keeps its room tied to its members. -/
theorem Roomy.performed (h : p.Roomy m) (hq : p.Performed c reply q) (hs : q.Sound)
    (hmost : max m q.members.length ≤ largestDemand) : q.Roomy (max m q.members.length) := by
  obtain ⟨hm, hn⟩ := Nat.max_le.mp hmost
  cases hq with
  | added members room ready =>
    have hlen : q.members.length = p.members.length + 1 := by
      rw [members, List.length_append, List.length_singleton]
    have hroom := h.doubled_grownRoom hm hn (by omega)
    rw [hlen, ← room, ← hlen] at hroom
    obtain ⟨n, hnm, hready⟩ := h.ready
    refine ⟨hs, Nat.le_max_right .., ?_, ?_, ?_⟩
    · exact hroom.start_eq.symm ▸ hroom
    · have hpos := hroom.pos
      exact iff_of_false (by omega) (by omega)
    · rw [ready]
      exact ⟨n, hnm.trans (Nat.le_max_left ..), hready⟩
  | removed members fewer room ready => exact h.same hs (by omega) room ready
  | updated members room ready =>
    have hlen := congrArg List.length members
    rw [List.length_map, List.length_map] at hlen
    exact h.same hs hlen.le room ready
  | unchanged notDone => exact h.same hs (Nat.le_refl _) rfl rfl
  | @found events few =>
    have hsize := h.size_le
    rw [Nat.max_eq_left hsize]
    obtain ⟨n, hnm, hready⟩ := h.ready
    refine ⟨hs, hsize, h.room, h.begun, max n events.length,
      Nat.max_le.mpr ⟨hnm, few.trans hsize⟩, ?_⟩
    have hsome := (hready.answered_iff (hnm.trans hm)).mpr (few.trans (hsize.trans hm))
    have hdoubled :=
      (ReadyList.doubled_of_refill (r := ⟨events.length, events, Nat.le_refl _⟩) hready hsome).1
    exact hdoubled.start_eq.symm ▸ hdoubled

theorem length_le_peak (p : Epoll) (calls : List (SystemView × Call)) :
    p.members.length ≤ p.peak calls := by
  cases calls with
  | nil => exact Nat.le_refl _
  | cons x rest => exact Nat.le_max_left ..

theorem Roomy.after (h : p.Roomy m) (hmost : max m (p.peak calls) ≤ largestDemand) :
    (p.after calls).Roomy (max m (p.peak calls)) := by
  induction calls generalizing p m with
  | nil =>
    rw [peak, Nat.max_eq_left h.size_le]
    exact h
  | cons x rest ih =>
    obtain ⟨view, c⟩ := x
    obtain ⟨hperformed, hs⟩ := h.sound.performed view c
    have hsize := h.size_le
    have hnext := length_le_peak (p.perform view c).2 rest
    rw [peak] at hmost ⊢
    have hfirst := h.performed hperformed hs (by omega)
    have hpeak : max (max m (p.perform view c).2.members.length) ((p.perform view c).2.peak rest)
        = max m (max p.members.length ((p.perform view c).2.peak rest)) := by omega
    have hlast := ih hfirst (by omega)
    rw [hpeak] at hlast
    exact hlast

/-! ## Counting members -/

theorem Performed.balance (hq : p.Performed c reply q) :
    q.members.length + (if c.isRemove && reply.isDone then 1 else 0)
      = p.members.length + (if c.isAdd && reply.isDone then 1 else 0) := by
  cases hq with
  | added members room ready =>
    rw [members, List.length_append]
    rfl
  | removed members fewer room ready => exact fewer
  | updated members room ready =>
    have hlen := congrArg List.length members
    rwa [List.length_map, List.length_map] at hlen
  | unchanged notDone => simp [notDone]
  | found few => rfl

theorem Performed.length_of_add (hq : p.Performed c reply q)
    (hadd : (c.isAdd && reply.isDone) = true) :
    q.members.length = p.members.length + 1 := by
  cases hq with
  | added members room ready => rw [members, List.length_append, List.length_singleton]
  | removed members fewer room ready => cases hadd
  | updated members room ready => cases hadd
  | unchanged notDone => simp [notDone] at hadd
  | found few => cases hadd

theorem Sound.balance (hs : p.Sound) (calls : List (SystemView × Call)) :
    (p.after calls).members.length + p.successes Call.isRemove calls
      = p.members.length + p.successes Call.isAdd calls := by
  induction calls generalizing p with
  | nil => rfl
  | cons x rest ih =>
    obtain ⟨view, c⟩ := x
    obtain ⟨hperformed, hnext⟩ := hs.performed view c
    have hfirst := hperformed.balance
    have hrest := ih hnext
    simp only [after, successes]
    omega

/-- There are members at some time where one was there or was added. It says in terms of the calls
when no room has been asked for yet. -/
theorem Sound.peak_eq_zero_iff (hs : p.Sound) (calls : List (SystemView × Call)) :
    p.peak calls = 0 ↔ p.members.length = 0 ∧ p.successes Call.isAdd calls = 0 := by
  induction calls generalizing p with
  | nil => simp only [peak, successes, and_true]
  | cons x rest ih =>
    obtain ⟨view, c⟩ := x
    obtain ⟨hperformed, hnext⟩ := hs.performed view c
    have hfirst := hperformed.balance
    have hrest := ih hnext
    have hless := length_le_peak (p.perform view c).2 rest
    simp only [peak, successes]
    by_cases hadd : (c.isAdd && (p.perform view c).1.isDone) = true
    · have hmore := hperformed.length_of_add hadd
      rw [if_pos hadd]
      omega
    · rw [if_neg hadd] at hfirst ⊢
      omega

/-! ## How many descriptors there are -/

def Narrow (p : Epoll) : Prop :=
  ∀ r ∈ p.members, -2 ^ 31 ≤ r.fd ∧ r.fd < 2 ^ 31

theorem Narrow.length_le (h : p.Narrow) (hs : p.Sound) : p.members.length ≤ 2 ^ 32 := by
  have hsubset : (p.members.map (·.fd)).toFinset ⊆ Finset.Ico (-2 ^ 31) (2 ^ 31) := by
    intro fd hfd
    obtain ⟨r, hr, rfl⟩ := List.mem_map.mp (List.mem_toFinset.mp hfd)
    exact Finset.mem_Ico.mpr (h r hr)
  have hcard := Finset.card_le_card hsubset
  rw [List.toFinset_card_of_nodup hs.nodup, List.length_map, Int.card_Ico] at hcard
  exact hcard

theorem Narrow.performed (h : p.Narrow) (hc : c.Narrow) (hq : p.Performed c reply q) :
    q.Narrow := by
  intro r hr
  cases hq with
  | added members room ready =>
    rw [members] at hr
    rcases List.mem_append.mp hr with hold | hnew
    · exact h r hold
    · rw [List.mem_singleton.mp hnew]
      exact hc _ rfl
  | removed members fewer room ready => exact h r (members.subset hr)
  | updated members room ready =>
    have hfd := List.mem_map_of_mem (f := (·.fd)) hr
    rw [members] at hfd
    obtain ⟨r', hr', heq⟩ := List.mem_map.mp hfd
    exact heq ▸ h r' hr'
  | unchanged notDone => exact h r hr
  | found few => exact h r hr

theorem Narrow.peak_le (h : p.Narrow) (hs : p.Sound) (hcalls : ∀ x ∈ calls, x.2.Narrow) :
    p.peak calls ≤ 2 ^ 32 := by
  induction calls generalizing p with
  | nil => exact h.length_le hs
  | cons x rest ih =>
    obtain ⟨view, c⟩ := x
    obtain ⟨hfirst, hrest⟩ := List.forall_mem_cons.mp hcalls
    obtain ⟨hperformed, hnext⟩ := hs.performed view c
    exact Nat.max_le.mpr ⟨h.length_le hs, ih (h.performed hfirst hperformed) hnext hrest⟩

/-! ## Accounts -/

/-- What holds of an event set after some calls, when it began empty, and of the call that comes
next. -/
structure Accounts (p : Epoll) (calls : List (SystemView × Call)) : Prop where
  distinct : ((p.after calls).members.map (·.fd)).Nodup
  counted : (p.after calls).registered = (p.after calls).members.length
  balance : (p.after calls).registered + p.successes Call.isRemove calls
    = p.successes Call.isAdd calls
  enough : (p.after calls).registered ≤ (p.after calls).room
  unused : p.successes Call.isAdd calls = 0 → (p.after calls).room = 0
  /-- The room has doubled as often as the members have asked for, and no more. -/
  room : 0 < p.successes Call.isAdd calls →
    IsLeast {c | (∃ k, c = initialReadyCapacity * 2 ^ k) ∧ p.peak calls ≤ c} (p.after calls).room
  /-- What is removed was counted. -/
  remove : ∀ view fd q, (p.after calls).remove view fd = .ok q →
    q.registered + 1 = (p.after calls).registered
  /-- A wait reports every member that is ready. -/
  wait : ∀ view, ∃ found q, (p.after calls).wait view = .ok (found, q)
    ∧ (found = none ↔ (p.after calls).registered = 0)
    ∧ ∀ ready, found = some ready → ready.events = (p.after calls).members.filterMap (look view)
      ∧ ready.events.length ≤ (p.after calls).registered ∧ ready.events.length ≤ ready.capacity

theorem roomy_new (fd : Descriptor) : Roomy 0 { fd } :=
  ⟨⟨List.nodup_nil, rfl⟩, Nat.le_refl 0, doubled_start, Iff.rfl, 0, Nat.le_refl 0, doubled_start⟩

theorem Roomy.doubled (h : p.Roomy m) (hm : 0 < m) : Doubled m p.room := by
  have hbegun : p.room ≠ 0 := fun hzero => by
    rw [h.begun] at hzero
    omega
  have hstart : startCapacity p.room = p.room := if_neg hbegun
  exact hstart ▸ h.room

theorem Roomy.size_le_room (h : p.Roomy m) : p.members.length ≤ p.room := by
  have hsize := h.size_le
  rcases Nat.eq_zero_or_pos m with hzero | hpos
  · omega
  · exact hsize.trans (h.doubled hpos).le

theorem Roomy.wait (h : p.Roomy m) (hm : m ≤ largestDemand) (view : SystemView) : ∃ found q,
    p.wait view = .ok (found, q) ∧ (found = none ↔ p.registered = 0)
      ∧ ∀ ready, found = some ready → ready.events = p.members.filterMap (look view)
        ∧ ready.events.length ≤ p.registered ∧ ready.events.length ≤ ready.capacity := by
  have hcounted := h.sound.counted
  rw [wait_eq h.sound]
  by_cases hnone : p.registered = 0
  · rw [if_pos hnone]
    exact ⟨none, p, rfl, iff_of_true rfl hnone, fun ready hready => nomatch hready⟩
  · rw [if_neg hnone]
    refine ⟨_, _, rfl, iff_of_false (Option.some_ne_none _) hnone, ?_⟩
    rintro ready ⟨⟩
    have hfew := List.length_filterMap_le (look view) p.members
    have hsize := h.size_le
    obtain ⟨n, hnm, hready⟩ := h.ready
    have hsome := (hready.answered_iff (hnm.trans hm)).mpr (hfew.trans (hsize.trans hm))
    obtain ⟨hdoubled, -⟩ := ReadyList.doubled_of_refill (r := ⟨_, _, Nat.le_refl _⟩) hready hsome
    rw [ReadyList.events_report]
    exact ⟨rfl, hcounted ▸ hfew, (Nat.le_max_right ..).trans hdoubled.le⟩

theorem peak_le_of_narrow (fd : Descriptor) (hcalls : ∀ x ∈ calls, x.2.Narrow) :
    Epoll.peak { fd } calls ≤ largestDemand := by
  have hempty : Narrow { fd } := fun r hr => absurd hr List.not_mem_nil
  have hfew : 2 ^ 32 ≤ largestDemand := by decide +kernel
  exact (hempty.peak_le (roomy_new fd).sound hcalls).trans hfew

theorem accounts_of_peak_le (fd : Descriptor) (hmost : Epoll.peak { fd } calls ≤ largestDemand) :
    Accounts { fd } calls := by
  have hnew := roomy_new fd
  have hafter : Roomy (max 0 (Epoll.peak { fd } calls)) (Epoll.after { fd } calls) :=
    hnew.after (by rwa [Nat.zero_max])
  rw [Nat.zero_max] at hafter
  have hcounted := hafter.sound.counted
  have hbalance := hnew.sound.balance calls
  have hpeak := hnew.sound.peak_eq_zero_iff calls
  rw [List.length_nil] at hbalance hpeak
  constructor
  case distinct => exact hafter.sound.nodup
  case counted => exact hcounted
  case balance => omega
  case enough => exact hcounted ▸ hafter.size_le_room
  case unused => exact fun hnone => hafter.begun.mpr (hpeak.mpr ⟨rfl, hnone⟩)
  case room => exact fun hsome => (hafter.doubled (by omega)).isLeast
  case remove =>
    intro view fd q hremove
    have hq := (remove_ok hafter.sound hremove).1.counted
    cases performed_remove hafter.sound hremove with
    | removed members fewer room ready => omega
    | unchanged notDone => cases notDone
  case wait => exact hafter.wait hmost

end Epoll

/-- Room for events is always enough, and no larger than the most that was asked for. Of an event
set, after any calls on 32-bit descriptors, and on any descriptors as long as doubling can reach
room for them in 64 bits; of a list of reported events, after any counts that doubling can reach. -/
theorem storage_suffices {p : Epoll} {view : SystemView} {fd : Descriptor}
    {calls : List (SystemView × Call)}
    (hp : Poller.create .epoll view fd = .ok (.epoll p))
    (hcalls : (∀ x ∈ calls, x.2.Narrow) ∨ p.peak calls ≤ largestDemand) :
    p.Accounts calls
      ∧ ∀ rounds, (ReadyList.Answered {} rounds ↔ ∀ r ∈ rounds, r.count ≤ largestDemand)
        ∧ (ReadyList.Answered {} rounds → ReadyList.Accounts rounds) := by
  have hnew : p = { fd } := by
    simp only [Poller.create] at hp
    split at hp
    · cases hp
    · cases hp
      rfl
  subst hnew
  refine ⟨?_, fun rounds => ⟨?_, ReadyList.accounts_of_answered⟩⟩
  · rcases hcalls with hnarrow | hmost
    · exact Epoll.accounts_of_peak_le fd (Epoll.peak_le_of_narrow fd hnarrow)
    · exact Epoll.accounts_of_peak_le fd hmost
  · exact ReadyList.answered_iff doubled_start (Nat.zero_le _)

/-- Seventeen descriptors are added, one of them again, which is refused. The first is removed, and
all are looked at. -/
def crowdedCalls : List (SystemView × Call) :=
  let view : SystemView := ⟨fun _ => .live ⟨true, true, false⟩, false⟩
  (List.range 17).map (fun n => (view, .add (8 + n) ⟨n⟩ .readable))
    ++ [(view, .add 9 ⟨17⟩ .both), (view, .remove 8), (view, .wait)]

def crowdedRounds : List ReadyList.Round :=
  [⟨3, [⟨⟨1⟩, true, false, false⟩], by decide⟩, ⟨40, [], by decide⟩, ⟨2, [], by decide⟩]

theorem storage_suffices_of_crowd :
    ∃ p, Poller.create .epoll ⟨fun _ => .closed, false⟩ 5 = .ok (.epoll p)
    ∧ (∀ x ∈ crowdedCalls, x.2.Narrow) ∧ p.Accounts crowdedCalls
    ∧ p.successes Call.isAdd crowdedCalls = 17 ∧ p.peak crowdedCalls = 17
    ∧ (p.after crowdedCalls).registered = 16 ∧ (p.after crowdedCalls).room = 32
    ∧ (p.after crowdedCalls).ready.events.length = 16
    ∧ ReadyList.Accounts crowdedRounds ∧ (ReadyList.after {} crowdedRounds).capacity = 64 := by
  have hp : Poller.create .epoll ⟨fun _ => .closed, false⟩ 5 = .ok (.epoll { fd := 5 }) := rfl
  have hcalls : ∀ x ∈ crowdedCalls, x.2.Narrow := by decide +kernel
  obtain ⟨haccounts, hlists⟩ := storage_suffices hp (Or.inl hcalls)
  obtain ⟨hanswered, hrounds⟩ := hlists crowdedRounds
  have hcounts : ∀ r ∈ crowdedRounds, r.count ≤ largestDemand := by decide +kernel
  exact ⟨_, hp, hcalls, haccounts, by decide +kernel, by decide +kernel, by decide +kernel,
    by decide +kernel, by decide +kernel, hrounds (hanswered.mpr hcounts), by decide +kernel⟩

end Sluice
