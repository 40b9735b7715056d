import Sluice.Proofs.Store.Keyed
import Sluice.Readiness.Poller

/-!
# The registrations of a poller

Either poller is a finite map from descriptors to tokens and interests: `registration?` looks a
descriptor up, `registrations` lists the map, and adding, updating and removing change it at one
descriptor. For this the parts of a poller have to agree (`Poller.Sound`): no descriptor is kept
twice, the event set is counted, and the scanned list and the tokens name the same descriptors.

An event set asks the system first, so its operations also need a descriptor that the system has
conditions for (`Backend.Admits`).
-/

namespace Sluice

open Keyed

/-! ## Event sets -/

namespace Epoll

/-- No descriptor is a member twice, and the members are counted. -/
structure Sound (p : Epoll) : Prop where
  nodup : (p.members.map (·.fd)).Nodup
  counted : p.registered = p.members.length

variable {p q : Epoll} {view : SystemView} {fd fd' : Descriptor} {token : Token} {i : Interest}

def member? (p : Epoll) (fd : Descriptor) : Option Registration :=
  lookUp (·.fd) fd p.members

theorem isMember_iff : p.isMember fd = true ↔ p.member? fd ≠ none := by
  rw [ne_eq, member?, lookUp_eq_none_iff]
  simp [isMember]

theorem live_of_not_refused {op : ControlOp} (h : p.refusal? view op fd = none) :
    (∃ c, view.status fd = .live c) ∧ (op = .add ↔ p.member? fd = none) := by
  unfold refusal? at h
  cases hst : view.status fd with
  | closed => rw [hst] at h; cases h
  | plain => rw [hst] at h; cases h
  | live c =>
    rw [hst] at h
    have hmem : p.isMember fd = true ↔ p.member? fd ≠ none := isMember_iff
    refine ⟨⟨c, rfl⟩, ?_⟩
    cases op <;> by_cases hm : p.isMember fd = true <;> simp_all

theorem not_refused (op : ControlOp) {c : Conditions} (hst : view.status fd = .live c)
    (hop : op = .add ↔ p.member? fd = none) : p.refusal? view op fd = none := by
  unfold refusal?
  rw [hst]
  have hmem : p.isMember fd = true ↔ p.member? fd ≠ none := isMember_iff
  cases op <;> by_cases hm : p.isMember fd = true <;> simp_all

/-- The system has conditions for the descriptor but the operation does not suit its membership.
What the set then says is what a scan says, though the system is asked by the one and a table by the
other. -/
theorem refused (op : ControlOp) {c : Conditions} (hst : view.status fd = .live c)
    (hop : ¬(op = .add ↔ p.member? fd = none)) : ∃ e, p.refusal? view op fd = some e
      ∧ PollError.ofControl fd op e
        = if op = .add then .alreadyRegistered fd else .notRegistered fd := by
  refine ⟨if op = .add then .alreadyExists else .noEntry, ?_, by cases op <;> rfl⟩
  unfold refusal?
  rw [hst]
  have hmem : p.isMember fd = true ↔ p.member? fd ≠ none := isMember_iff
  cases op <;> by_cases hm : p.isMember fd = true <;> simp_all

theorem add_ok (hs : p.Sound) (h : p.add view fd token i = .ok q) :
    q.Sound ∧ p.member? fd = none
      ∧ ∀ fd', q.member? fd' = if fd' = fd then some ⟨fd, token, i⟩ else p.member? fd' := by
  unfold add at h
  split at h
  · cases h
  · next href =>
    cases h
    have hnone := (live_of_not_refused href).2.mp rfl
    refine ⟨⟨?_, ?_⟩, hnone, fun fd' => ?_⟩
    · exact nodup_append_single hs.nodup hnone
    · simp [hs.counted]
    · exact lookUp_append_single hnone

theorem update_ok (hs : p.Sound) (h : p.update view fd token i = .ok q) :
    q.Sound ∧ (∃ m, p.member? fd = some m)
      ∧ ∀ fd', q.member? fd' = if fd' = fd then some ⟨fd, token, i⟩ else p.member? fd' := by
  unfold update at h
  split at h
  · cases h
  · next href =>
    cases h
    obtain ⟨m, hm⟩ : ∃ m, p.member? fd = some m := by
      refine Option.ne_none_iff_exists'.mp ?_
      intro hnone
      exact absurd ((live_of_not_refused href).2.mpr hnone) (by simp)
    have hrep : (p.members.map fun m => if m.fd = fd then ⟨fd, token, i⟩ else m)
        = replace (·.fd) ⟨fd, token, i⟩ p.members := rfl
    refine ⟨⟨?_, ?_⟩, ⟨m, hm⟩, fun fd' => ?_⟩
    · simp only [hrep, map_key_replace]
      exact hs.nodup
    · simp [hs.counted]
    · simp only [member?, hrep, lookUp_replace]
      split
      · next heq =>
        subst heq
        rw [member?] at hm
        rw [hm, Option.map_some]
      · rfl

theorem remove_ok (hs : p.Sound) (h : p.remove view fd = .ok q) :
    q.Sound ∧ (∃ m, p.member? fd = some m)
      ∧ ∀ fd', q.member? fd' = if fd' = fd then none else p.member? fd' := by
  unfold remove at h
  split at h
  · cases h
  · next href =>
    cases h
    obtain ⟨m, hm⟩ : ∃ m, p.member? fd = some m := by
      refine Option.ne_none_iff_exists'.mp ?_
      intro hnone
      exact absurd ((live_of_not_refused href).2.mpr hnone) (by simp)
    obtain ⟨hmem, hkey⟩ := key_of_lookUp hm
    refine ⟨⟨nodup_eraseP hs.nodup, ?_⟩, ⟨m, hm⟩, fun fd' => ?_⟩
    · have hlen := List.length_eraseP_of_mem (p := fun m => decide (m.fd = fd)) hmem (by simpa)
      simp only [hlen, hs.counted]
    · exact lookUp_eraseP hs.nodup

end Epoll

/-! ## Scanned lists -/

namespace Scan

/-- No descriptor is watched twice, and exactly the watched descriptors have tokens. -/
structure Sound (s : Scan) : Prop where
  nodup : (s.watched.map (·.1)).Nodup
  tokens : ∀ fd, s.tokens.get? fd = none ↔ lookUp (·.1) fd s.watched = none

variable {s t : Scan} {fd fd' : Descriptor} {token : Token} {i : Interest}

def entry? (s : Scan) (fd : Descriptor) : Option (Token × Interest) :=
  match s.tokens.get? fd, lookUp (·.1) fd s.watched with
  | some token, some w => some (token, w.2)
  | _, _ => none

theorem entry?_eq_some_iff {r : Token × Interest} :
    s.entry? fd = some r ↔
      s.tokens.get? fd = some r.1 ∧ lookUp (·.1) fd s.watched = some (fd, r.2) := by
  unfold entry?
  cases ht : s.tokens.get? fd with
  | none => simp
  | some token =>
    cases hw : lookUp (·.1) fd s.watched with
    | none => simp
    | some w =>
      obtain ⟨-, hkey⟩ := key_of_lookUp hw
      obtain ⟨fd', i⟩ := w
      obtain ⟨token', i'⟩ := r
      simp_all

theorem entry?_eq_none_iff (hs : s.Sound) : s.entry? fd = none ↔ s.tokens.get? fd = none := by
  have hw := hs.tokens fd
  unfold entry?
  cases ht : s.tokens.get? fd <;> cases hl : lookUp (·.1) fd s.watched <;> simp_all

theorem add_ok (hs : s.Sound) (h : s.add fd token i = .ok t) :
    t.Sound ∧ s.entry? fd = none
      ∧ ∀ fd', t.entry? fd' = if fd' = fd then some (token, i) else s.entry? fd' := by
  unfold add FdTable.insert at h
  by_cases hc : s.tokens.contains fd = true
  · rw [if_pos hc] at h; cases h
  · rw [if_neg hc] at h
    cases h
    have hget : s.tokens.get? fd = none := by
      simpa [FdTable.contains, Table.contains, FdTable.get?] using hc
    have hnone := (hs.tokens fd).mp hget
    have hlook (fd' : Descriptor) : lookUp (·.1) fd' (s.watched ++ [(fd, i)])
        = if fd' = fd then some (fd, i) else lookUp (·.1) fd' s.watched :=
      lookUp_append_single hnone
    refine ⟨⟨?_, fun fd' => ?_⟩, (entry?_eq_none_iff hs).mpr hget, fun fd' => ?_⟩
    · exact nodup_append_single hs.nodup hnone
    · have := hs.tokens fd'
      simp only [FdTable.get?, Table.get?_insert, hlook]
      split <;> simp_all [FdTable.get?]
    · unfold entry?
      simp only [FdTable.get?, Table.get?_insert, hlook]
      by_cases hfd : fd' = fd <;> simp [hfd]

theorem update_ok (hs : s.Sound) (h : s.update fd token i = .ok t) :
    t.Sound ∧ (∃ r, s.entry? fd = some r)
      ∧ ∀ fd', t.entry? fd' = if fd' = fd then some (token, i) else s.entry? fd' := by
  unfold update FdTable.replace at h
  by_cases hc : s.tokens.contains fd = true
  · rw [if_pos hc] at h
    cases h
    have hget : s.tokens.get? fd ≠ none := by
      simpa [FdTable.contains, Table.contains, FdTable.get?, Option.isSome_iff_ne_none] using hc
    obtain ⟨w, hw⟩ := Option.ne_none_iff_exists'.mp fun hn => hget ((hs.tokens fd).mpr hn)
    have hlook (fd' : Descriptor) : lookUp (·.1) fd' (replace (·.1) (fd, i) s.watched)
        = if fd' = fd then (lookUp (·.1) fd' s.watched).map fun _ => (fd, i)
          else lookUp (·.1) fd' s.watched :=
      lookUp_replace
    have hrep : (s.watched.map fun w => if w.1 = fd then (fd, i) else w)
        = replace (·.1) (fd, i) s.watched := rfl
    refine ⟨⟨?_, fun fd' => ?_⟩, ?_, fun fd' => ?_⟩
    · simp only [hrep, map_key_replace]
      exact hs.nodup
    · have := hs.tokens fd'
      simp only [hrep, FdTable.get?, Table.get?_insert, hlook]
      by_cases hfd : fd' = fd <;> simp_all [FdTable.get?]
    · exact Option.ne_none_iff_exists'.mp fun hn => hget ((entry?_eq_none_iff hs).mp hn)
    · unfold entry?
      simp only [hrep, FdTable.get?, Table.get?_insert, hlook]
      by_cases hfd : fd' = fd <;> simp [hfd, hw]
  · rw [if_neg hc] at h; cases h

theorem remove_ok (hs : s.Sound) (h : s.remove fd = .ok t) :
    t.Sound ∧ (∃ r, s.entry? fd = some r)
      ∧ ∀ fd', t.entry? fd' = if fd' = fd then none else s.entry? fd' := by
  unfold remove FdTable.remove at h
  cases hget : s.tokens.get? fd with
  | none => rw [hget] at h; cases h
  | some token =>
    rw [hget] at h
    cases h
    have hlook (fd' : Descriptor) : lookUp (·.1) fd' (s.watched.eraseP fun w => w.1 = fd)
        = if fd' = fd then none else lookUp (·.1) fd' s.watched :=
      lookUp_eraseP hs.nodup
    refine ⟨⟨nodup_eraseP hs.nodup, fun fd' => ?_⟩, ?_, fun fd' => ?_⟩
    · have := hs.tokens fd'
      simp only [FdTable.get?, Table.get?_erase, hlook]
      by_cases hfd : fd' = fd <;> simp_all [FdTable.get?]
    · refine Option.ne_none_iff_exists'.mp ?_
      intro hn
      rw [entry?_eq_none_iff hs, hget] at hn
      cases hn
    · unfold entry?
      simp only [FdTable.get?, Table.get?_erase, hlook]
      by_cases hfd : fd' = fd <;> simp [hfd]

end Scan

/-! ## Pollers -/

def Registration.report? (view : SystemView) (m : Registration) : Option Event :=
  ((view.status m.fd).scanned m.fd).event? m.token m.interest

/-- What a backend takes on: an event set only takes what the system has conditions for. A scan asks
nobody when something is registered, and finds out later. -/
def Backend.Admits : Backend → FileStatus → Prop
  | .epoll, st => ∃ c, st = .live c
  | _, _ => True

namespace Poller

def Sound : Poller → Prop
  | .epoll p => p.Sound
  | .scan s => s.Sound

/-- The registrations in the order in which they were made. A scan holds them in two parts, in the
list that is handed to the system and in the table of tokens. -/
def registrations : Poller → List Registration
  | .epoll p => p.members
  | .scan s => s.watched.filterMap fun w => (s.tokens.get? w.1).map fun token => ⟨w.1, token, w.2⟩

variable {p q : Poller} {view : SystemView} {fd : Descriptor} {token : Token} {i : Interest}

theorem registration?_epoll (p : Epoll) (fd : Descriptor) :
    (Poller.epoll p).registration? fd = (p.member? fd).map fun m => (m.token, m.interest) := rfl

theorem registration?_scan (s : Scan) (fd : Descriptor) :
    (Poller.scan s).registration? fd = s.entry? fd := rfl

theorem backend_admits_live {b : Backend} {c : Conditions} : b.Admits (.live c) := by
  cases b with
  | epoll => exact ⟨c, rfl⟩
  | kqueue => trivial
  | poll => trivial

theorem of_map_ok {α β ε : Type} {f : α → β} {x : Except ε α} {y : β}
    (h : x.map f = .ok y) : ∃ a, x = .ok a ∧ f a = y := by
  cases x with
  | error e => cases h
  | ok a => exact ⟨a, rfl, Except.ok.inj h⟩

/-! ### What an operation does to every look-up -/

theorem create_ok {b : Backend} (h : create b view fd = .ok p) :
    p.Sound ∧ ∀ fd', p.registration? fd' = none := by
  cases b with
  | epoll =>
    unfold create at h
    dsimp only at h
    split at h
    · cases h
    · cases h
      exact ⟨⟨List.nodup_nil, rfl⟩, fun _ => rfl⟩
  | kqueue => cases h
  | poll =>
    cases h
    exact ⟨⟨List.nodup_nil, fun _ => iff_of_true rfl rfl⟩, fun _ => rfl⟩

theorem add_ok (hs : p.Sound) (h : p.add view fd token i = .ok q) :
    q.Sound ∧ q.backend = p.backend ∧ p.registration? fd = none
      ∧ ∀ fd', q.registration? fd' = if fd' = fd then some (token, i) else p.registration? fd' := by
  cases p with
  | epoll p =>
    obtain ⟨q', hq, rfl⟩ := of_map_ok h
    obtain ⟨hsound, hnone, hlook⟩ := Epoll.add_ok hs hq
    refine ⟨hsound, rfl, by rw [registration?_epoll, hnone, Option.map_none], fun fd' => ?_⟩
    rw [registration?_epoll, registration?_epoll, hlook]
    split <;> rfl
  | scan s =>
    obtain ⟨q', hq, rfl⟩ := of_map_ok h
    obtain ⟨hsound, hnone, hlook⟩ := Scan.add_ok hs hq
    exact ⟨hsound, rfl, hnone, hlook⟩

theorem admits_of_add (h : p.add view fd token i = .ok q) :
    p.backend.Admits (view.status fd) := by
  cases p with
  | epoll p =>
    obtain ⟨q', hq, -⟩ := of_map_ok h
    unfold Epoll.add at hq
    split at hq
    · cases hq
    · next href => exact (Epoll.live_of_not_refused href).1
  | scan s => trivial

theorem update_ok (hs : p.Sound) (h : p.update view fd token i = .ok q) :
    q.Sound ∧ q.backend = p.backend
      ∧ ∀ fd', q.registration? fd' = if fd' = fd then some (token, i) else p.registration? fd' := by
  cases p with
  | epoll p =>
    obtain ⟨q', hq, rfl⟩ := of_map_ok h
    obtain ⟨hsound, -, hlook⟩ := Epoll.update_ok hs hq
    refine ⟨hsound, rfl, ?_⟩
    intro fd'
    rw [registration?_epoll, registration?_epoll, hlook]
    split <;> rfl
  | scan s =>
    obtain ⟨q', hq, rfl⟩ := of_map_ok h
    obtain ⟨hsound, -, hlook⟩ := Scan.update_ok hs hq
    exact ⟨hsound, rfl, hlook⟩

theorem remove_ok (hs : p.Sound) (h : p.remove view fd = .ok q) :
    q.Sound ∧ q.backend = p.backend
      ∧ ∀ fd', q.registration? fd' = if fd' = fd then none else p.registration? fd' := by
  cases p with
  | epoll p =>
    obtain ⟨q', hq, rfl⟩ := of_map_ok h
    obtain ⟨hsound, -, hlook⟩ := Epoll.remove_ok hs hq
    refine ⟨hsound, rfl, ?_⟩
    intro fd'
    rw [registration?_epoll, registration?_epoll, hlook]
    split <;> rfl
  | scan s =>
    obtain ⟨q', hq, rfl⟩ := of_map_ok h
    obtain ⟨hsound, -, hlook⟩ := Scan.remove_ok hs hq
    exact ⟨hsound, rfl, hlook⟩

/-! ### When an operation succeeds, and how it is refused -/

theorem member?_eq_none_iff {p : Epoll} :
    (Poller.epoll p).registration? fd = none ↔ p.member? fd = none := by
  rw [registration?_epoll, Option.map_eq_none_iff]

theorem contains_iff {s : Scan} (hs : s.Sound) :
    s.tokens.contains fd = true ↔ (Poller.scan s).registration? fd ≠ none := by
  rw [registration?_scan, ne_eq, Scan.entry?_eq_none_iff hs, ← ne_eq, ← Option.isSome_iff_ne_none]
  rfl

theorem add_succeeds (token : Token) (i : Interest) (hs : p.Sound)
    (hr : p.registration? fd = none) (hadm : p.backend.Admits (view.status fd)) :
    ∃ q, p.add view fd token i = .ok q := by
  cases p with
  | epoll p =>
    obtain ⟨c, hc⟩ := hadm
    have href := Epoll.not_refused (p := p) .add hc (by simp [member?_eq_none_iff.mp hr])
    exact ⟨_, by simp [add, Epoll.add, href, Except.map]; rfl⟩
  | scan s =>
    have hc : ¬ s.tokens.contains fd = true := fun h => (contains_iff hs).mp h hr
    exact ⟨_, by simp [add, Scan.add, FdTable.insert, hc, Except.map]; rfl⟩

theorem add_refused (token : Token) (i : Interest) (hs : p.Sound)
    (hr : p.registration? fd ≠ none) (hadm : p.backend.Admits (view.status fd)) :
    p.add view fd token i = .error (.alreadyRegistered fd) := by
  cases p with
  | epoll p =>
    obtain ⟨c, hc⟩ := hadm
    obtain ⟨e, href, herr⟩ := Epoll.refused (p := p) .add hc (by
      simpa using member?_eq_none_iff.not.mp hr)
    simp [add, Epoll.add, href, herr, Except.map]
  | scan s =>
    have hc := (contains_iff hs).mpr hr
    simp [add, Scan.add, FdTable.insert, hc, Except.map]

theorem update_refused (token : Token) (i : Interest) (hs : p.Sound)
    (hr : p.registration? fd = none) (hadm : p.backend.Admits (view.status fd)) :
    p.update view fd token i = .error (.notRegistered fd) := by
  cases p with
  | epoll p =>
    obtain ⟨c, hc⟩ := hadm
    obtain ⟨e, href, herr⟩ := Epoll.refused (p := p) .update hc (by
      simp [member?_eq_none_iff.mp hr])
    simp [update, Epoll.update, href, herr, Except.map]
  | scan s =>
    have hc : ¬ s.tokens.contains fd = true := fun h => (contains_iff hs).mp h hr
    simp [update, Scan.update, FdTable.replace, hc, Except.map]

theorem remove_refused (hs : p.Sound) (hr : p.registration? fd = none)
    (hadm : p.backend.Admits (view.status fd)) :
    p.remove view fd = .error (.notRegistered fd) := by
  cases p with
  | epoll p =>
    obtain ⟨c, hc⟩ := hadm
    obtain ⟨e, href, herr⟩ := Epoll.refused (p := p) .remove hc (by
      simp [member?_eq_none_iff.mp hr])
    simp [remove, Epoll.remove, href, herr, Except.map]
  | scan s =>
    have hget : s.tokens.get? fd = none := by
      rwa [registration?_scan, Scan.entry?_eq_none_iff hs] at hr
    simp [remove, Scan.remove, FdTable.remove, hget, Except.map]

theorem update_succeeds (token : Token) (i : Interest) {r : Token × Interest} (hs : p.Sound)
    (hr : p.registration? fd = some r) (hadm : p.backend.Admits (view.status fd)) :
    ∃ q, p.update view fd token i = .ok q := by
  cases p with
  | epoll p =>
    obtain ⟨c, hc⟩ := hadm
    obtain ⟨m, hm, -⟩ := Option.map_eq_some_iff.mp hr
    have hmem : p.member? fd ≠ none := fun hn => by
      rw [Epoll.member?, lookUp, hm] at hn; cases hn
    have href := Epoll.not_refused (p := p) .update hc (by simp [hmem])
    exact ⟨_, by simp [update, Epoll.update, href, Except.map]; rfl⟩
  | scan s =>
    have hget : s.tokens.get? fd ≠ none := fun hn => by
      rw [registration?_scan, (Scan.entry?_eq_none_iff hs).mpr hn] at hr; cases hr
    have hc : s.tokens.contains fd = true := by
      simpa [FdTable.contains, Table.contains, FdTable.get?, Option.isSome_iff_ne_none] using hget
    exact ⟨_, by simp [update, Scan.update, FdTable.replace, hc, Except.map]; rfl⟩

theorem remove_succeeds {r : Token × Interest} (hs : p.Sound) (hr : p.registration? fd = some r)
    (hadm : p.backend.Admits (view.status fd)) : ∃ q, p.remove view fd = .ok q := by
  cases p with
  | epoll p =>
    obtain ⟨c, hc⟩ := hadm
    obtain ⟨m, hm, -⟩ := Option.map_eq_some_iff.mp hr
    have hmem : p.member? fd ≠ none := fun hn => by
      rw [Epoll.member?, lookUp, hm] at hn; cases hn
    have href := Epoll.not_refused (p := p) .remove hc (by simp [hmem])
    exact ⟨_, by simp [remove, Epoll.remove, href, Except.map]; rfl⟩
  | scan s =>
    cases hget : s.tokens.get? fd with
    | none =>
      rw [registration?_scan, (Scan.entry?_eq_none_iff hs).mpr hget] at hr
      cases hr
    | some token => exact ⟨_, by simp [remove, Scan.remove, FdTable.remove, hget, Except.map]; rfl⟩

/-! ### Waiting and listing -/

theorem wait_ok {o : Option ReadyList} (hs : p.Sound) (h : p.wait view = .ok (o, q)) :
    q.Sound ∧ q.backend = p.backend ∧ ∀ fd, q.registration? fd = p.registration? fd := by
  cases p with
  | epoll p =>
    obtain ⟨r, hr, hq⟩ := of_map_ok h
    obtain ⟨-, rfl⟩ := Prod.mk.injEq .. |>.mp hq
    unfold Epoll.wait at hr
    split at hr <;> cases hr
    · exact ⟨hs, rfl, fun _ => rfl⟩
    · exact ⟨⟨hs.nodup, hs.counted⟩, rfl, fun _ => rfl⟩
  | scan s =>
    obtain ⟨r, hr, hq⟩ := of_map_ok h
    obtain ⟨-, rfl⟩ := Prod.mk.injEq .. |>.mp hq
    unfold Scan.wait at hr
    split at hr
    · cases hr; exact ⟨hs, rfl, fun _ => rfl⟩
    · split at hr <;> cases hr
      exact ⟨⟨hs.nodup, hs.tokens⟩, rfl, fun _ => rfl⟩

/-- Looking up and listing agree, so that what is known of one descriptor is known of the list and
the other way round. -/
theorem mem_registrations (hs : p.Sound) {m : Registration} :
    m ∈ p.registrations ↔ p.registration? m.fd = some (m.token, m.interest) := by
  cases p with
  | epoll p =>
    rw [registration?_epoll, Option.map_eq_some_iff]
    constructor
    · intro hm
      exact ⟨m, (lookUp_eq_some_iff hs.nodup).mpr ⟨hm, rfl⟩, rfl⟩
    · rintro ⟨m', hm', heq⟩
      obtain ⟨hmem, hkey⟩ := key_of_lookUp hm'
      obtain ⟨htoken, hint⟩ := Prod.mk.injEq .. |>.mp heq
      have : m' = m := by
        cases m; cases m'; simp_all
      exact this ▸ hmem
  | scan s =>
    rw [registration?_scan, Scan.entry?_eq_some_iff, lookUp_eq_some_iff hs.nodup]
    simp only [registrations, List.mem_filterMap, Option.map_eq_some_iff]
    constructor
    · rintro ⟨⟨fd, i⟩, hmem, token, htoken, rfl⟩
      exact ⟨htoken, hmem, trivial⟩
    · rintro ⟨htoken, hmem, -⟩
      exact ⟨(m.fd, m.interest), hmem, m.token, htoken, rfl⟩

theorem nodup_registrations (hs : p.Sound) : (p.registrations.map (·.fd)).Nodup := by
  cases p with
  | epoll p => exact hs.nodup
  | scan s =>
    refine hs.nodup.sublist ?_
    simp only [registrations]
    induction s.watched with
    | nil => exact List.Sublist.refl _
    | cons w rest ih =>
      rw [List.filterMap_cons]
      cases s.tokens.get? w.1 with
      | none => exact ih.cons _
      | some token => exact ih.cons_cons _

theorem length_watched {s : Scan} (hs : s.Sound) : s.size = s.watched.length := by
  have hkeys : s.tokens.fds.Perm (s.watched.map (·.1)) := by
    refine (List.perm_ext_iff_of_nodup ?_ hs.nodup).mpr fun fd => ?_
    · exact (Table.keys_pairwise _).imp fun h => Int.ne_of_lt h
    · rw [FdTable.fds, ← Table.contains_iff_mem_keys, Table.contains, Option.isSome_iff_ne_none,
        ← not_iff_not, not_not, ← lookUp_eq_none_iff]
      exact hs.tokens fd
  have hlen := hkeys.length_eq
  rwa [FdTable.fds, Table.length_keys, List.length_map] at hlen

theorem size_eq (hs : p.Sound) : p.size = p.registrations.length := by
  cases p with
  | epoll p => exact hs.counted
  | scan s =>
    have hall : ∀ w ∈ s.watched, ∃ token, s.tokens.get? w.1 = some token := fun w hw => by
      refine Option.ne_none_iff_exists'.mp fun hnone => ?_
      exact lookUp_eq_none_iff.mp ((hs.tokens w.1).mp hnone) (List.mem_map_of_mem hw)
    refine (length_watched hs).trans ?_
    simp only [registrations]
    generalize s.watched = watched at hall
    induction watched with
    | nil => rfl
    | cons w rest ih =>
      obtain ⟨token, htoken⟩ := hall w (List.mem_cons_self ..)
      rw [List.filterMap_cons, htoken, Option.map_some, List.length_cons, List.length_cons,
        ih fun w hw => hall w (List.mem_cons_of_mem _ hw)]

/-! ### What a wait finds -/

/-- Nothing is found only where nothing is registered. Registered descriptors of which none is ready
are something that was found: an empty list. -/
theorem wait_none_iff {o : Option ReadyList} (hs : p.Sound) (h : p.wait view = .ok (o, q)) :
    o = none ↔ p.registrations = [] := by
  rw [← List.length_eq_zero_iff, ← size_eq hs]
  cases p with
  | epoll p =>
    obtain ⟨r, hr, hq⟩ := of_map_ok h
    obtain ⟨rfl, -⟩ := Prod.mk.injEq .. |>.mp hq
    unfold Epoll.wait at hr
    split at hr
    · next hzero => cases hr; exact iff_of_true rfl hzero
    · next hpos => cases hr; exact iff_of_false (Option.some_ne_none _) hpos
  | scan s =>
    obtain ⟨r, hr, hq⟩ := of_map_ok h
    obtain ⟨rfl, -⟩ := Prod.mk.injEq .. |>.mp hq
    have hsize : (Poller.scan s).size = s.watched.length := length_watched hs
    rw [hsize, List.length_eq_zero_iff, ← List.isEmpty_iff]
    unfold Scan.wait at hr
    split at hr
    · next hnil => cases hr; exact iff_of_true rfl hnil
    · next hcons =>
      split at hr <;> cases hr
      exact iff_of_false (Option.some_ne_none _) hcons

/-- A wait only fails where a scan names more descriptors than the process is allowed. An event set
names none when it waits. -/
theorem wait_succeeds (p : Poller) (hx : p.backend = .poll → view.exhausted = false) :
    ∃ o q, p.wait view = .ok (o, q) := by
  cases p with
  | epoll p =>
    unfold wait Epoll.wait
    dsimp only
    split <;> exact ⟨_, _, rfl⟩
  | scan s =>
    unfold wait Scan.wait
    dsimp only
    rw [hx rfl]
    split <;> exact ⟨_, _, rfl⟩

/-- A scan that found something was within the allowance of the process. -/
theorem exhausted_of_wait {ready : ReadyList} (h : p.wait view = .ok (some ready, q))
    (hb : p.backend = .poll) : view.exhausted = false := by
  cases p with
  | epoll p => cases hb
  | scan s =>
    obtain ⟨r, hr, hq⟩ := of_map_ok h
    obtain ⟨hsome, -⟩ := Prod.mk.injEq .. |>.mp hq
    unfold Scan.wait at hr
    split at hr
    · cases hr
      cases hsome
    · split at hr
      · cases hr
      · next hallowed => exact (Bool.not_eq_true _).mp hallowed

/-- What a wait finds are reports of registrations, and all of them where every registered
descriptor is one that could be registered now. -/
theorem wait_found {ready : ReadyList} (hs : p.Sound) (h : p.wait view = .ok (some ready, q)) :
    (∀ e ∈ ready.events, ∃ m ∈ p.registrations, m.report? view = some e)
      ∧ ((∀ m ∈ p.registrations, p.backend.Admits (view.status m.fd)) →
        ready.events = p.registrations.filterMap (·.report? view)) := by
  cases p with
  | epoll p =>
    obtain ⟨r, hr, hq⟩ := of_map_ok h
    obtain ⟨hready, -⟩ := Prod.mk.injEq .. |>.mp hq
    unfold Epoll.wait at hr
    split at hr <;> cases hr
    · cases hready
    · cases hready
      have hlook (m : Registration) (hm : ∃ c, view.status m.fd = .live c) :
          Epoll.look view m = m.report? view := by
        obtain ⟨c, hc⟩ := hm
        rw [Epoll.look, Registration.report?, hc]
        rfl
      rw [ReadyList.events_report, List.take_of_length_le]
      · refine ⟨fun e he => ?_, fun hlive => List.filterMap_congr fun m hm => hlook m (hlive m hm)⟩
        obtain ⟨m, hm, he⟩ := List.mem_filterMap.mp he
        refine ⟨m, hm, ?_⟩
        rw [← hlook m ?_, he]
        unfold Epoll.look at he
        split at he
        · next c hc => exact ⟨c, hc⟩
        · cases he
        · cases he
      · rw [hs.counted]
        exact List.length_filterMap_le _ _
  | scan s =>
    obtain ⟨r, hr, hq⟩ := of_map_ok h
    obtain ⟨hready, -⟩ := Prod.mk.injEq .. |>.mp hq
    have hlook : s.watched.filterMap (s.look view)
        = (Poller.scan s).registrations.filterMap (·.report? view) := by
      rw [registrations, List.filterMap_filterMap]
      refine List.filterMap_congr fun w _ => ?_
      unfold Scan.look
      cases s.tokens.get? w.1 <;> rfl
    unfold Scan.wait at hr
    split at hr
    · cases hr; cases hready
    · split at hr <;> cases hr
      cases hready
      rw [ReadyList.events_report, hlook]
      exact ⟨fun e he => List.mem_filterMap.mp he, fun _ => rfl⟩

/-- Pollers that register the same list the same, but for the order. They may be of different
backends, and have come to it by different changes. -/
theorem registrations_perm_of (hp : p.Sound) (hq : q.Sound)
    (h : ∀ fd, q.registration? fd = p.registration? fd) : q.registrations.Perm p.registrations := by
  refine (List.perm_ext_iff_of_nodup (nodup_registrations hq).of_map
    (nodup_registrations hp).of_map).mpr fun m => ?_
  rw [mem_registrations hq, mem_registrations hp, h]

/-- A wait that follows one that found something finds the same, if nothing has happened since. The
order may be another, since the two pollers may have been changed in between and changed back. -/
theorem wait_again {p' : Poller} {ready : ReadyList} (hp : p.Sound) (hq : q.Sound)
    (hbackend : q.backend = p.backend) (hreg : ∀ fd, q.registration? fd = p.registration? fd)
    (hadm : ∀ m ∈ p.registrations, p.backend.Admits (view.status m.fd))
    (h : p.wait view = .ok (some ready, p')) :
    ∃ ready' q', q.wait view = .ok (some ready', q') ∧ ready'.events.Perm ready.events := by
  have hperm := registrations_perm_of hp hq hreg
  obtain ⟨o, q', hwait⟩ := q.wait_succeeds fun hb => exhausted_of_wait h (hbackend ▸ hb)
  cases o with
  | none =>
    have hnil := (wait_none_iff hq hwait).mp rfl
    rw [hnil, List.nil_perm] at hperm
    cases (wait_none_iff hp h).mpr hperm
  | some ready' =>
    refine ⟨ready', q', hwait, ?_⟩
    rw [(wait_found hp h).2 hadm, (wait_found hq hwait).2 fun m hm => by
      rw [hbackend]
      exact hadm m (hperm.mem_iff.mp hm)]
    exact hperm.filterMap _

end Poller

end Sluice
