import Sluice.Proofs.Pair.Endings
import Sluice.Proofs.Worker.Turns

/-!
# Up to the first doomed session

Handling a batch falls into two parts: events are handled until one of them dooms a session, and
that session is destroyed (`handleBatch_eq`). Between the two parts one sees what is about to be
closed. On faultless sockets the doomed session has nothing left to write, or it is spent, and
whoever goes with it has nothing left to write (`Condemned`, `leads_findDoomedIn`).
-/

namespace Sluice.Worker

variable {w w' w₁ : Worker} {id pid : SessionId} {s p : Session} {e : Event}
  {given : List Descriptor} {unsent : List UInt8} {E : Abort → Prop}

/-! ## A batch in two parts -/

/-- Handles a batch of events up to the first one that dooms a session, and names that session. It
is where a batch can be cut in two: what is destroyed is still to be seen. -/
def findDoomedIn : List Event → Act (Option SessionId)
  | [] => return none
  | e :: rest => do
    if e.token = .control then
      onControl
      findDoomedIn rest
    else
      let id := Session.ofToken e.token
      if ((← get).session? id).isNone then fatal (.unknownEvent id)
      match ← findDoomed id e with
      | some target => return some target
      | none => findDoomedIn rest

def destroyDoomed : Option SessionId → Act Unit
  | some target => destroy target
  | none => return

theorem handleBatch_eq (events : List Event) :
    handleBatch events = findDoomedIn events >>= destroyDoomed := by
  induction events with
  | nil => rfl
  | cons e rest ih =>
    rw [handleBatch, findDoomedIn, ih]
    split
    · rw [bind_assoc]
    · simp only [onSessionReady, bind_assoc]
      refine bind_congr fun w => ?_
      split
      · rfl
      · simp only [bind_assoc]
        refine bind_congr fun doomed => ?_
        cases doomed with
        | some target => simp [destroyDoomed]
        | none => simp

/-! ## Whom destroying takes along -/

/-- Whoever is gone after a session was destroyed is that session, or its peer with nothing to
write. -/
theorem Destroyed.gone {x : SessionId} {t : Session} (hd : Destroyed w id w')
    (ht : w.session? x = some t) (hgone : w'.session? x = none) :
    x = id ∨ t.awaitingWritable = false ∧ ∃ s, w.session? id = some s ∧ s.peer = some x := by
  have hretired {v v' : Worker} {y : SessionId} {fd : Descriptor} (hr : Retired v v' y fd)
      (hne : y ≠ x) : v'.session? x = v.session? x := by
    rw [hr.sessions, if_neg hne]
  by_cases hid : id = x
  · exact Or.inl hid.symm
  · refine Or.inr ?_
    cases hd with
    | alone _ _ hr =>
      rw [hretired hr hid, ht] at hgone
      cases hgone
    | @both s p pid w₁ _ hs hp hlink _ hidle h₁ h₂ =>
      by_cases hpid : pid = x
      · subst hpid
        obtain rfl := Option.some.inj (hp.symm.trans ht)
        exact ⟨hidle, s, hs, hlink⟩
      · rw [hretired h₂ hpid, hretired h₁ hid, ht] at hgone
        cases hgone
    | @drained s p pid w₁ _ hs hp hlink _ _ h₁ h₂ =>
      by_cases hpid : x = pid
      · rw [hpid, h₂.holds.session] at hgone
        cases hgone
      · rw [h₂.within.sessions x (by simpa using hpid), hretired h₁ hid, ht] at hgone
        cases hgone

/-- Whoever is gone after a doomed session was destroyed is that session, or its peer. The links are
those of the worker before the event, which has changed none of them. -/
theorem Doomed.gone {x target : SessionId} {t : Session} (hd : Doomed w e target w₁) (h : w.Sound)
    (hdestroyed : Destroyed w₁ target w') (ht : w.session? x = some t)
    (hgone : w'.session? x = none) :
    x = target ∨ t.peer = some target := by
  obtain ⟨q, hq⟩ : ∃ q, w.session? target = some q := by
    obtain ⟨s, hs, rfl | hpeer⟩ := hd.whom
    · exact ⟨s, hs⟩
    · obtain ⟨p, hp, -⟩ := h.linked hs List.not_mem_nil hpeer
      exact ⟨p, hp⟩
  obtain ⟨t₁, ht₁, -⟩ := hd.alike h x t ht
  refine (hdestroyed.gone ht₁ hgone).imp_right ?_
  rintro ⟨-, q₁, hq₁, hlink⟩
  obtain ⟨q', hq', hlike⟩ := hd.alike h target q hq
  obtain rfl := Option.some.inj (hq'.symm.trans hq₁)
  exact (h.linked_peer hq ht (hlike.peer.symm.trans hlink)).1

/-! ## What is doomed -/

/-- Session `id` can be destroyed; if it still has bytes to write, it is spent, and if another
session goes with it, that one has none. -/
structure Condemned (w : Worker) (id : SessionId) : Prop where
  spent : ∀ s, w.session? id = some s → 0 < s.pending → (w.half s).Spent
  alone : ∀ w', destroy id w = .ok ⟨⟩ w' → ∀ x t, w.session? x = some t → w'.session? x = none →
    x ≠ id → t.pending = 0

theorem Sound.condemned_alone (h : w.Sound) (hs : w.session? id = some s) (hpeer : s.peer = none)
    (hf : (w.half s).file.Faultless) (hr : (Half.drain e (w.half s)).1 = true)
    (ht : Tends w w₁ id (Half.drain e (w.half s)).2 (Half.drain e (w.half s)).2.session.interest) :
    w₁.Condemned id := by
  obtain ⟨h₁, hpeer₁⟩ := h.drained hs hpeer ht
  refine ⟨fun t ht' hpos => ?_, fun w' hok x t hx hgone hne => ?_⟩
  · obtain rfl := Option.some.inj (ht.holds.session.symm.trans ht')
    rw [ht.holds.half_eq]
    rcases Half.drain_spent e hf hr with hzero | hrefuses
    · omega
    · exact Or.inr hrefuses
  · have hd := (leads_destroy_alone h₁ ht.holds.session hpeer₁).of_ok hok
    obtain ⟨-, s', hs', hlink⟩ := (hd.gone hx hgone).resolve_left hne
    obtain rfl := Option.some.inj (ht.holds.session.symm.trans hs')
    rw [hpeer₁] at hlink
    cases hlink

/-- A session `id` that was doomed, linked to a session that is fit to go on alone. If that one has
bytes to write it will stay and drain, and otherwise it goes and loses nothing. -/
theorem SoundBut.condemned_pair {except : List SessionId} (h : SoundBut except w)
    (hs : w.session? id = some s) (hp : w.session? pid = some p) (hpeer : s.peer = some pid)
    (hback : p.peer = some id) (hne : id ≠ pid) (hid : id ∈ except) (hpid : pid ∈ except)
    (hspent : (w.half s).Spent) (hfit : (w.half p).Fit) : w.Condemned id := by
  refine ⟨fun t ht _ => ?_, fun w' hok x t hx hgone hxid => ?_⟩
  · obtain rfl := Option.some.inj (hs.symm.trans ht)
    exact hspent
  · have hd := (leads_destroy_pair h hs hp hpeer hback hne hid hpid).of_ok hok
    obtain ⟨hidle, s', hs', hlink⟩ := (hd.gone hx hgone).resolve_left hxid
    obtain rfl := Option.some.inj (hs.symm.trans hs')
    obtain rfl := Option.some.inj (hpeer.symm.trans hlink)
    obtain rfl := Option.some.inj (hp.symm.trans hx)
    refine Nat.eq_zero_of_not_pos fun hpos => ?_
    have hblocked : p.awaitingWritable = true := hfit.session.settled.mpr hpos
    rw [hidle] at hblocked
    cases hblocked

theorem Sound.condemned (h : w.Sound) {r : Outcome} {target : SessionId}
    (hs : w.session? id = some s) (hp : w.session? pid = some p) (hpeer : s.peer = some pid)
    (hback : p.peer = some id) (hne : id ≠ pid) (hk : r.Keeps (w.half s) (w.half p))
    (hspent : r.Spent) (ht : r.target id pid = some target)
    (ha : Attends w w₁ id pid r.self r.peer) : w₁.Condemned target := by
  have h₁ := h.attended hs hp hpeer hback hk ha
  have hpeer₁ : r.self.session.peer = some pid := hk.self.peer.trans hpeer
  have hback₁ : r.peer.session.peer = some id := hk.peer.peer.trans hback
  rcases Outcome.target_cases ht with ⟨hside, rfl⟩ | ⟨hside, rfl⟩
  · refine h₁.condemned_pair ha.self.session ha.peer.session hpeer₁ hback₁ hne (by simp) (by simp)
      ?_ ?_
    · rw [ha.self.half_eq]
      exact hspent _ hside
    · rw [ha.peer.half_eq]
      exact (hk.linked_of_self hside).symm.fit
  · refine h₁.condemned_pair ha.peer.session ha.self.session hback₁ hpeer₁ hne.symm (by simp)
      (by simp) ?_ ?_
    · rw [ha.peer.half_eq]
      exact hspent _ hside
    · rw [ha.self.half_eq]
      exact hk.fit

/-! ## Faultless sessions -/

/-- The sessions `among` are there, with their peers among them, and no call fails by itself on
their sockets. -/
def FaultlessAmong (among : SessionId → Prop) (w : Worker) : Prop :=
  ∀ id, among id → ∃ s, w.session? id = some s ∧ (w.half s).file.Faultless
    ∧ ∀ pid, s.peer = some pid → among pid

variable {among : SessionId → Prop}

theorem FaultlessAmong.retains (h : w.FaultlessAmong among) (hr : Retains Half.Alike w w') :
    w'.FaultlessAmong among := by
  intro id hid
  obtain ⟨s, hs, hf, hpeer⟩ := h id hid
  obtain ⟨s', hs', hlike⟩ := hr id s hs
  refine ⟨s', hs', hf.used hlike.used, fun pid hpid => hpeer pid ?_⟩
  exact hlike.peer.symm.trans hpid

/-- What an event has made of the worker when nothing is destroyed yet: it has doomed a session, or
it was handled. All sessions are there still. -/
def Judged (w : Worker) (e : Event) (doomed : Option SessionId) (w₁ : Worker) : Prop :=
  (∀ x, w.session? x ≠ none → w₁.session? x ≠ none)
    ∧ match doomed with
      | some target => w₁.Condemned target
      | none => Handled w e false w₁

theorem leads_findDoomed_faultless (h : w.Sound) (hf : w.FaultlessAmong among)
    (hid : among (Session.ofToken e.token)) :
    Leads (findDoomed (Session.ofToken e.token) e) w (Judged w e) E := by
  obtain ⟨s, hs, hfs, hpeers⟩ := hf _ hid
  refine (leads_findDoomed_verdict h hs).of_never.imp fun doomed w₁ hv => ?_
  cases doomed with
  | none => exact ⟨fun _ => (hv.alike h).stays, hv⟩
  | some target =>
    refine ⟨fun _ => (hv.alike h).stays, ?_⟩
    cases hv with
    | alone hs' hpeer hr ht =>
      obtain rfl := Option.some.inj (hs'.symm.trans hs)
      exact h.condemned_alone hs hpeer hfs hr ht
    | @pair _ p pid _ r _ hs' hp hpeer hr ht ha =>
      obtain rfl := Option.some.inj (hs'.symm.trans hs)
      obtain ⟨hback, hne, hk⟩ := h.event_keeps hs hp hpeer hr
      obtain ⟨-, -, hl⟩ := h.linked_peer hs hp hpeer
      obtain ⟨p', hp', hfp, -⟩ := hf pid (hpeers pid hpeer)
      obtain rfl := Option.some.inj (hp.symm.trans hp')
      have hroom : 0 < p.staging.buffer.length := by
        rw [h.stocked.buffers pid p hp, h.stocked.size]
        exact h.stocked.positive
      have hspent := Half.Steady.spent_onEvent w.settings.maxOpsPerFd e ⟨hl, hfs, hfp, hroom⟩
      rw [← hr] at hspent
      exact h.condemned hs hp hpeer hback hne hk hspent ht ha

/-- A batch of events of the sessions `among`, up to the one that dooms a session. The induction is
on the events; none of them takes a session away, so that what is asked of `among` stays true. -/
theorem leads_findDoomedIn (events : List Event) (h : w.Sound) (hsup : w.Supplied unsent given)
    (hf : w.FaultlessAmong among)
    (hknown : ∀ e ∈ events, e.token = .control ∨ among (Session.ofToken e.token)) :
    Leads (findDoomedIn events) w (fun doomed w₁ =>
      (∀ x, w.session? x ≠ none → w₁.session? x ≠ none)
        ∧ ∀ target, doomed = some target → w₁.Condemned target) anyhow := by
  induction events generalizing w with
  | nil => exact ⟨fun _ hx => hx, nofun⟩
  | cons e rest ih =>
    have hrest : ∀ e ∈ rest, e.token = .control ∨ among (Session.ofToken e.token) :=
      fun e' he' => hknown e' (List.mem_cons_of_mem e he')
    rw [findDoomedIn, leads_ite]
    constructor
    · intro _
      refine Leads.bind ((leads_onControl h hsup).mono (fun _ _ hq => hq) fun _ _ => trivial) ?_
      rintro _ w₁ ⟨h₁, hsup₁, hadm, -⟩
      have hretains := hadm.retains h Half.Alike.refl
      exact (ih h₁ hsup₁ (hf.retains hretains) hrest).imp fun _ _ hq =>
        ⟨fun x hx => hq.1 x (hretains.stays hx), hq.2⟩
    · intro hcontrol
      have hid := (hknown e (List.mem_cons_self ..)).resolve_left hcontrol
      obtain ⟨s, hs, -⟩ := hf _ hid
      rw [leads_bind, leads_get]
      dsimp only
      rw [hs, leads_ite]
      refine ⟨nofun, fun _ => ?_⟩
      refine Leads.bind (leads_findDoomed_faultless h hf hid) ?_
      rintro doomed w₁ ⟨hstay, hdoomed⟩
      cases doomed with
      | some target =>
        refine ⟨hstay, fun target' heq => ?_⟩
        obtain rfl := Option.some.inj heq
        exact hdoomed
      | none =>
        have hsup₁ := hsup.spared (Spares.of_handled h hdoomed)
        exact (ih (h.handled hdoomed) hsup₁ (hf.retains (hdoomed.alike h)) hrest).imp fun _ _ hq =>
          ⟨fun x hx => hq.1 x (hstay x hx), hq.2⟩

end Sluice.Worker
