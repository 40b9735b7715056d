import Sluice.Proofs.Worker.Bystanders
import Sluice.Proofs.Worker.Intake

/-!
# Turns that keep the invariant

A turn waits and handles what it finds, in whatever order it is handed (`Worker.turnIn`). It keeps
the worker in order, the clients on their way, and whatever else each event of a session and each
client taken in keeps (`leads_turnIn`). When a turn stops although nothing has failed outside
(`Undisturbed`), then for want of memory.
-/

namespace Sluice.Worker

variable {w w' : Worker} {e : Event} {stop : Bool} {given : List Descriptor}
  {unsent : List UInt8}

/-! ## Batches -/

theorem Spares.loose (h : Spares w w') {fd : Descriptor} (hl : w.Loose fd) : w'.Loose fd :=
  ⟨by rw [h.files fd hl.2]; exact hl.1, mt (h.owned fd) hl.2⟩

theorem Supplied.spared (hsup : w.Supplied unsent given) (h : Spares w w') :
    w'.Supplied unsent given :=
  hsup.keep h.incoming (by rw [h.control]) fun _ _ hl => h.loose hl

theorem Supplied.waited (hsup : w.Supplied unsent given) (hsessions : w'.sessions = w.sessions)
    (hhost : w'.host = w.host) (hcontrol : w'.control = w.control)
    (hincoming : w'.incoming = w.incoming) :
    w'.Supplied unsent given := by
  refine hsup.keep hincoming (by rw [hcontrol]) fun fd _ hl => ⟨by rw [hhost]; exact hl.1, ?_⟩
  rintro ⟨id, s, hs, hfd⟩
  rw [session?, hsessions] at hs
  exact hl.2 ⟨id, s, hs, hfd⟩

theorem Lasts.of_handled (h : w.Sound) (hh : Handled w e stop w') : Lasts w w' := by
  have hsp := Spares.of_handled h hh
  exact ⟨by rw [hsp.control], by rw [hsp.control], hsp.backend, hsp.exhausted,
    Int.le_of_eq hsp.next.symm, fun fd _ hopen => hh.used h hopen⟩

theorem Admitted.retains {R : Half → Half → Prop} (ha : Admitted w w') (h : w.Sound)
    (hrefl : ∀ a, R a a) : Retains R w w' := by
  intro id s hs
  refine ⟨s, ha.sessions id s hs, ?_⟩
  have hlt := h.housed.next s.fd (h.held id s hs).isOpen
  have hfile := ha.files s.fd hlt fun hl => hl.2 ⟨id, s, hs, rfl⟩
  rw [half, half, hfile]
  exact hrefl _

def Known (w : Worker) (events : List Event) : Prop :=
  ∀ e ∈ events, e.token = .control ∨ w.session? (Session.ofToken e.token) ≠ none

theorem Known.tail {events : List Event} (h : w.Known (e :: events))
    (hstay : ∀ id, w.session? id ≠ none → w'.session? id ≠ none) : w'.Known events :=
  fun e' he' => (h e' (List.mem_cons_of_mem e he')).imp_right (hstay _)

/-- What every event of a session and every intake of clients keeps. With `leads_turnIn` it holds at
the end of every turn, without another walk through the batch. -/
structure Kept (J : Worker → Prop) : Prop where
  handled : ∀ {w w' : Worker} {e : Event} {stop : Bool}, w.Sound → J w → Handled w e stop w' → J w'
  admitted : ∀ {w w' : Worker}, w.Sound → J w → w'.Sound → Admitted w w' → J w'
  waited : ∀ {w w' : Worker}, J w → w'.sessions = w.sessions → w'.host = w.host → J w'

variable {J : Worker → Prop}

theorem leads_handleBatch (hJ : Kept J) (events : List Event) (h : w.Sound)
    (hsup : w.Supplied unsent given) (hj : J w) :
    Leads (handleBatch events) w (fun _ w' => w'.Sound ∧ w'.Supplied unsent given ∧ J w')
      (fun a => w.Known events → w.control.senderOpen = true → w.Excused given a) := by
  induction events generalizing w with
  | nil => exact ⟨h, hsup, hj⟩
  | cons e rest ih =>
    rw [handleBatch]
    rw [leads_ite]
    constructor
    · intro _
      refine Leads.bind ((leads_onControl h hsup).mono (fun _ _ hq => hq) fun a ha _ => ha) ?_
      rintro _ w₁ ⟨h₁, hsup₁, hadm, hlasts, -⟩
      refine (ih h₁ hsup₁ (hJ.admitted h hj h₁ hadm)).mono (fun _ _ hq => hq) ?_
      intro a ha hknown hopen hob
      exact ha (hknown.tail fun _ => (hadm.retains h Half.Alike.refl).stays)
        (hlasts.senderOpen.trans hopen) (hob.lasts hlasts)
    · intro hcontrol
      refine Leads.bind (leads_onSessionReady h e fun hnone hknown _ _ => ?_) fun stop w₁ hh => ?_
      · rcases hknown e (List.mem_cons_self ..) with htoken | hsome
        · exact absurd htoken hcontrol
        · exact absurd hnone hsome
      have h₁ := h.handled hh
      have hlasts := Lasts.of_handled h hh
      have hsup₁ := hsup.spared (Spares.of_handled h hh)
      have hj₁ := hJ.handled h hj hh
      rw [leads_ite]
      refine ⟨fun _ => ⟨h₁, hsup₁, hj₁⟩, fun hgoes => ?_⟩
      rw [Bool.not_eq_true] at hgoes
      subst hgoes
      refine (ih h₁ hsup₁ hj₁).mono (fun _ _ hq => hq) fun a ha hknown hopen hob => ?_
      exact ha (hknown.tail fun _ => (hh.alike h).stays) (hlasts.senderOpen.trans hopen)
        (hob.lasts hlasts)

/-! ## Turns -/

/-- A turn in which the batch that was found is handled as `arrange` puts it. With the identity it
is the turn that runs (`turn_eq`). -/
def turnIn (arrange : List Event → List Event) : Act Unit := do
  handleBatch (arrange (← waitReady))

theorem turn_eq : turn = turnIn (fun events => events) := rfl

/-- What a wait finds is a report on the control pipe or on the file of a session, with the
conditions as they are during the wait. -/
theorem Sound.found_by_wait {ready : ReadyList} {poller : Poller} (h : w.Sound)
    (hwait : w.poller.wait w.view = .ok (some ready, poller)) (he : e ∈ ready.events) :
    (e.token = .control ∧ w.control.conditions.event? .control .readable = some e)
      ∨ ∃ id s, e.token = Session.token id ∧ w.session? id = some s
        ∧ ((w.view.status s.fd).scanned s.fd).event? (Session.token id) s.interest = some e := by
  obtain ⟨m, hm, hreport⟩ := (Poller.wait_found h.enrolled.poller hwait).1 e he
  have htoken : e.token = m.token := Conditions.token_of_event? hreport
  rw [Registration.report?] at hreport
  rcases h.mem_registrations.mp hm with rfl | ⟨id, s, hs, rfl⟩
  · have hview : w.view.status w.control.readFd = .live w.control.conditions := if_pos rfl
    rw [hview] at hreport
    exact Or.inl ⟨htoken, hreport⟩
  · exact Or.inr ⟨id, s, htoken, hs, hreport⟩

theorem Sound.known_of_wait {ready : ReadyList} {poller : Poller} (h : w.Sound)
    (hwait : w.poller.wait w.view = .ok (some ready, poller)) : w.Known ready.events := by
  intro e he
  rcases h.found_by_wait hwait he with ⟨hcontrol, -⟩ | ⟨id, s, htoken, hs, -⟩
  · exact Or.inl hcontrol
  · rw [htoken, Session.ofToken_token, hs]
    exact Or.inr (Option.some_ne_none s)

/-- Waiting leaves the worker in order: the list of events that it fills is no part of that. -/
theorem Sound.waited {found : Option ReadyList} {poller : Poller} (h : w.Sound)
    (hwait : w.poller.wait w.view = .ok (found, poller)) : ({ w with poller } : Worker).Sound := by
  obtain ⟨hsound, hbackend, hreg⟩ := Poller.wait_ok h.enrolled.poller hwait
  exact h.of_same rfl rfl rfl rfl rfl hsound hbackend hreg

theorem waitReady_ok {ready : ReadyList} {poller : Poller}
    (hwait : w.poller.wait w.view = .ok (some ready, poller)) :
    waitReady w = .ok ready.events { w with poller } := by
  have hget : (get : Act Worker) w = .ok w w := rfl
  refine (bind_of_ok hget _).trans ?_
  rw [hwait]
  rfl

/-- A wait finds something registered, for the control pipe is. That nothing is ready is another
matter. -/
theorem Sound.wait_ne_none {found : Option ReadyList} {poller : Poller} (h : w.Sound)
    (hwait : w.poller.wait w.view = .ok (found, poller)) : found ≠ none := by
  intro hnone
  have hnil := (Poller.wait_none_iff h.enrolled.poller hwait).mp hnone
  have hmem := h.mem_registrations.mpr (Or.inl rfl)
  rw [hnil] at hmem
  cases hmem

theorem leads_waitReady (h : w.Sound) :
    Leads waitReady w (fun events w' => w'.Sound ∧ w'.sessions = w.sessions ∧ w'.host = w.host
      ∧ w'.control = w.control ∧ w'.incoming = w.incoming ∧ w'.poller.backend = w.poller.backend
      ∧ w'.Known events)
      (fun _ => ∃ e, w.poller.wait w.view = .error e) := by
  unfold waitReady
  rw [leads_bind, leads_get]
  cases hwait : w.poller.wait w.view with
  | error e => exact ⟨e, rfl⟩
  | ok r =>
    obtain ⟨found, poller⟩ := r
    cases found with
    | none => exact absurd rfl (h.wait_ne_none hwait)
    | some ready =>
      have hbackend := (Poller.wait_ok h.enrolled.poller hwait).2.1
      exact ⟨h.waited hwait, rfl, rfl, rfl, rfl, hbackend, h.known_of_wait hwait⟩

/-- Nothing fails outside: neither the wait nor the control pipe, nor taking in the clients
`given`. -/
structure Undisturbed (w : Worker) (given : List Descriptor) : Prop where
  waits : ∀ e, w.poller.wait w.view ≠ .error e
  senderOpen : w.control.senderOpen = true
  obliging : w.Obliging given

/-- A turn keeps the worker in order, whatever the order in which it handles what it finds.
Undisturbed, it stops for want of memory only. -/
theorem leads_turnIn (hJ : Kept J) (arrange : List Event → List Event) (h : w.Sound)
    (hsup : w.Supplied unsent given) (hj : J w) :
    Leads (turnIn arrange) w (fun _ w' => w'.Sound ∧ w'.Supplied unsent given ∧ J w')
      (fun a => (∀ events, arrange events ⊆ events) → w.Undisturbed given →
        a = .panic .capacityOverflow) := by
  refine Leads.bind ((leads_waitReady h).mono (fun _ _ hq => hq) fun a ha _ hun => ?_) ?_
  · obtain ⟨e, he⟩ := ha
    exact absurd he (hun.waits e)
  rintro events w₁ ⟨h₁, hsessions, hhost, hcontrol, hincoming, hbackend, hknown⟩
  have hlasts : Lasts w w₁ :=
    ⟨by rw [hcontrol], by rw [hcontrol], hbackend, by rw [hhost], Int.le_of_eq (by rw [hhost]),
      fun _ _ _ => hhost ▸ .refl _⟩
  have hsup₁ := hsup.waited hsessions hhost hcontrol hincoming
  refine (leads_handleBatch hJ (arrange events) h₁ hsup₁ (hJ.waited hj hsessions hhost)).mono
    (fun _ _ hq => hq) fun a ha harrange hun => ?_
  exact ha (fun e he => hknown e (harrange events he)) (hlasts.senderOpen.trans hun.senderOpen)
    (hun.obliging.lasts hlasts)

end Sluice.Worker
