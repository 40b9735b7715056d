import Sluice.Proofs.Pair.Progress
import Sluice.Proofs.Worker.Turns

/-!
# Progress of a batch

What counts as progress (`Worker.Progress`): bytes pass a file or the control pipe, a pending error
is taken, flags change, a session comes or goes. A batch of events that a wait has found makes
progress as soon as one of them is not bare, and leaves everything as it was when all of them are
(`leads_handleBatch_found`): up to the first event that is not bare nothing changes (`Unmoved`),
that one makes a stride or dooms a session, and strides are not taken back (`Advanced`).
-/

namespace Sluice

def Session.flags (s : Session) : Bool × Bool × Bool × Bool :=
  (s.awaitingConnect, s.awaitingReadable, s.awaitingWritable, s.closeAfterFlush)

namespace Worker

variable {w w' w₀ w₁ : Worker} {id pid : SessionId} {s p : Session} {a b : Half} {i j : Interest}
  {e : Event} {stop : Bool} {given : List Descriptor} {unsent : List UInt8}

/-! ## Progress -/

/-- Something has come about from `w` to `w'`. -/
inductive Progress (w w' : Worker) : Prop
  /-- A byte was read from a file. -/
  | read {fd : Descriptor}
      (h : (w.host.file fd).received.length < (w'.host.file fd).received.length)
  /-- A byte was written to a file. -/
  | written {fd : Descriptor} (h : (w.host.file fd).sent.length < (w'.host.file fd).sent.length)
  /-- A byte was read from the control pipe. -/
  | drained (h : w'.control.queued ≠ w.control.queued)
  /-- A pending error was taken. -/
  | taken {fd : Descriptor} (h : (w.host.file fd).fault? ≠ none)
      (h' : (w'.host.file fd).fault? = none)
  | flagged {id : SessionId} {s s' : Session} (hs : w.session? id = some s)
      (hs' : w'.session? id = some s') (h : s'.flags ≠ s.flags)
  | created {id : SessionId} (h : w.session? id = none) (h' : w'.session? id ≠ none)
  | destroyed {id : SessionId} (h : w.session? id ≠ none) (h' : w'.session? id = none)

/-- From `w` to `w'` no session, no file and no registration has changed, and nothing in the control
pipe. -/
structure Unmoved (w w' : Worker) : Prop where
  sessions : ∀ id, w'.session? id = w.session? id
  files : ∀ fd, w'.host.file fd = w.host.file fd
  watched : ∀ fd, w'.poller.registration? fd = w.poller.registration? fd
  backend : w'.poller.backend = w.poller.backend
  control : w'.control = w.control
  settings : w'.settings = w.settings
  exhausted : w'.host.exhausted = w.host.exhausted

namespace Unmoved

theorem refl (w : Worker) : Unmoved w w :=
  ⟨fun _ => rfl, fun _ => rfl, fun _ => rfl, rfl, rfl, rfl, rfl⟩

theorem trans (h : Unmoved w w₁) (h' : Unmoved w₁ w') : Unmoved w w' where
  sessions id := (h'.sessions id).trans (h.sessions id)
  files fd := (h'.files fd).trans (h.files fd)
  watched fd := (h'.watched fd).trans (h.watched fd)
  backend := h'.backend.trans h.backend
  control := h'.control.trans h.control
  settings := h'.settings.trans h.settings
  exhausted := h'.exhausted.trans h.exhausted

theorem of_wait {found : Option ReadyList} {poller : Poller} (h : w.Sound)
    (hwait : w.poller.wait w.view = .ok (found, poller)) : Unmoved w { w with poller } := by
  obtain ⟨-, hbackend, hreg⟩ := Poller.wait_ok h.enrolled.poller hwait
  exact ⟨fun _ => rfl, fun _ => rfl, hreg, hbackend, rfl, rfl, rfl⟩

theorem half_eq (h : Unmoved w w') (s : Session) : w'.half s = w.half s := by
  rw [half, half, h.files]

theorem not_progress (h : Unmoved w w') : ¬ Progress w w' := by
  intro hp
  cases hp with
  | read hlt =>
    rw [h.files] at hlt
    exact Nat.lt_irrefl _ hlt
  | written hlt =>
    rw [h.files] at hlt
    exact Nat.lt_irrefl _ hlt
  | drained hne => exact hne (congrArg Channel.queued h.control)
  | taken hsome hnone =>
    rw [h.files] at hnone
    exact hsome hnone
  | flagged hs hs' hne =>
    obtain rfl := Option.some.inj (((h.sessions _).symm.trans hs').symm.trans hs)
    exact hne rfl
  | created hnone hsome => exact hsome ((h.sessions _).trans hnone)
  | destroyed hsome hnone => exact hsome ((h.sessions _).symm.trans hnone)

end Unmoved

/-- Nothing has changed if what may have changed is held as before. It reduces an event that comes
to nothing to the halves of its session and of that one's peer. -/
theorem Within.unmoved {ids : List SessionId} {fds : List Descriptor} (h : Within ids fds w w')
    (hids : ∀ id ∈ ids, w'.session? id = w.session? id)
    (hfds : ∀ fd ∈ fds, w'.host.file fd = w.host.file fd
      ∧ w'.poller.registration? fd = w.poller.registration? fd) : Unmoved w w' where
  sessions id := by
    by_cases hm : id ∈ ids
    · exact hids id hm
    · exact h.sessions id hm
  files fd := by
    by_cases hm : fd ∈ fds
    · exact (hfds fd hm).1
    · exact h.files fd hm
  watched fd := by
    by_cases hm : fd ∈ fds
    · exact (hfds fd hm).2
    · exact h.watched fd hm
  backend := h.backend
  control := h.control
  settings := h.settings
  exhausted := h.exhausted

theorem Holds.unmoved (h : w.Holds id a i) (h' : w'.Holds id a i) :
    w'.session? id = w.session? id ∧ w'.host.file a.session.fd = w.host.file a.session.fd
      ∧ w'.poller.registration? a.session.fd = w.poller.registration? a.session.fd :=
  ⟨h'.session.trans h.session.symm, h'.file.trans h.file.symm, h'.watched.trans h.watched.symm⟩

theorem Tends.unmoved (ht : Tends w w' id a i) (h : w.Holds id a i) : Unmoved w w' := by
  obtain ⟨hsession, hfile⟩ := h.unmoved ht.holds
  exact ht.within.unmoved (by simpa using hsession) (by simpa using hfile)

theorem Serves.unmoved (hv : Serves w w' id pid a b i j) (ha : w.Holds id a i)
    (hb : w.Holds pid b j) : Unmoved w w' := by
  obtain ⟨hself, hfile⟩ := ha.unmoved hv.self
  obtain ⟨hpeer, hfile'⟩ := hb.unmoved hv.peer
  exact hv.within.unmoved (by simpa using ⟨hself, hpeer⟩) (by simpa using ⟨hfile, hfile'⟩)

/-! ## Events -/

/-- The event is what a poller reports of the control pipe or of a session. -/
def Reported (w : Worker) (e : Event) : Prop :=
  (e.token = .control ∧ w.control.conditions.event? .control .readable = some e)
    ∨ ∃ s, w.session? (Session.ofToken e.token) = some s ∧ (w.half s).Reported e

/-- The event is that of a session, which is neither readable nor writable for what it waits for and
has no error pending: a mere hangup. -/
def Bare (w : Worker) (e : Event) : Prop :=
  ∃ s, w.session? (Session.ofToken e.token) = some s ∧ (w.half s).Bare e

def Prompt (w : Worker) : Prop :=
  ∀ id s, w.session? id = some s → (w.half s).file.Prompt

instance (w : Worker) : Decidable w.Prompt :=
  decidable_of_iff (∀ x ∈ w.sessions.toList, (w.half x.2).file.Prompt)
    ⟨fun h id s hs => h (id, s) (Arena.mem_toList.mpr hs),
      fun h x hx => h x.1 x.2 (Arena.mem_toList.mp hx)⟩

theorem Sound.scanned_status (h : w.Sound) (hs : w.session? id = some s) :
    (w.view.status s.fd).scanned s.fd = (w.half s).file.ready := by
  have hview : w.view.status s.fd = (w.half s).file.status := if_neg (h.fd_ne_control hs)
  rw [hview, File.scanned_status s.fd (h.held id s hs).isOpen]

theorem Sound.reported_of_wait {ready : ReadyList} {poller : Poller} (h : w.Sound)
    (hwait : w.poller.wait w.view = .ok (some ready, poller)) (he : e ∈ ready.events) :
    w.Reported e := by
  refine (h.found_by_wait hwait he).imp_right ?_
  rintro ⟨id, s, htoken, hs, hreport⟩
  rw [h.scanned_status hs, ← htoken] at hreport
  refine ⟨s, ?_, hreport⟩
  rw [htoken, Session.ofToken_token, hs]

theorem Sound.not_bare_control (h : w.Sound) (hcontrol : e.token = .control) : ¬ w.Bare e := by
  rintro ⟨s, hs, -⟩
  rw [hcontrol] at hs
  exact h.stocked.token_ne_control hs rfl

/-- A report on the control pipe while its sender is there is about bytes in it. A closed pipe would
be reported as well, with nothing to read. -/
theorem Sound.control_waits (h : w.Sound) (hreport : w.Reported e) (hcontrol : e.token = .control)
    (hopen : w.control.senderOpen = true) : w.control.queued ≠ [] := by
  rcases hreport with ⟨-, hreport⟩ | ⟨s, hs, -⟩
  · intro hnil
    have hempty : w.control.queue.isEmpty = true := (Fifo.isEmpty_iff _).mpr hnil
    rw [Conditions.event?_eq_none_iff.mpr] at hreport
    · cases hreport
    · simp [Channel.conditions, hempty, hopen]
  · rw [hcontrol] at hs
    exact absurd rfl (h.stocked.token_ne_control hs)

/-- A bare event changes nothing, and neither does it destroy anything: the session stays as it is,
with the same event to come of it. -/
theorem Handled.unmoved (hh : Handled w e stop w') (h : w.Sound) (hbare : w.Bare e) :
    stop = false ∧ Unmoved w w' := by
  obtain ⟨s, hs, hb⟩ := hbare
  have hdrain := Half.drain_of_bare hb
  cases hh with
  | alone hs' _ _ ht =>
    obtain rfl := Option.some.inj (hs'.symm.trans hs)
    rw [hdrain] at ht
    exact ⟨rfl, ht.unmoved (h.held _ _ hs)⟩
  | aloneDoomed hs' _ hr =>
    obtain rfl := Option.some.inj (hs'.symm.trans hs)
    rw [hdrain] at hr
    cases hr
  | pair hs' hp _ hr _ ha =>
    obtain rfl := Option.some.inj (hs'.symm.trans hs)
    rw [Half.onEvent_of_bare _ hb] at hr
    subst hr
    exact ⟨rfl, Serves.unmoved ha (h.held _ _ hs) (h.held _ _ hp)⟩
  | pairDoomed hs' _ _ hr ht =>
    obtain rfl := Option.some.inj (hs'.symm.trans hs)
    rw [Half.onEvent_of_bare _ hb] at hr
    subst hr
    cases ht

theorem Handled.onward (hh : Handled w e false w') (h : w.Sound) : Retains Half.Onward w w' :=
  hh.retains h .refl (fun _ _ hl => Half.onEvent_onward _ e hl) fun _ hd => Half.drain_onward e hd

/-- An event that is not bare makes a stride, unless a session is destroyed. -/
theorem Handled.stride (hh : Handled w e false w') (h : w.Sound)
    (hrounds : 0 < w.settings.maxOpsPerFd) (hs : w.session? (Session.ofToken e.token) = some s)
    (hp : (w.half s).file.Prompt) (hreport : (w.half s).Reported e) (hbare : ¬ (w.half s).Bare e) :
    ∃ x t t', w.session? x = some t ∧ w'.session? x = some t'
      ∧ (w.half t).strides < (w'.half t').strides := by
  cases hh with
  | alone hs' hpeer hr ht =>
    obtain rfl := Option.some.inj (hs'.symm.trans hs)
    rcases Half.drain_advances (h.draining hs hpeer) hp hreport hbare with hdoomed | hlt
    · rw [hr] at hdoomed
      cases hdoomed
    · exact ⟨_, _, _, hs, ht.holds.session, by rw [ht.holds.half_eq]; exact hlt⟩
  | pair hs' hp' hpeer hr hd ha =>
    obtain rfl := Option.some.inj (hs'.symm.trans hs)
    obtain ⟨-, -, hl⟩ := h.linked_peer hs hp' hpeer
    have hadv := Half.onEvent_advances hl hrounds hp hreport hbare
    rw [← hr] at hadv
    rcases hadv with hdoomed | hlt | hlt
    · exact absurd hd hdoomed
    · exact ⟨_, _, _, hs, ha.self.session, by rw [ha.self.half_eq]; exact hlt⟩
    · exact ⟨_, _, _, hp', ha.peer.session, by rw [ha.peer.half_eq]; exact hlt⟩

theorem Destroyed.absent (hd : Destroyed w id w') : w'.session? id = none := by
  cases hd with
  | alone _ _ hr => rw [hr.sessions, if_pos rfl]
  | both _ _ _ _ _ h₁ h₂ =>
    rw [h₂.sessions, h₁.sessions, if_pos rfl]
    split <;> rfl
  | drained _ _ _ hne _ h₁ h₂ =>
    rw [h₂.within.sessions _ (by simpa using hne), h₁.sessions, if_pos rfl]

/-- When an event destroys a session, its own session is gone or the peer of that. Which of the two
it was depends on the outcome, and makes no difference to progress. -/
theorem Handled.gone (hh : Handled w e true w') :
    ∃ x, w'.session? x = none ∧ (x = Session.ofToken e.token
      ∨ ∃ s, w.session? (Session.ofToken e.token) = some s ∧ s.peer = some x) := by
  cases hh with
  | aloneDoomed _ _ _ _ hd => exact ⟨_, hd.absent, Or.inl rfl⟩
  | pairDoomed hs _ hpeer _ ht _ hd =>
    refine ⟨_, hd.absent, ?_⟩
    rcases Outcome.target_cases ht with ⟨-, rfl⟩ | ⟨-, rfl⟩
    · exact Or.inl rfl
    · exact Or.inr ⟨_, hs, hpeer⟩

/-! ## Strides that were made -/

/-- Since `w₀` no session has gone and no half has gone back, and a stride was made or the control
pipe was emptied. -/
structure Advanced (w₀ w : Worker) : Prop where
  onward : Retains Half.Onward w₀ w
  moved : (∃ x t t', w₀.session? x = some t ∧ w.session? x = some t'
      ∧ (w₀.half t).strides < (w.half t').strides)
    ∨ (w₀.control.queued ≠ [] ∧ w.control.queued = [])

theorem Advanced.trans (h : w₀.Advanced w) (hr : Retains Half.Onward w w')
    (hc : w'.control.queued = w.control.queued ∨ w'.control.queued = []) : w₀.Advanced w' := by
  refine ⟨h.onward.trans (fun _ _ _ => Half.Onward.trans) hr, ?_⟩
  rcases h.moved with ⟨x, t, t', ht, ht', hlt⟩ | ⟨hfull, hempty⟩
  · obtain ⟨t'', ht'', hon⟩ := hr x t' ht'
    exact Or.inl ⟨x, t, t'', ht, ht'', Nat.lt_of_lt_of_le hlt hon.strides⟩
  · refine Or.inr ⟨hfull, ?_⟩
    rcases hc with hsame | hnil
    · exact hsame.trans hempty
    · exact hnil

theorem Advanced.progress (h : w₀.Advanced w) : Progress w₀ w := by
  rcases h.moved with ⟨x, t, t', ht, ht', hlt⟩ | ⟨hfull, hempty⟩
  · obtain ⟨t'', ht'', hon⟩ := h.onward x t ht
    obtain rfl := Option.some.inj (ht'.symm.trans ht'')
    have hfd : t'.fd = t.fd := hon.alike.fd
    by_cases hread : (w₀.host.file t.fd).received.length < (w.host.file t.fd).received.length
    · exact .read hread
    · by_cases hsent : (w₀.host.file t.fd).sent.length < (w.host.file t.fd).sent.length
      · exact .written hsent
      · refine .flagged ht ht' fun hflags => ?_
        have hconnect : t'.awaitingConnect = t.awaitingConnect := congrArg Prod.fst hflags
        have hfile : (w.half t').file = w.host.file t.fd := congrArg w.host.file hfd
        have hsession : (w.half t').session.awaitingConnect = t.awaitingConnect := hconnect
        have hsession₀ : (w₀.half t).session = t := rfl
        have hfile₀ : (w₀.half t).file = w₀.host.file t.fd := rfl
        rw [Half.strides, Half.strides, hfile, hfile₀, hsession, hsession₀] at hlt
        omega
  · refine .drained fun heq => hfull ?_
    rw [← heq, hempty]

/-- A session that an event has destroyed was there at the start, so that its being gone is
progress. -/
theorem Handled.destroys (hh : Handled w e true w') (h₀ : w₀.Sound)
    (hon : Retains Half.Onward w₀ w) (hid : w₀.session? (Session.ofToken e.token) ≠ none) :
    Progress w₀ w' := by
  obtain ⟨x, hgone, hx⟩ := hh.gone
  refine Progress.destroyed ?_ hgone
  rcases hx with rfl | ⟨s, hs, hpeer⟩
  · exact hid
  · obtain ⟨s₀, hs₀⟩ := Option.ne_none_iff_exists'.mp hid
    obtain ⟨s', hs', hlike⟩ := hon _ s₀ hs₀
    obtain rfl := Option.some.inj (hs.symm.trans hs')
    have hpeer₀ : s₀.peer = some x := hlike.alike.peer.symm.trans hpeer
    obtain ⟨p, hp, -⟩ := h₀.linked hs₀ List.not_mem_nil hpeer₀
    rw [hp]
    exact Option.some_ne_none p

/-! ## Batches -/

/-- What comes after a stride does not undo it. The induction is on the events; each of them makes
more strides, or destroys a session, or does nothing. -/
theorem leads_handleBatch_advanced (events : List Event) (h₀ : w₀.Sound) (h : w.Sound)
    (hsup : w.Supplied unsent given) (hadv : w₀.Advanced w) (hknown : w₀.Known events) :
    Leads (handleBatch events) w (fun _ w' => Progress w₀ w') anyhow := by
  induction events generalizing w with
  | nil => exact hadv.progress
  | cons e rest ih =>
    have hrest : w₀.Known rest := hknown.tail fun _ hx => hx
    rw [handleBatch, leads_ite]
    constructor
    · intro _
      refine Leads.bind ((leads_onControl h hsup).mono (fun _ _ hq => hq) fun _ _ => trivial) ?_
      rintro _ w₁ ⟨h₁, hsup₁, hadm, -, -, hempty⟩
      exact ih h₁ hsup₁ (hadv.trans (hadm.retains h .refl) (Or.inr hempty)) hrest
    · intro hcontrol
      have hid := (hknown e (List.mem_cons_self ..)).resolve_left hcontrol
      refine Leads.bind (leads_onSessionReady h e fun _ => trivial) fun stop w₁ hh => ?_
      rw [leads_ite]
      constructor
      · rintro rfl
        exact hh.destroys h₀ hadv.onward hid
      · intro hgoes
        rw [Bool.not_eq_true] at hgoes
        subst hgoes
        have hsp := Spares.of_handled h hh
        exact ih (h.handled hh) (hsup.spared hsp)
          (hadv.trans (hh.onward h) (Or.inl (by rw [hsp.control])))
          hrest

theorem Unmoved.onward (h : Unmoved w w') : Retains Half.Onward w w' := by
  intro x t ht
  refine ⟨t, (h.sessions x).trans ht, ?_⟩
  rw [h.half_eq]
  exact .refl _

theorem Unmoved.bare (h : Unmoved w w') (hbare : w.Bare e) : w'.Bare e := by
  obtain ⟨s, hs, hb⟩ := hbare
  exact ⟨s, (h.sessions _).trans hs, by rw [h.half_eq]; exact hb⟩

/-- The first event that is not bare makes a stride, unless a session is destroyed. What was
reported at the beginning of the turn is still true then, because nothing has changed in between. -/
theorem Unmoved.advanced (hun : Unmoved w₀ w) (h : w.Sound) (hh : Handled w e false w')
    (hrounds : 0 < w₀.settings.maxOpsPerFd) (hprompt : w₀.Prompt)
    (hs : w₀.session? (Session.ofToken e.token) = some s) (hreport : (w₀.half s).Reported e)
    (hbare : ¬ w₀.Bare e) : w₀.Advanced w' := by
  have hbare' : ¬ (w₀.half s).Bare e := fun hb => hbare ⟨s, hs, hb⟩
  have hp := hprompt _ s hs
  rw [← hun.half_eq] at hreport hbare' hp
  obtain ⟨x, t, t', ht, ht', hlt⟩ :=
    hh.stride h (hun.settings ▸ hrounds) ((hun.sessions _).trans hs) hp hreport hbare'
  rw [hun.half_eq] at hlt
  exact ⟨hun.onward.trans (fun _ _ _ => Half.Onward.trans) (hh.onward h),
    Or.inl ⟨x, t, t', (hun.sessions x).symm.trans ht, ht', hlt⟩⟩

theorem Unmoved.advanced_control (hun : Unmoved w₀ w) (h₀ : w₀.Sound) (h : w.Sound)
    (hadm : Admitted w w') (hcontrol : e.token = .control) (hreport : w₀.Reported e)
    (hopen : w.control.senderOpen = true) (hempty : w'.control.queued = []) : w₀.Advanced w' := by
  rw [hun.control] at hopen
  exact ⟨hun.onward.trans (fun _ _ _ => Half.Onward.trans) (hadm.retains h .refl),
    Or.inr ⟨h₀.control_waits hreport hcontrol hopen, hempty⟩⟩

/-- What a batch comes to: either all of its events are bare and nothing has changed, or one is not
and there was progress. -/
def CameTo (w₀ : Worker) (events : List Event) (w' : Worker) : Prop :=
  (Unmoved w₀ w' ∧ ∀ e ∈ events, w₀.Bare e) ∨ (Progress w₀ w' ∧ ∃ e ∈ events, ¬ w₀.Bare e)

theorem CameTo.of_bare {rest : List Event} (h : w₀.CameTo rest w') (hbare : w₀.Bare e) :
    w₀.CameTo (e :: rest) w' := by
  rcases h with ⟨hun, hall⟩ | ⟨hp, e', he', hnot⟩
  · refine Or.inl ⟨hun, ?_⟩
    rintro e' (_ | ⟨_, he'⟩)
    · exact hbare
    · exact hall e' he'
  · exact Or.inr ⟨hp, e', List.mem_cons_of_mem e he', hnot⟩

/-- A batch that was found, in a worker in which nothing has changed since, comes to progress unless
all of its events are bare. -/
theorem leads_handleBatch_found (events : List Event) (h₀ : w₀.Sound) (h : w.Sound)
    (hsup : w.Supplied unsent given) (hrounds : 0 < w₀.settings.maxOpsPerFd)
    (hprompt : w₀.Prompt) (hun : Unmoved w₀ w)
    (hreported : ∀ e ∈ events, w₀.Reported e) :
    Leads (handleBatch events) w (fun _ w' => w₀.CameTo events w') anyhow := by
  have hknown : w₀.Known events := fun e he => (hreported e he).imp And.left fun ⟨s, hs, _⟩ => by
    rw [hs]
    exact Option.some_ne_none s
  induction events generalizing w with
  | nil => exact Or.inl ⟨hun, nofun⟩
  | cons e rest ih =>
    have hrest : w₀.Known rest := hknown.tail fun _ hx => hx
    have hreport := hreported e (List.mem_cons_self ..)
    have hdone {w' : Worker} (hbare : ¬ w₀.Bare e) (hp : Progress w₀ w') :
        w₀.CameTo (e :: rest) w' :=
      Or.inr ⟨hp, e, List.mem_cons_self .., hbare⟩
    rw [handleBatch, leads_ite]
    constructor
    · intro hcontrol
      have hbare := h₀.not_bare_control hcontrol
      refine Leads.bind ((leads_onControl h hsup).mono (fun _ _ hq => hq) fun _ _ => trivial) ?_
      rintro _ w₁ ⟨h₁, hsup₁, hadm, -, hopen, hempty⟩
      have hadv := hun.advanced_control h₀ h hadm hcontrol hreport hopen hempty
      exact (leads_handleBatch_advanced rest h₀ h₁ hsup₁ hadv hrest).imp fun _ _ => hdone hbare
    · intro hcontrol
      obtain ⟨s, hs, hseen⟩ := hreport.resolve_left fun hc => hcontrol hc.1
      have hid := (hknown e (List.mem_cons_self ..)).resolve_left hcontrol
      refine Leads.bind (leads_onSessionReady h e fun _ => trivial) fun stop w₁ hh => ?_
      have h₁ := h.handled hh
      have hsup₁ := hsup.spared (Spares.of_handled h hh)
      by_cases hbare : w₀.Bare e
      · obtain ⟨rfl, hun₁⟩ := hh.unmoved h (hun.bare hbare)
        rw [leads_ite]
        refine ⟨fun hstop => absurd hstop Bool.false_ne_true, fun _ => ?_⟩
        exact (ih h₁ hsup₁ (hun.trans hun₁)
          (fun e' he' => hreported e' (List.mem_cons_of_mem e he'))
          hrest).imp fun _ _ hq => hq.of_bare hbare
      · rw [leads_ite]
        constructor
        · rintro rfl
          exact hdone hbare (hh.destroys h₀ hun.onward hid)
        · intro hgoes
          rw [Bool.not_eq_true] at hgoes
          subst hgoes
          have hadv := hun.advanced h hh hrounds hprompt hs hseen hbare
          exact (leads_handleBatch_advanced rest h₀ h₁ hsup₁ hadv hrest).imp fun _ _ => hdone hbare

end Worker

end Sluice
