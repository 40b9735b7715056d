import Sluice.Proofs.Handoff.Pieces
import Sluice.Proofs.Worker.Admission

/-!
# Taking clients in

What a worker does with the clients that come through its control pipe. Each is a loose file, and
none comes twice (`Worker.Waiting`). Each is received, which means that it becomes one of a pair of
sessions or is closed (`Worker.Received`), and receiving them in turn keeps the worker in order and
the others waiting (`Receives.tookIn`). That is what accepting them comes to
(`leads_acceptClients`); where the outside obliges (`Worker.Obliging`), only memory can run out.

The descriptors still on their way are known before they arrive: they are what the bytes in the
pipe, and those behind them, are the form of (`Worker.Supplied`).
-/

namespace Sluice.Worker

variable {w w' : Worker} {fd : Descriptor} {fds rest given : List Descriptor}
  {unsent : List UInt8}

/-! ## Clients in transit -/

/-- Loose files, none of them twice. A client that was sent twice would belong to two pairs, and the
acceptor sends none twice. -/
structure Waiting (w : Worker) (fds : List Descriptor) : Prop where
  nodup : fds.Nodup
  loose : ∀ fd ∈ fds, w.Loose fd

theorem Waiting.keep (h : w.Waiting fds) (hl : ∀ fd ∈ fds, w.Loose fd → w'.Loose fd) :
    w'.Waiting fds :=
  ⟨h.nodup, fun fd hfd => hl fd hfd (h.loose fd hfd)⟩

/-- No client is left over from the last time that some were taken in, and the bytes in the control
pipe, with `unsent` behind them, are the descriptors of waiting clients, all of them among those
that were `given`. -/
def Supplied (w : Worker) (unsent : List UInt8) (given : List Descriptor) : Prop :=
  w.incoming = []
    ∧ ∃ vs : List Int32, w.control.held ++ w.control.queued ++ unsent = Channel.encoded vs
    ∧ w.Waiting (vs.map Int32.toInt) ∧ vs.map Int32.toInt ⊆ given

theorem Supplied.keep (h : w.Supplied unsent given) (hi : w'.incoming = w.incoming)
    (hc : w'.control.held ++ w'.control.queued = w.control.held ++ w.control.queued)
    (hl : ∀ fd ∈ given, w.Loose fd → w'.Loose fd) : w'.Supplied unsent given := by
  obtain ⟨hidle, vs, heq, hwait, hsub⟩ := h
  exact ⟨hi.trans hidle, vs, by rw [hc, heq], hwait.keep fun fd hfd => hl fd (hsub hfd), hsub⟩

/-! ## What the outside owes -/

/-- The control pipe has its number for itself, and the clients `fds`, while they are open, can be
registered under theirs. -/
structure Obliging (w : Worker) (fds : List Descriptor) : Prop where
  control : w.control.readFd < w.host.next
  numbers : ∀ fd ∈ fds, 0 ≤ fd ∧ fd < w.host.next
  registrable : ∀ fd ∈ fds, (w.host.file fd).isOpen = true → w.Registrable fd

/-- From `w` to `w'` the poller and the control pipe stay what they are, and the files that were
given out are at most used or closed. -/
structure Lasts (w w' : Worker) : Prop where
  readFd : w'.control.readFd = w.control.readFd
  senderOpen : w'.control.senderOpen = w.control.senderOpen
  backend : w'.poller.backend = w.poller.backend
  exhausted : w'.host.exhausted = w.host.exhausted
  next : w.host.next ≤ w'.host.next
  used : ∀ fd, fd < w.host.next → (w'.host.file fd).isOpen = true →
    (w.host.file fd).Used (w'.host.file fd)

theorem Lasts.refl (w : Worker) : Lasts w w :=
  ⟨rfl, rfl, rfl, rfl, Int.le_refl _, fun _ _ _ => .refl _⟩

theorem Lasts.trans {w₁ : Worker} (h : Lasts w w₁) (h' : Lasts w₁ w') : Lasts w w' where
  readFd := h'.readFd.trans h.readFd
  senderOpen := h'.senderOpen.trans h.senderOpen
  backend := h'.backend.trans h.backend
  exhausted := h'.exhausted.trans h.exhausted
  next := Int.le_trans h.next h'.next
  used fd hfd hopen := by
    have hu := h'.used fd (Int.lt_of_lt_of_le hfd h.next) hopen
    exact (h.used fd hfd (hu.isOpen.symm.trans hopen)).trans hu

theorem Obliging.mono (h : w.Obliging fds) (hsub : rest ⊆ fds) : w.Obliging rest :=
  ⟨h.control, fun fd hfd => h.numbers fd (hsub hfd), fun fd hfd => h.registrable fd (hsub hfd)⟩

theorem Obliging.lasts (h : w.Obliging fds) (hl : Lasts w w') : w'.Obliging fds where
  control := by
    rw [hl.readFd]
    exact Int.lt_of_lt_of_le h.control hl.next
  numbers fd hfd := (h.numbers fd hfd).imp_right fun hlt => Int.lt_of_lt_of_le hlt hl.next
  registrable fd hfd hopen := by
    have hu := hl.used fd (h.numbers fd hfd).2 hopen
    have hr := h.registrable fd hfd (hu.isOpen.symm.trans hopen)
    exact ⟨by rw [hl.readFd]; exact hr.ne_control, by rw [hl.backend]; exact hu.admits hr.admits⟩

/-- Stops that the outside is to blame for, unless memory has run out. Where the outside obliges,
nothing but memory is left to blame. -/
def Excused (w : Worker) (fds : List Descriptor) (a : Abort) : Prop :=
  w.Obliging fds → a = .panic .capacityOverflow

/-! ## Accepting -/

/-- The worker after clients were taken in: what is loose stays so, but for the clients, and so do
the control pipe and all sessions. -/
structure TookIn (w w' : Worker) (fds : List Descriptor) : Prop where
  sound : w'.Sound
  admitted : Admitted w w'
  loose : ∀ fd, w.Loose fd → fd ∉ fds → w'.Loose fd
  control : w'.control = w.control
  lasts : Lasts w w'

theorem loose_withHost {host : Host} (hl : w.Loose fd) (hfile : host.file fd = w.host.file fd) :
    (w.withHost host).Loose fd :=
  ⟨(congrArg File.isOpen hfile).trans hl.1, hl.2⟩

theorem tookIn_close (h : w.Sound) (hl : w.Loose fd) (log : List LogEntry) :
    TookIn w { w with host := w.host.close fd, log } [fd] := by
  obtain ⟨hs, ha⟩ := h.close hl
  refine ⟨hs.say log, ⟨ha.sessions, ha.newcomers, ha.files, ha.next, ha.settings⟩,
    fun fd' hl' hfd' => ?_, rfl, rfl, rfl, rfl, rfl, Int.le_refl _, fun fd' _ hopen => ?_⟩
  · refine loose_withHost hl' ?_
    rw [Host.file_close, if_neg (by simpa using hfd')]
  · have hopen : ((w.host.close fd).file fd').isOpen = true := hopen
    show (w.host.file fd').Used ((w.host.close fd).file fd')
    rw [Host.file_close] at hopen ⊢
    split at hopen
    · rw [File.isOpen_close] at hopen
      cases hopen
    · next hne =>
      rw [if_neg hne]
      exact .refl _

theorem TookIn.trans {w₁ : Worker} (h : TookIn w w₁ fds) (h' : TookIn w₁ w' rest) :
    TookIn w w' (fds ++ rest) where
  sound := h'.sound
  admitted := h.admitted.trans h'.admitted
  loose fd hl hfd := by
    rw [List.mem_append, not_or] at hfd
    exact h'.loose fd (h.loose fd hl hfd.1) hfd.2
  control := h'.control.trans h.control
  lasts := h.lasts.trans h'.lasts

/-! ## One client after the other -/

def reception (w : Worker) (fd : Descriptor) : Except IoError (Descriptor × ConnectStatus) × Host :=
  match (w.host.file fd).prepareError? w.settings.noDelay with
  | some e => (.error e, w.host)
  | none => w.host.connect w.settings.remote w.settings.noDelay

/-- A client that was taken in, the connection that was begun for it, and the slots of the two
sessions. -/
structure Newcomer where
  client : Descriptor
  remote : Descriptor
  status : ConnectStatus
  id : SessionId
  pid : SessionId

/-- What has become of the client `fd`: it was closed, or it is a newcomer. It is closed without a
session ever having been made for it, and there is no third way. -/
inductive Received (w : Worker) (fd : Descriptor) : Option Newcomer → Worker → Prop
  | turnedAway {e : IoError} {host : Host} (log : List LogEntry)
      (h : w.reception fd = (.error e, host)) :
      Received w fd none { w with host := host.close fd, log }
  | joined {n : Newcomer} {host : Host} {w' : Worker} (hclient : n.client = fd)
      (h : w.reception fd = (.ok (n.remote, n.status), host))
      (hjoins : Joins (w.withHost host) w' n.client n.remote n.status n.id n.pid) :
      Received w fd (some n) w'

/-- The clients `fds` are received in turn, and `news` is what has come of them: a newcomer for each
that was not turned away, in the same order. -/
inductive Receives : Worker → List Descriptor → List Newcomer → Worker → Prop
  | nil (w : Worker) : Receives w [] [] w
  | cons {w w₁ w' : Worker} {fd : Descriptor} {n? : Option Newcomer} {rest : List Descriptor}
      {news : List Newcomer} (h : Received w fd n? w₁) (h' : Receives w₁ rest news w') :
      Receives w (fd :: rest) (n?.toList ++ news) w'

theorem dialed_reception (w : Worker) (fd : Descriptor) : w.host.Dialed (w.reception fd) := by
  unfold reception
  split
  · exact .failed (fun _ => rfl) rfl (fun _ ha => ha) rfl
  · exact w.host.dialed_connect w.settings.remote w.settings.noDelay

theorem Lasts.of_dialed {r : Except IoError (Descriptor × ConnectStatus) × Host} (h : w.Sound)
    (hd : w.host.Dialed r) : Lasts w (w.withHost r.2) := by
  obtain ⟨-, ha⟩ := h.dialed hd
  cases hd with
  | @failed e host hfiles hnext hnet hexhausted =>
    refine ⟨rfl, rfl, rfl, hexhausted, ha.next, fun fd _ _ => ?_⟩
    show (w.host.file fd).Used (host.file fd)
    rw [hfiles]
    exact .refl _
  | @opened s a status host hmem hstream hopened hfiles hnext hnet hexhausted =>
    refine ⟨rfl, rfl, rfl, hexhausted, ha.next, fun fd hfd _ => ?_⟩
    show (w.host.file fd).Used (host.file fd)
    rw [hfiles, if_neg (Int.ne_of_lt hfd)]
    exact .refl _

theorem Sound.loose_dialed {r : Except IoError (Descriptor × ConnectStatus) × Host} (h : w.Sound)
    (hd : w.host.Dialed r) (hl : w.Loose fd) : (w.withHost r.2).Loose fd := by
  cases hd with
  | failed hfiles => exact loose_withHost hl (hfiles fd)
  | opened _ _ _ hfiles =>
    refine loose_withHost hl ?_
    rw [hfiles, if_neg (Int.ne_of_lt (h.housed.next fd hl.1))]

/-- The connection that an attempt has opened is a loose file, under a number that was not given out
before. -/
theorem Sound.loose_opened {remote : Descriptor} {status : ConnectStatus}
    {host : Host} (h : w.Sound)
    (hd : w.host.Dialed (.ok (remote, status), host)) :
    remote = w.host.next ∧ (∀ fd, fd < w.host.next → host.file fd = w.host.file fd)
      ∧ (w.withHost host).Loose remote ∧ ∃ c, (host.file remote).status = .live c := by
  cases hd with
  | @opened s _ _ _ _ _ hopened hfiles =>
    have hfile : host.file w.host.next = .stream s := by rw [hfiles, if_pos rfl]
    refine ⟨rfl, fun fd hfd => ?_, ⟨?_, ?_⟩, s.conditions, ?_⟩
    · rw [hfiles, if_neg (Int.ne_of_lt hfd)]
    · show (host.file w.host.next).isOpen = true
      rw [hfile]
      exact hopened
    · rintro ⟨id, t, ht, hfd⟩
      have hlt := h.housed.next t.fd (h.held id t ht).isOpen
      exact Int.lt_irrefl _ (hfd ▸ hlt)
    · rw [hfile, File.status, if_pos hopened]

/-- Accepting a client receives it. When the outside obliges it stops for want of memory only, and
then the pool cannot be doubled with one more buffer lent. -/
theorem leads_acceptClient (h : w.Sound) (hl : w.Loose fd) :
    Leads (acceptClient fd) w (fun _ w' => ∃ n?, Received w fd n? w')
      (fun a => w.Obliging [fd] → a = .panic .capacityOverflow ∧ w.Cramped 1) := by
  unfold acceptClient
  dsimp only
  rw [leads_ite]
  refine ⟨fun hneg hob => ?_, fun _ => ?_⟩
  · exact absurd (hob.numbers fd (List.mem_singleton_self fd)).1 (Int.not_le.mpr hneg)
  rw [leads_bind, leads_get]
  have hdial := w.dialed_reception fd
  cases hprepare : (w.host.file fd).prepareError? w.settings.noDelay with
  | some e => exact ⟨none, .turnedAway _ (by rw [reception, hprepare])⟩
  | none =>
    have hreception : w.reception fd = w.host.connect w.settings.remote w.settings.noDelay := by
      rw [reception, hprepare]
    dsimp only
    rw [← hreception, leads_bind, leads_modifyHost]
    rcases hr : w.reception fd with ⟨e | ⟨remote, status⟩, host⟩
    · exact ⟨none, .turnedAway _ hr⟩
    · rw [hr] at hdial
      obtain ⟨hremote, -, hloose, c, hlive⟩ := h.loose_opened hdial
      have hloose' := h.loose_dialed hdial hl
      have hne : fd ≠ remote := by
        rw [hremote]
        exact Int.ne_of_lt (h.housed.next fd hl.1)
      refine Leads.bind ((leads_attachPair_loose (h.dialed hdial).1 hloose' hloose hne status).mono
        (fun _ _ hj => hj) fun a ha hob => ha ?_ ⟨?_, ?_⟩) fun ids w' hj => ?_
      · exact (hob.lasts (.of_dialed h hdial)).registrable fd (List.mem_singleton_self fd) hloose'.1
      · rw [hremote]
        exact (Int.ne_of_lt hob.control).symm
      · show w.poller.backend.Admits (host.file remote).status
        rw [hlive]
        exact Poller.backend_admits_live
      · exact ⟨some ⟨fd, remote, status, ids.1, ids.2⟩, .joined rfl hr hj⟩

theorem Received.tookIn {n? : Option Newcomer} (hr : Received w fd n? w') (h : w.Sound)
    (hl : w.Loose fd) :
    TookIn w w' [fd] := by
  have hdial := w.dialed_reception fd
  obtain ⟨hs₁, ha₁⟩ := h.dialed hdial
  have hkeep {fd' : Descriptor} (hl' : w.Loose fd') := h.loose_dialed hdial hl'
  have hlasts := Lasts.of_dialed h hdial
  cases hr with
  | @turnedAway e host log hreception =>
    rw [hreception] at hs₁ ha₁ hkeep hlasts
    have htook := tookIn_close hs₁ (hkeep hl) log
    exact ⟨htook.sound, ha₁.trans htook.admitted, fun fd' hl' => htook.loose fd' (hkeep hl'),
      htook.control, hlasts.trans htook.lasts⟩
  | @joined n host w' hclient hreception hjoins =>
    subst hclient
    rw [hreception] at hs₁ ha₁ hkeep hlasts hdial
    obtain ⟨hremote, -, hloose, -⟩ := h.loose_opened hdial
    have hne {fd' : Descriptor} (hl' : w.Loose fd') : fd' ≠ n.remote := by
      rw [hremote]
      exact Int.ne_of_lt (h.housed.next fd' hl'.1)
    obtain ⟨hs, ha, hloose', hcontrol, -, hhost, hbackend⟩ :=
      hs₁.joined hjoins (hkeep hl) hloose (hne hl)
    refine ⟨hs, ha₁.trans ha,
      fun fd' hl' hfd' => hloose' fd' (hkeep hl') (by simpa using hfd') (hne hl'), hcontrol,
      hlasts.trans ⟨by rw [hcontrol], by rw [hcontrol], hbackend, by rw [hhost], ha.next,
        fun fd' _ _ => ?_⟩⟩
    rw [hhost]
    exact .refl _

theorem Waiting.head (hw : w.Waiting (fd :: rest)) : w.Loose fd :=
  hw.loose fd (List.mem_cons_self ..)

theorem Waiting.tail (hw : w.Waiting (fd :: rest)) (ht : TookIn w w' [fd]) : w'.Waiting rest := by
  obtain ⟨hfd, hrest⟩ := List.nodup_cons.mp hw.nodup
  refine ⟨hrest, fun fd' hfd' => ht.loose fd' (hw.loose fd' (List.mem_cons_of_mem _ hfd')) ?_⟩
  rw [List.mem_singleton]
  rintro rfl
  exact hfd hfd'

theorem Receives.tookIn {news : List Newcomer} (hr : Receives w fds news w') (h : w.Sound)
    (hw : w.Waiting fds) : TookIn w w' fds := by
  induction hr with
  | nil w => exact ⟨h, .refl w, fun _ hl _ => hl, rfl, .refl w⟩
  | cons hfirst _ ih =>
    have h₁ := hfirst.tookIn h hw.head
    exact h₁.trans (ih h₁.sound (hw.tail h₁))

/-- What is received adds at most two sessions for each client, and each of them has a buffer. So a
pool that cannot be doubled after this client with `n` more buffers lent could not be before it with
two more. -/
theorem Received.cramped {n : Nat} {n? : Option Newcomer} (hr : Received w fd n? w')
    (hc : w'.Cramped n) : w.Cramped (n + 2) := by
  cases hr with
  | turnedAway log h => exact Cramped.mono (w := w) hc (Nat.le_add_right n 2)
  | joined hclient h hjoins =>
    have hlent := hjoins.lent
    rw [Cramped, hlent.bufferSize, hlent.lent, Nat.add_assoc, Nat.add_comm 2 n] at hc
    exact hc

/-- Accepting clients receives all of them, one after the other, and leaves none over. A client that
is turned away does not keep those behind it from being accepted. -/
theorem leads_acceptClients (h : w.Sound) (hw : w.Waiting fds) :
    Leads (acceptClients fds) w (fun left w' => left = [] ∧ ∃ news, Receives w fds news w')
      (fun a => w.Obliging fds → a = .panic .capacityOverflow ∧ w.Cramped (2 * fds.length)) := by
  induction fds generalizing w with
  | nil => exact ⟨rfl, [], .nil w⟩
  | cons fd rest ih =>
    rw [acceptClients]
    refine Leads.bind ((leads_acceptClient h hw.head).mono (fun _ _ hq => hq) fun a ha hob => ?_) ?_
    · obtain ⟨hstop, hmem⟩ := ha (hob.mono (List.cons_subset_cons fd (List.nil_subset rest)))
      refine ⟨hstop, hmem.mono ?_⟩
      rw [List.length_cons]
      omega
    rintro - w₁ ⟨n?, hfirst⟩
    have h₁ := hfirst.tookIn h hw.head
    refine (ih h₁.sound (hw.tail h₁)).mono ?_ fun a ha hob => ?_
    · rintro left w' ⟨hleft, news, hrest⟩
      exact ⟨hleft, _, .cons hfirst hrest⟩
    · obtain ⟨hstop, hmem⟩ := ha ((hob.lasts h₁.lasts).mono (List.subset_cons_self ..))
      exact ⟨hstop, hfirst.cramped hmem⟩

/-! ## The control pipe -/

def arrived (w : Worker) : List Descriptor :=
  w.control.drain.1.values.map Int32.toInt

def emptied (w : Worker) : Worker :=
  { w with control := w.control.drain.2, incoming := [] }

/-- Draining splits those on their way into the ones that have arrived and the ones that have
not. -/
theorem Supplied.split (hsup : w.Supplied unsent given) :
    ∃ us : List Int32, w.control.drain.2.held ++ unsent = Channel.encoded us
      ∧ w.Waiting (w.arrived ++ us.map Int32.toInt) ∧ w.arrived ⊆ given
      ∧ us.map Int32.toInt ⊆ given := by
  obtain ⟨-, vs, heq, hwait, hsub⟩ := hsup
  rw [w.control.drain_eq.1, List.append_assoc] at heq
  obtain ⟨us, rfl, hus⟩ := Channel.encoded_prefix heq
  rw [List.map_append] at hwait hsub
  obtain ⟨hsub, hsub'⟩ := List.append_subset.mp hsub
  exact ⟨us, hus, hwait, hsub, hsub'⟩

theorem Supplied.arrived (hsup : w.Supplied unsent given) : w.Waiting w.arrived := by
  obtain ⟨us, -, hwait, -, -⟩ := hsup.split
  obtain ⟨hnodup, -, -⟩ := List.nodup_append.mp hwait.nodup
  exact ⟨hnodup, fun fd hfd => hwait.loose fd (List.mem_append_left _ hfd)⟩

theorem Sound.emptied (h : w.Sound) : w.emptied.Sound :=
  h.of_same rfl rfl rfl rfl w.control.drain_eq.2.2 h.enrolled.poller rfl fun _ => rfl

theorem Lasts.emptied (w : Worker) : Lasts w w.emptied :=
  ⟨w.control.drain_eq.2.2, w.control.drain_error.1, rfl, rfl, Int.le_refl _, fun _ _ _ => .refl _⟩

theorem Receives.incoming {news : List Newcomer} (hr : Receives w fds news w') :
    w'.incoming = w.incoming := by
  induction hr with
  | nil w => rfl
  | cons hfirst _ ih =>
    refine ih.trans ?_
    cases hfirst with
    | turnedAway log h => rfl
    | joined hclient h hjoins =>
      obtain ⟨b, b', l₁, l₂, l₃, l₄, -, -, ha⟩ := hjoins.attached
      exact ha.incoming

/-- Draining the control pipe receives the clients that have arrived, and leaves none over. It stops
when the sender has closed the pipe. -/
theorem leads_onControl_receives (h : w.Sound) (hsup : w.Supplied unsent given) :
    Leads onControl w (fun _ w' => w.control.senderOpen = true
        ∧ ∃ news, Receives w.emptied w.arrived news w')
      (fun a => w.control.senderOpen = true → w.Obliging w.arrived →
        a = .panic .capacityOverflow ∧ w.Cramped (2 * w.arrived.length)) := by
  rw [onControl, leads_bind, leads_get]
  dsimp only
  rw [leads_bind, leads_set]
  have herror := w.control.drain_error.2
  by_cases hopen : w.control.senderOpen = true
  · rw [if_pos hopen] at herror
    have hwait : w.emptied.Waiting w.arrived := hsup.arrived.keep fun _ _ hl => hl
    rw [herror, hsup.1, List.nil_append]
    refine Leads.bind ((leads_acceptClients h.emptied hwait).mono (fun _ _ hq => hq) ?_) ?_
    · intro a ha _ hob
      exact ha (hob.lasts (.emptied w))
    · rintro left w₁ ⟨rfl, news, hreceives⟩
      -- the list that is put back is the empty one that was there meanwhile
      have hsame : ({ w₁ with incoming := [] } : Worker) = w₁ := by
        rw [← show w₁.incoming = [] from hreceives.incoming]
      rw [leads_modify, hsame]
      exact ⟨hopen, news, hreceives⟩
  · rw [if_neg hopen] at herror
    rw [herror]
    exact fun hopen' => absurd hopen' hopen

/-- Draining the control pipe empties it, takes in the clients that have arrived, and leaves the
others on their way. -/
theorem leads_onControl (h : w.Sound) (hsup : w.Supplied unsent given) :
    Leads onControl w (fun _ w' => w'.Sound ∧ w'.Supplied unsent given ∧ Admitted w w' ∧ Lasts w w'
        ∧ w.control.senderOpen = true ∧ w'.control.queued = [])
      (fun a => w.control.senderOpen = true → w.Excused given a) := by
  obtain ⟨us, hus, hwait, hsub, hsub'⟩ := hsup.split
  have hempty := w.control.drain_eq.2.1
  refine (leads_onControl_receives h hsup).mono ?_ fun a ha hopen hob =>
    (ha hopen (hob.mono hsub)).1
  rintro _ w' ⟨hopen, news, hreceives⟩
  have htook := hreceives.tookIn h.emptied (hsup.arrived.keep fun _ _ hl => hl)
  have ha := htook.admitted
  refine ⟨htook.sound, ⟨hreceives.incoming, us, ?_, ⟨?_, fun fd hfd => ?_⟩, hsub'⟩,
    ⟨ha.sessions, ha.newcomers, ha.files, ha.next, ha.settings⟩,
    (Lasts.emptied w).trans htook.lasts, hopen,
    (congrArg Channel.queued htook.control).trans hempty⟩
  · rw [htook.control]
    show w.control.drain.2.held ++ w.control.drain.2.queued ++ unsent = _
    rw [hempty, List.append_nil]
    exact hus
  · exact (List.nodup_append.mp hwait.nodup).2.1
  · refine htook.loose fd (hwait.loose fd (List.mem_append_right _ hfd)) ?_
    intro hmem
    exact (List.nodup_append.mp hwait.nodup).2.2 fd hmem fd hfd rfl

end Sluice.Worker
