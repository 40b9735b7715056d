import Sluice.Proofs.Worker.Events

/-!
# Admitting connections

New sessions come from two sockets that no session owns (`Worker.Loose`): attaching them makes a
linked pair (`leads_attachPair`), and closing one or connecting another changes the host alone
(`Sound.close`, `Sound.dialed`). Whatever is admitted, the sessions that were there stay, and so do
their files (`Worker.Admitted`). Admitting may stop for want of memory, and because the poller
refuses a descriptor that it watches already or that the system does not let it watch.
-/

namespace Sluice

/-- The poller does not watch the descriptor yet, and the system lets it. Both backends register
such a descriptor, the one because it has no entry and the other because the system has conditions
for it. -/
structure Poller.Free (p : Poller) (view : SystemView) (fd : Descriptor) : Prop where
  unwatched : p.registration? fd = none
  admits : p.backend.Admits (view.status fd)

namespace Worker

variable {w w' w'' : Worker} {id pid : SessionId} {s p : Session} {E : Abort → Prop}
  {fd client remote : Descriptor}

/-- An open file that no session owns. -/
def Loose (w : Worker) (fd : Descriptor) : Prop :=
  (w.host.file fd).isOpen = true ∧ ¬ w.Owned fd

/-- From `w` to `w'` sessions were added at most, with files that were loose or did not exist, and
no other file has changed. -/
structure Admitted (w w' : Worker) : Prop where
  sessions : ∀ id s, w.session? id = some s → w'.session? id = some s
  newcomers : ∀ id s, w'.session? id = some s →
    w.session? id = some s ∨ w.Loose s.fd ∨ w.host.next ≤ s.fd
  files : ∀ fd, fd < w.host.next → ¬ w.Loose fd → w'.host.file fd = w.host.file fd
  next : w.host.next ≤ w'.host.next
  settings : w'.settings = w.settings

theorem Admitted.refl (w : Worker) : Admitted w w :=
  ⟨fun _ _ h => h, fun _ _ h => Or.inl h, fun _ _ _ => rfl, Int.le_refl _, rfl⟩

theorem Admitted.loose_of_loose (h : Admitted w w') (hfd : fd < w.host.next) (hl : w'.Loose fd) :
    w.Loose fd := by
  by_contra hn
  have hfile := h.files fd hfd hn
  obtain ⟨hopen, hown⟩ := hl
  refine hn ⟨hfile ▸ hopen, ?_⟩
  rintro ⟨id, s, hs, rfl⟩
  exact hown ⟨id, s, h.sessions id s hs, rfl⟩

theorem Admitted.trans (h : Admitted w w') (h' : Admitted w' w'') : Admitted w w'' where
  sessions id s hs := h'.sessions id s (h.sessions id s hs)
  newcomers id s hs := by
    rcases h'.newcomers id s hs with hold | hloose | hnew
    · exact h.newcomers id s hold
    · by_cases hfd : s.fd < w.host.next
      · exact Or.inr (Or.inl (h.loose_of_loose hfd hloose))
      · exact Or.inr (Or.inr (Int.not_lt.mp hfd))
    · exact Or.inr (Or.inr (Int.le_trans h.next hnew))
  files fd hfd hl := by
    have hfd' := Int.lt_of_lt_of_le hfd h.next
    exact (h'.files fd hfd' fun hl' => hl (h.loose_of_loose hfd hl')).trans (h.files fd hfd hl)
  next := Int.le_trans h.next h'.next
  settings := h'.settings.trans h.settings

/-! ## Changes of the host -/

def withHost (w : Worker) (host : Host) : Worker :=
  { w with host }

theorem SoundBut.withHost {except : List SessionId} (h : SoundBut except w) {host : Host}
    (hfiles : ∀ fd, w.Owned fd → host.file fd = w.host.file fd)
    (hhoused : (w.withHost host).Housed) : SoundBut except (w.withHost host) where
  enrolled := ⟨h.enrolled.poller, h.enrolled.control, h.enrolled.owned⟩
  stocked := ⟨h.stocked.pool, h.stocked.size, h.stocked.positive, h.stocked.lent, h.stocked.slots,
    h.stocked.buffers⟩
  housed := hhoused
  held id s hs := by
    have hh := h.held id s hs
    have hf := hfiles s.fd ⟨id, s, hs, rfl⟩
    have hhalf : (w.withHost host).half s = w.half s := by rw [half, half, ← hf]; rfl
    rw [hhalf]
    exact ⟨hs, hf, hh.isOpen, hh.watched, hh.admitted⟩
  settled id s hs hexc := (h.settled id s hs hexc).frame
    (fun pid p _ hp => ⟨hp, hfiles p.fd ⟨pid, p, hp, rfl⟩⟩) (hfiles s.fd ⟨id, s, hs, rfl⟩)

theorem Sound.close (h : w.Sound) (hl : w.Loose fd) :
    (w.withHost (w.host.close fd)).Sound ∧ Admitted w (w.withHost (w.host.close fd)) := by
  have hfile (fd' : Descriptor) : (w.host.close fd).file fd'
      = if fd' = fd then (w.host.file fd).close else w.host.file fd' := Host.file_close ..
  refine ⟨SoundBut.withHost h (fun fd' hown => ?_) ⟨fun fd' hopen hown => ?_, fun fd' hopen => ?_,
    h.housed.attempts⟩, ⟨fun _ _ hs => hs, fun _ _ hs => Or.inl hs, fun fd' _ hl' => ?_,
      Int.le_refl _, rfl⟩⟩
  · rw [hfile, if_neg]
    rintro rfl
    exact hl.2 hown
  · have hopen : ((w.host.close fd).file fd').isOpen = true := hopen
    show ((w.host.close fd).file fd').Fresh
    rw [hfile] at hopen ⊢
    split at hopen
    · rw [File.isOpen_close] at hopen
      cases hopen
    · next hne =>
      rw [if_neg hne]
      exact h.housed.fresh fd' hopen hown
  · have hopen : ((w.host.close fd).file fd').isOpen = true := hopen
    rw [hfile] at hopen
    split at hopen
    · rw [File.isOpen_close] at hopen
      cases hopen
    · exact h.housed.next fd' hopen
  · refine (hfile fd').trans (if_neg ?_)
    rintro rfl
    exact hl' hl

theorem SoundBut.owned_lt {except : List SessionId} (h : SoundBut except w) (hown : w.Owned fd) :
    fd < w.host.next := by
  obtain ⟨id, s, hs, rfl⟩ := hown
  exact h.housed.next s.fd (h.held id s hs).isOpen

/-- A host that differs in new files at most. They are numbered from `next` on, which is behind
every file of a session, so that no half sees them. -/
theorem Sound.widened (h : w.Sound) {host : Host}
    (hfiles : ∀ fd, fd ≠ w.host.next → host.file fd = w.host.file fd)
    (hfresh : (host.file w.host.next).isOpen = true →
      (host.file w.host.next).Fresh ∧ w.host.next < host.next)
    (hnext : w.host.next ≤ host.next) (hattempts : ∀ a ∈ host.network.attempts, a.Fresh) :
    (w.withHost host).Sound ∧ Admitted w (w.withHost host) := by
  have hold (fd : Descriptor) (hfd : fd < w.host.next) : host.file fd = w.host.file fd :=
    hfiles fd (Int.ne_of_lt hfd)
  refine ⟨SoundBut.withHost h (fun fd hown => hold fd (h.owned_lt hown))
    ⟨fun fd hopen hown => ?_, fun fd hopen => ?_, hattempts⟩,
    ⟨fun _ _ hs => hs, fun _ _ hs => Or.inl hs, fun fd hfd _ => hold fd hfd, hnext, rfl⟩⟩
  · have hopen : (host.file fd).isOpen = true := hopen
    show (host.file fd).Fresh
    by_cases hfd : fd = w.host.next
    · subst hfd
      exact (hfresh hopen).1
    · rw [hfiles fd hfd] at hopen ⊢
      exact h.housed.fresh fd hopen hown
  · have hopen : (host.file fd).isOpen = true := hopen
    show fd < host.next
    by_cases hfd : fd = w.host.next
    · subst hfd
      exact (hfresh hopen).2
    · rw [hfiles fd hfd] at hopen
      exact Int.lt_of_lt_of_le (h.housed.next fd hopen) hnext

theorem Sound.dialed (h : w.Sound) {r : Except IoError (Descriptor × ConnectStatus) × Host}
    (hd : w.host.Dialed r) : (w.withHost r.2).Sound ∧ Admitted w (w.withHost r.2) := by
  cases hd with
  | @failed e host hfiles hnext hnet _ =>
    refine h.widened (fun fd _ => hfiles fd) (fun hopen => ?_) (Int.le_of_eq hnext.symm)
      fun a ha => h.housed.attempts a (hnet ha)
    have hopen : (host.file w.host.next).isOpen = true := hopen
    rw [hfiles] at hopen
    exact absurd (h.housed.next _ hopen) (Int.lt_irrefl _)
  | @opened s a status host hmem hbegun hopened hfiles hnext hnet _ =>
    have hlt : w.host.next < host.next := by
      rw [hnext]
      exact Int.lt_add_one_of_le (Int.le_refl _)
    refine h.widened (fun fd hfd => ?_) (fun _ => ⟨?_, hlt⟩) (Int.le_of_lt hlt)
      fun a ha => h.housed.attempts a (hnet ha)
    · exact (hfiles fd).trans (if_neg hfd)
    · show (host.file w.host.next).Fresh
      rw [hfiles, if_pos rfl]
      exact h.housed.attempts a hmem s status hbegun

/-! ## Attaching -/

structure Registrable (w : Worker) (fd : Descriptor) : Prop where
  ne_control : fd ≠ w.control.readFd
  admits : w.poller.backend.Admits (w.host.file fd).status

theorem Sound.free (h : w.Sound) (hl : w.Loose fd) (hr : w.Registrable fd) :
    w.poller.Free w.view fd where
  unwatched := by
    cases hreg : w.poller.registration? fd with
    | none => rfl
    | some r =>
      rcases h.enrolled.owned fd r hreg with hfd | hown
      · exact absurd hfd hr.ne_control
      · exact absurd hown hl.2
  admits := by
    simp only [view, viewWith, if_neg hr.ne_control]
    exact hr.admits

theorem leads_acquireBuffer (hp : w.pool.Sound) (hE : w.pool.Spent → E (.panic .capacityOverflow))
    {Q : Buffer → Worker → Prop} (hQ : ∀ b q, w.pool.Lent b q → Q b { w with pool := q }) :
    Leads acquireBuffer w Q E := by
  unfold acquireBuffer
  rw [leads_bind, leads_get]
  rcases Pool.acquire_cases hp with ⟨b, q, hacq, hlent⟩ | ⟨hspent, hacq⟩
  · rw [hacq]
    exact hQ b q hlent
  · rw [hacq]
    exact hE hspent

theorem leads_register (hs : w.session? id = some s) (hpoll : w.poller.Sound)
    (hE : w.poller.Free w.view s.fd ∨ ∀ e, E (.fatal (.registration e))) {Q : PUnit → Worker → Prop}
    (hQ : ∀ q, q.Sound → q.backend = w.poller.backend → w.poller.Free w.view s.fd →
      (∀ fd, q.registration? fd =
        if fd = s.fd then some (Session.token id, s.interest) else w.poller.registration? fd) →
      Q ⟨⟩ { w with poller := q }) : Leads (register id) w Q E := by
  unfold register
  rw [leads_bind, leads_session hs]
  cases hadd : w.poller.add w.view s.fd (Session.token id) s.interest with
  | ok q =>
    obtain ⟨hsound, hbackend, hnone, hreg⟩ := Poller.add_ok hpoll hadd
    exact (leads_registered Q hadd).mpr
      (hQ q hsound hbackend ⟨hnone, Poller.admits_of_add hadd⟩ hreg)
  | error e =>
    refine (leads_registered_error Q hadd).mpr ?_
    rcases hE with hfree | hE
    · obtain ⟨q, hq⟩ := Poller.add_succeeds (Session.token id) s.interest hpoll hfree.unwatched
        hfree.admits
      rw [hq] at hadd
      cases hadd
    · exact hE e

/-- The sessions `c` and `r` were added as a pair, and nothing else has changed but the pool, from
which each of them has its buffer. -/
structure Attached (w w' : Worker) (id pid : SessionId) (c r : Session) : Prop where
  vacant : w.session? id = none ∧ w.session? pid = none ∧ id ≠ pid
  sessions : ∀ x, w'.session? x =
    if x = id then some c else if x = pid then some r else w.session? x
  watched : ∀ fd, w'.poller.registration? fd =
    if fd = r.fd then some (Session.token pid, r.interest)
    else if fd = c.fd then some (Session.token id, c.interest) else w.poller.registration? fd
  free : w.poller.Free w.view c.fd ∧ w.poller.Free w.view r.fd
  poller : w'.poller.Sound
  backend : w'.poller.backend = w.poller.backend
  size : w'.sessions.size = w.sessions.size + 2
  slots : w'.sessions.slots.size ≤ max w.sessions.slots.size (w.sessions.size + 2)
  host : w'.host = w.host
  settings : w'.settings = w.settings
  control : w'.control = w.control
  incoming : w'.incoming = w.incoming

theorem leads_link {c r : Session} (hs : w.poller.Sound) (hne : c.fd ≠ r.fd)
    (hE : w.poller.Free w.view c.fd ∧ w.poller.Free w.view r.fd
      ∨ ∀ e, E (.fatal (.registration e))) :
    Leads (do
        let id ← insertSession c
        let pid ← insertSession r
        modifySession id fun s => { s with peer := some pid }
        modifySession pid fun s => { s with peer := some id }
        register id
        register pid
        return (id, pid)) w
      (fun ids w' => w'.pool = w.pool ∧ Attached w w' ids.1 ids.2 { c with peer := some ids.2 }
        { r with peer := some ids.1 }) E := by
  obtain ⟨hfree, hfree', hids, -⟩ := w.sessions.get?_insert_two c r
  rw [leads_bind, leads_insertSession, leads_bind, leads_insertSession, leads_bind,
    leads_modifySession, leads_bind, leads_modifySession, leads_bind]
  dsimp only
  generalize hid : (w.sessions.insert c).1 = id at *
  generalize hpid : ((w.sessions.insert c).2.insert r).1 = pid at *
  generalize hm : ((((w.sessions.insert c).2.insert r).2.modify id
    (fun s => { s with peer := some pid })).modify pid (fun s => { s with peer := some id })) = m
  obtain ⟨hlen, hreach, hm?⟩ := w.sessions.modify_insert_two c r _ _ hid hpid hm
  have hc : m.get? id = some { c with peer := some pid } := by rw [hm?, if_pos rfl]
  have hr : m.get? pid = some { r with peer := some id } := by
    rw [hm?, if_neg hids.symm, if_pos rfl]
  refine leads_register (s := { c with peer := some pid }) ?_ ?_ ?_
    fun q₁ hq₁ hback₁ hfree₁ hreg₁ => ?_
  · exact hc
  · exact hs
  · exact hE.imp_left And.left
  rw [leads_bind]
  dsimp only at hback₁ hreg₁
  refine leads_register (s := { r with peer := some id }) ?_ ?_ ?_
    fun q₂ hq₂ hback₂ hfree₂ hreg₂ => ?_
  · exact hr
  · exact hq₁
  · refine hE.imp_left fun hfree =>
      ⟨(hreg₁ _).trans ((if_neg hne.symm).trans hfree.2.unwatched), ?_⟩
    show q₁.backend.Admits (w.view.status r.fd)
    rw [hback₁]
    exact hfree.2.admits
  dsimp only at hreg₂ hback₂
  have hunwatched₂ : q₁.registration? r.fd = none := hfree₂.unwatched
  have hadmits₂ : q₁.backend.Admits (w.view.status r.fd) := hfree₂.admits
  rw [hreg₁, if_neg hne.symm] at hunwatched₂
  rw [hback₁] at hadmits₂
  refine ⟨rfl, {
    vacant := ⟨hfree, hfree', hids⟩
    sessions := hm?
    watched := fun fd => by
      show q₂.registration? fd = _
      rw [hreg₂, hreg₁]
    free := ⟨hfree₁, hunwatched₂, hadmits₂⟩
    poller := hq₂
    backend := hback₂.trans hback₁
    size := hlen
    slots := hreach
    host := rfl
    settings := rfl
    control := rfl
    incoming := rfl }⟩

structure LentTwo (p q : Pool) : Prop where
  sound : q.Sound
  bufferSize : q.bufferSize = p.bufferSize
  capacity : p.capacity ≤ q.capacity
  lent : q.inUse = p.inUse + 2

theorem LentTwo.of_lent {p q₁ q₂ : Pool} {b b' : Buffer} (h : p.Lent b q₁) (h' : q₁.Lent b' q₂) :
    LentTwo p q₂ where
  sound := h'.sound
  bufferSize := h'.bufferSize.trans h.bufferSize
  capacity := Nat.le_trans h.le_capacity h'.le_capacity
  lent := by rw [h'.inUse, h.inUse]

/-- The pool cannot be doubled any more when `n` more buffers are lent. It is what running out of
memory comes to here, and it is known from the pool alone. -/
def Cramped (w : Worker) (n : Nat) : Prop :=
  Pool.tooLarge w.pool.bufferSize ((w.pool.inUse + n) * 2) = true

theorem Cramped.mono {m n : Nat} (h : w.Cramped m) (hmn : m ≤ n) : w.Cramped n :=
  Pool.tooLarge_mono (by omega) h

/-- The sockets `client` and `remote` were attached as a pair of sessions that have nothing to
write. -/
structure Joins (w w' : Worker) (client remote : Descriptor) (status : ConnectStatus)
    (id pid : SessionId) : Prop where
  lent : LentTwo w.pool w'.pool
  attached : ∃ b b' l₁ l₂ l₃ l₄, b.length = w.pool.bufferSize ∧ b'.length = w.pool.bufferSize
    ∧ Attached w w' id pid (Session.newClient client b l₁ l₂ (status == .connected) pid)
      (Session.newRemote remote b' l₃ l₄ (status == .connected) id)

theorem leads_attachPair (hs : w.poller.Sound) (hp : w.pool.Sound) (hne : client ≠ remote)
    (status : ConnectStatus) (hmem : w.Cramped 1 → E (.panic .capacityOverflow))
    (hE : w.poller.Free w.view client ∧ w.poller.Free w.view remote
      ∨ ∀ e, E (.fatal (.registration e))) :
    Leads (attachPair client remote status) w
      (fun ids w' => Joins w w' client remote status ids.1 ids.2)
      E := by
  unfold attachPair
  dsimp only
  rw [leads_bind, leads_get, leads_bind, leads_say, leads_bind, leads_say, leads_bind]
  refine leads_acquireBuffer ?_ (fun hspent => hmem ?_) fun b q₁ hlent₁ => ?_
  · exact hp
  · have hlarge : w.Cramped 0 := hspent.tooLarge_inUse
    exact hlarge.mono (Nat.zero_le 1)
  rw [leads_bind]
  refine leads_acquireBuffer ?_ (fun hspent => hmem ?_) fun b' q₂ hlent₂ => ?_
  · exact hlent₁.sound
  · have hlarge : Pool.tooLarge q₁.bufferSize (q₁.inUse * 2) = true := hspent.tooLarge_inUse
    rwa [hlent₁.bufferSize, hlent₁.inUse] at hlarge
  dsimp only at hlent₁ hlent₂
  refine (leads_link ?_ ?_ ?_).imp fun ids w' hlink => ?_
  · exact hs
  · exact hne
  · exact hE
  · obtain ⟨hpool, ha⟩ := hlink
    refine ⟨?_, b, b', _, _, _, _, hlent₁.length,
      hlent₂.length.trans hlent₁.bufferSize, { ha with }⟩
    rw [hpool]
    exact .of_lent hlent₁ hlent₂

namespace Attached

variable {c r : Session}

theorem cases (h : Attached w w' id pid c r) {x : SessionId} (hx : w'.session? x = some s) :
    (x = id ∧ s = c) ∨ (x = pid ∧ s = r) ∨ w.session? x = some s := by
  rw [h.sessions] at hx
  split at hx
  · next hid => exact Or.inl ⟨hid, (Option.some.inj hx).symm⟩
  · split at hx
    · next hpid => exact Or.inr (Or.inl ⟨hpid, (Option.some.inj hx).symm⟩)
    · exact Or.inr (Or.inr hx)

theorem session_id (h : Attached w w' id pid c r) : w'.session? id = some c := by
  rw [h.sessions, if_pos rfl]

theorem session_pid (h : Attached w w' id pid c r) : w'.session? pid = some r := by
  rw [h.sessions, if_neg h.vacant.2.2.symm, if_pos rfl]

theorem session_old (h : Attached w w' id pid c r) {x : SessionId} (hx : w.session? x = some s) :
    w'.session? x = some s := by
  rw [h.sessions, if_neg, if_neg, hx]
  · rintro rfl
    rw [h.vacant.2.1] at hx
    cases hx
  · rintro rfl
    rw [h.vacant.1] at hx
    cases hx

theorem owned_iff (h : Attached w w' id pid c r) (fd : Descriptor) :
    w'.Owned fd ↔ fd = c.fd ∨ fd = r.fd ∨ w.Owned fd := by
  constructor
  · rintro ⟨x, s, hx, rfl⟩
    rcases h.cases hx with ⟨-, rfl⟩ | ⟨-, rfl⟩ | hold
    · exact Or.inl rfl
    · exact Or.inr (Or.inl rfl)
    · exact Or.inr (Or.inr ⟨x, s, hold, rfl⟩)
  · rintro (rfl | rfl | ⟨x, s, hx, rfl⟩)
    · exact ⟨id, c, h.session_id, rfl⟩
    · exact ⟨pid, r, h.session_pid, rfl⟩
    · exact ⟨x, s, h.session_old hx, rfl⟩

/-- The files of the new sessions were loose, so that they are those of no other session, and the
poller was asked to watch them for what the flags of a new session say. -/
theorem holds (h : Attached w w' id pid c r) (hw : w.Sound) (hc : w.Loose c.fd)
    (hr : w.Loose r.fd) (hne : c.fd ≠ r.fd) {x : SessionId} (hx : w'.session? x = some s) :
    w'.Holds x (w'.half s) s.interest := by
  have hadmits (fd : Descriptor) (hfree : w.poller.Free w.view fd) :
      w'.poller.backend.Admits (w'.host.file fd).status := by
    have hfd : fd ≠ w.control.readFd := fun heq => by
      have hnone := hfree.unwatched
      rw [heq, hw.enrolled.control] at hnone
      cases hnone
    rw [h.backend, h.host]
    simpa only [view, viewWith, if_neg hfd] using hfree.admits
  rcases h.cases hx with ⟨rfl, rfl⟩ | ⟨rfl, rfl⟩ | hold
  · exact ⟨hx, rfl, by rw [half, h.host]; exact hc.1,
      (h.watched _).trans ((if_neg hne).trans (if_pos rfl)),
      hadmits _ h.free.1⟩
  · exact ⟨hx, rfl, by rw [half, h.host]; exact hr.1,
      (h.watched _).trans (if_pos rfl),
      hadmits _ h.free.2⟩
  · have hh := hw.held x s hold
    have hfd : s.fd ≠ c.fd := fun heq => hc.2 ⟨x, s, hold, heq⟩
    have hfd' : s.fd ≠ r.fd := fun heq => hr.2 ⟨x, s, hold, heq⟩
    rw [half, h.host]
    exact ⟨hx, by rw [h.host], hh.isOpen,
      (h.watched _).trans ((if_neg hfd').trans ((if_neg hfd).trans hh.watched)),
      by rw [h.backend]; exact hh.admitted⟩

end Attached

section

variable {c r : Session}

theorem Sound.enrolled_attached (h : w.Sound) (ha : Attached w w' id pid c r) : w'.Enrolled where
  poller := ha.poller
  control := by
    have hnone (fd : Descriptor) (hfd : w.poller.registration? fd = none) :
        w.control.readFd ≠ fd := by
      rintro rfl
      rw [h.enrolled.control] at hfd
      cases hfd
    rw [ha.control, ha.watched, if_neg (hnone _ ha.free.2.unwatched),
      if_neg (hnone _ ha.free.1.unwatched)]
    exact h.enrolled.control
  owned fd reg hreg := by
    rw [ha.control, ha.owned_iff]
    rw [ha.watched] at hreg
    by_cases hfr : fd = r.fd
    · exact Or.inr (Or.inr (Or.inl hfr))
    · by_cases hfc : fd = c.fd
      · exact Or.inr (Or.inl hfc)
      · rw [if_neg hfr, if_neg hfc] at hreg
        exact (h.enrolled.owned fd reg hreg).imp_right fun hown => Or.inr (Or.inr hown)

theorem Sound.stocked_attached (h : w.Sound) (ha : Attached w w' id pid c r)
    (hlent : LentTwo w.pool w'.pool) (hclen : c.staging.buffer.length = w.pool.bufferSize)
    (hrlen : r.staging.buffer.length = w.pool.bufferSize) : w'.Stocked where
  pool := hlent.sound
  size := by
    rw [hlent.bufferSize, ha.settings]
    exact h.stocked.size
  positive := ha.settings ▸ h.stocked.positive
  lent := by rw [hlent.lent, ha.size, h.stocked.lent]
  slots := by
    -- a slot is new only when all are full, and the pool has made a buffer for each
    have hle := Pool.available_add_inUse w'.pool
    have hold := h.stocked.slots
    have hcap := hlent.capacity
    have hslots := ha.slots
    rw [hlent.lent, h.stocked.lent] at hle
    omega
  buffers x s hx := by
    rw [hlent.bufferSize]
    rcases ha.cases hx with ⟨-, rfl⟩ | ⟨-, rfl⟩ | hold
    · exact hclen
    · exact hrlen
    · exact h.stocked.buffers x s hold

theorem Sound.housed_attached (h : w.Sound) (ha : Attached w w' id pid c r) : w'.Housed where
  fresh fd hopen hown := by
    rw [ha.owned_iff] at hown
    rw [ha.host] at hopen ⊢
    exact h.housed.fresh fd hopen fun ho => hown (Or.inr (Or.inr ho))
  next fd hopen := by
    rw [ha.host] at hopen ⊢
    exact h.housed.next fd hopen
  attempts := by
    rw [ha.host]
    exact h.housed.attempts

/-- Two loose sockets with nothing staged are linked, because nothing has passed them: all ledgers
begin with two empty lists. -/
theorem Sound.linked_attached (h : w.Sound) (ha : Attached w w' id pid c r) (hc : w.Loose c.fd)
    (hr : w.Loose r.fd) (hpaired : c.Paired r) (hcwin : c.staging.window = [])
    (hrwin : r.staging.window = []) : (w'.half c).Linked (w'.half r) := by
  have hledger {s t : Session} (hs : w.Loose s.fd) (ht : w.Loose t.fd)
      (hwin : t.staging.window = []) : (w'.half s).Ledger (w'.half t) := by
    have hfs := h.housed.fresh s.fd hs.1 hs.2
    have hft := h.housed.fresh t.fd ht.1 ht.2
    have hpassed : (w.half t).passed = [] := by
      rw [Half.passed, half, hft.sent, hwin, List.append_nil]
    rw [half, half, ha.host]
    exact ⟨hfs.sound, hfs.received.trans hpassed.symm⟩
  exact ⟨hpaired, hledger hc hr hrwin, hledger hr hc hcwin⟩

theorem Sound.attached (h : w.Sound) (ha : Attached w w' id pid c r)
    (hlent : LentTwo w.pool w'.pool) (hc : w.Loose c.fd) (hr : w.Loose r.fd) (hne : c.fd ≠ r.fd)
    (hpaired : c.Paired r) (hcwin : c.staging.window = []) (hrwin : r.staging.window = [])
    (hpeer : c.peer = some pid) (hback : r.peer = some id)
    (hclen : c.staging.buffer.length = w.pool.bufferSize)
    (hrlen : r.staging.buffer.length = w.pool.bufferSize) : w'.Sound where
  enrolled := h.enrolled_attached ha
  stocked := h.stocked_attached ha hlent hclen hrlen
  housed := h.housed_attached ha
  held x s hx := ha.holds h hc hr hne hx
  settled x s hx _ := by
    have hl := h.linked_attached ha hc hr hpaired hcwin hrwin
    rcases ha.cases hx with ⟨rfl, rfl⟩ | ⟨rfl, rfl⟩ | hold
    · rw [Settled, hpeer]
      exact ⟨r, ha.session_pid, hback, hl⟩
    · rw [Settled, hback]
      exact ⟨c, ha.session_id, hpeer, hl.symm⟩
    · refine (h.settled x s hold List.not_mem_nil).frame ?_ (by rw [ha.host])
      intro y p _ hy
      exact ⟨ha.session_old hy, by rw [ha.host]⟩

end

theorem Attached.admitted {c r : Session} (ha : Attached w w' id pid c r) (hc : w.Loose c.fd)
    (hr : w.Loose r.fd) : Admitted w w' where
  sessions x s hx := ha.session_old hx
  newcomers x s hx := by
    rcases ha.cases hx with ⟨-, rfl⟩ | ⟨-, rfl⟩ | hold
    · exact Or.inr (Or.inl hc)
    · exact Or.inr (Or.inl hr)
    · exact Or.inl hold
  files fd _ _ := by rw [ha.host]
  next := Int.le_of_eq (by rw [ha.host])
  settings := ha.settings

/-- Attaching two loose sockets makes a pair of them. It stops for want of memory, or because one of
them cannot be registered. -/
theorem leads_attachPair_loose (h : w.Sound) (hc : w.Loose client) (hr : w.Loose remote)
    (hne : client ≠ remote) (status : ConnectStatus) :
    Leads (attachPair client remote status) w
      (fun ids w' => Joins w w' client remote status ids.1 ids.2)
      (fun a => w.Registrable client → w.Registrable remote →
        a = .panic .capacityOverflow ∧ w.Cramped 1) := by
  have hfree : w.poller.Free w.view client ∧ w.poller.Free w.view remote
      ∨ ∀ e : PollError, w.Registrable client → w.Registrable remote →
        Abort.fatal (.registration e) = .panic .capacityOverflow ∧ w.Cramped 1 := by
    by_cases hboth : w.Registrable client ∧ w.Registrable remote
    · exact Or.inl ⟨h.free hc hboth.1, h.free hr hboth.2⟩
    · exact Or.inr fun e hcr hrr => absurd ⟨hcr, hrr⟩ hboth
  exact leads_attachPair h.enrolled.poller h.stocked.pool hne status
    (fun hmem _ _ => ⟨rfl, hmem⟩) hfree

/-- A pair of loose sockets leaves the worker in order, and everything else as it was. Other loose
files stay loose, which is what the clients behind this one need. -/
theorem Sound.joined {status : ConnectStatus} (h : w.Sound)
    (hj : Joins w w' client remote status id pid) (hc : w.Loose client) (hr : w.Loose remote)
    (hne : client ≠ remote) : w'.Sound ∧ Admitted w w'
      ∧ (∀ fd, w.Loose fd → fd ≠ client → fd ≠ remote → w'.Loose fd)
      ∧ w'.control = w.control ∧ w'.incoming = w.incoming ∧ w'.host = w.host
      ∧ w'.poller.backend = w.poller.backend := by
  obtain ⟨hlent, b, b', l₁, l₂, l₃, l₄, hlen, hlen', ha⟩ := hj
  refine ⟨h.attached ha hlent hc hr hne (Session.paired_new ..) ?_ ?_ rfl rfl hlen hlen',
    ha.admitted hc hr, fun fd hl hfc hfr => ?_, ha.control, ha.incoming, ha.host, ha.backend⟩
  · exact List.length_eq_zero_iff.mp (Staging.length_window _)
  · exact List.length_eq_zero_iff.mp (Staging.length_window _)
  · refine ⟨by rw [ha.host]; exact hl.1, ?_⟩
    intro hown
    rcases (ha.owned_iff fd).mp hown with rfl | rfl | hold
    · exact hfc rfl
    · exact hfr rfl
    · exact hl.2 hold

theorem leads_attachPair_sound (h : w.Sound) (hc : w.Loose client) (hr : w.Loose remote)
    (hne : client ≠ remote) (status : ConnectStatus) :
    Leads (attachPair client remote status) w (fun _ w' => w'.Sound ∧ Admitted w w'
      ∧ (∀ fd, w.Loose fd → fd ≠ client → fd ≠ remote → w'.Loose fd)
      ∧ w'.control = w.control ∧ w'.incoming = w.incoming ∧ w'.host = w.host
      ∧ w'.poller.backend = w.poller.backend)
      (fun a => w.Registrable client → w.Registrable remote → a = .panic .capacityOverflow) :=
  (leads_attachPair_loose h hc hr hne status).mono (fun _ _ hj => h.joined hj hc hr hne)
    fun _ ha hcr hrr => (ha hcr hrr).1

end Worker

end Sluice
