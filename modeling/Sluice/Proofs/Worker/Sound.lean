import Sluice.Proofs.Pair.Linked
import Sluice.Proofs.Socket.Dialing
import Sluice.Proofs.Store.Lending
import Sluice.Proofs.Worker.Frame

/-!
# The invariant of a worker

What holds of a worker between two actions of its turns (`Worker.Sound`): its poller watches the
control pipe, the sessions and nothing else (`Enrolled`), its pool has lent one buffer to each
session (`Stocked`), no one has touched the files that are no session's (`Housed`), each session is
held with its file, and each is linked to its peer or drains on its own (`Settled`).

While sessions are destroyed, some of them are out of order for a moment. `SoundBut except` leaves
these out, and `SoundBut.kin` says that it survives whatever happens to them alone.
-/

namespace Sluice

/-- Nothing has passed the near end of the file. -/
structure File.Fresh (f : File) : Prop where
  sound : f.Sound
  received : f.received = []
  sent : f.sent = []

def Attempt.Fresh (a : Attempt) : Prop :=
  ∀ s status, a.outcome = .ok (s, status) → (File.stream s).Fresh

namespace Worker

def half (w : Worker) (s : Session) : Half :=
  { session := s, file := w.host.file s.fd }

def Owned (w : Worker) (fd : Descriptor) : Prop :=
  ∃ id s, w.session? id = some s ∧ s.fd = fd

/-! ## The invariant -/

/-- The poller watches the control pipe, the sessions and nothing else. For what each session is
watched is said with its half. -/
structure Enrolled (w : Worker) : Prop where
  poller : w.poller.Sound
  control : w.poller.registration? w.control.readFd = some (.control, .readable)
  owned : ∀ fd r, w.poller.registration? fd = some r → fd = w.control.readFd ∨ w.Owned fd

/-- Each session has a buffer of the pool, and no other buffer is lent out. That there are no more
slots than buffers keeps the tokens of sessions apart from that of the control pipe. -/
structure Stocked (w : Worker) : Prop where
  pool : w.pool.Sound
  size : w.pool.bufferSize = w.settings.bufferSize
  positive : 0 < w.settings.bufferSize
  lent : w.pool.inUse = w.sessions.size
  slots : w.sessions.slots.size ≤ w.pool.capacity
  buffers : ∀ id s, w.session? id = some s → s.staging.buffer.length = w.pool.bufferSize

/-- Files that are no session's are fresh, and so are those still to come. A client that is taken in
later is one of them, and its pair has to begin with empty ledgers. -/
structure Housed (w : Worker) : Prop where
  fresh : ∀ fd, (w.host.file fd).isOpen = true → ¬ w.Owned fd → (w.host.file fd).Fresh
  next : ∀ fd, (w.host.file fd).isOpen = true → fd < w.host.next
  attempts : ∀ a ∈ w.host.network.attempts, a.Fresh

/-- A session is linked to its peer or, without one, drains. There is no third kind: a session
without a peer that has nothing to write was destroyed with it. -/
def Settled (w : Worker) (id : SessionId) (s : Session) : Prop :=
  match s.peer with
  | none => (w.half s).Draining
  | some pid => ∃ p, w.session? pid = some p ∧ p.peer = some id ∧ (w.half s).Linked (w.half p)

/-- The worker is in order, but for the links of the sessions in `except`. While a pair is served or
taken apart it is in this list, and everything else about it is still asked for. -/
structure SoundBut (except : List SessionId) (w : Worker) : Prop where
  enrolled : w.Enrolled
  stocked : w.Stocked
  housed : w.Housed
  held : ∀ id s, w.session? id = some s → w.Holds id (w.half s) s.interest
  settled : ∀ id s, w.session? id = some s → id ∉ except → w.Settled id s

def Sound (w : Worker) : Prop :=
  w.SoundBut []

variable {w w' : Worker} {id pid : SessionId} {s p : Session} {a a' b b' : Half} {i j : Interest}
  {except except' ids : List SessionId} {fds : List Descriptor}

theorem Holds.half_eq (h : w.Holds id a i) : w.half a.session = a := by
  rw [half, h.file]

/-! ## First consequences -/

theorem Stocked.lt_capacity {n : Nat} (h : w.Stocked) (hs : w.session? n = some s) :
    n < w.pool.capacity :=
  Nat.lt_of_lt_of_le (Arena.lt_slots_of_get? hs) h.slots

theorem Stocked.token_ne_control {n : Nat} (h : w.Stocked) (hs : w.session? n = some s) :
    Session.token n ≠ .control := by
  have hn := h.lt_capacity hs
  have hcap := h.pool.bounded
  intro htoken
  have hval : n = 2 ^ 64 - 1 := congrArg Token.value htoken
  rw [slotLength, allocationLimit] at hcap
  omega

theorem SoundBut.fd_ne_control (h : SoundBut except w) (hs : w.session? id = some s) :
    s.fd ≠ w.control.readFd := by
  intro hfd
  have hw := (h.held id s hs).watched
  rw [show (w.half s).session.fd = w.control.readFd from hfd, h.enrolled.control] at hw
  exact h.stocked.token_ne_control hs (Prod.mk.injEq .. |>.mp (Option.some.inj hw)).1.symm

/-- What is registered is the control pipe, and each session under its slot, for what its flags
ask. -/
theorem SoundBut.mem_registrations (h : SoundBut except w) {m : Registration} :
    m ∈ w.poller.registrations ↔ m = ⟨w.control.readFd, .control, .readable⟩
      ∨ ∃ id s, w.session? id = some s ∧ m = ⟨s.fd, Session.token id, s.interest⟩ := by
  rw [Poller.mem_registrations h.enrolled.poller]
  constructor
  · intro hm
    rcases h.enrolled.owned _ _ hm with hfd | ⟨id, s, hs, hfd⟩
    · rw [hfd, h.enrolled.control] at hm
      obtain ⟨htoken, hinterest⟩ := Prod.mk.injEq .. |>.mp (Option.some.inj hm)
      exact Or.inl (by rw [htoken, hinterest, ← hfd])
    · have hwatched := (h.held id s hs).watched
      rw [show (w.half s).session.fd = m.fd from hfd, hm] at hwatched
      obtain ⟨htoken, hinterest⟩ := Prod.mk.injEq .. |>.mp (Option.some.inj hwatched)
      exact Or.inr ⟨id, s, hs, by rw [← htoken, ← hinterest, hfd]⟩
  · rintro (rfl | ⟨id, s, hs, rfl⟩)
    · exact h.enrolled.control
    · exact (h.held id s hs).watched

theorem SoundBut.fd_inj (h : SoundBut except w) (hs : w.session? id = some s)
    (hp : w.session? pid = some p) (hfd : s.fd = p.fd) : id = pid := by
  by_contra hne
  exact (h.held id s hs).fd_ne (h.held pid p hp) hne hfd

theorem SoundBut.mono (h : SoundBut except w) (hsub : except ⊆ except') : SoundBut except' w :=
  { h with settled := fun id s hs hid => h.settled id s hs fun hm => hid (hsub hm) }

/-- What is out of order may be forgotten when it is gone, or when it is settled again. -/
theorem SoundBut.shrink (h : SoundBut except w)
    (hgone : ∀ id s, w.session? id = some s → id ∈ except → id ∈ except' ∨ w.Settled id s) :
    SoundBut except' w :=
  { h with
    settled := fun id s hs hid => by
      by_cases hm : id ∈ except
      · exact (hgone id s hs hm).resolve_left hid
      · exact h.settled id s hs hm }

/-- A session that is in order has a peer that is in order, or none. So nobody who is left alone is
linked to somebody to whom something happens. -/
theorem SoundBut.peer_not_mem (h : SoundBut except w) (hs : w.session? id = some s)
    (hid : id ∉ except) (hpeer : s.peer = some pid)
    (hclosed : ∀ p, w.session? pid = some p → pid ∈ ids → ∀ x, p.peer = some x → x ∈ except) :
    pid ∉ ids := by
  have hset := h.settled id s hs hid
  rw [Settled, hpeer] at hset
  obtain ⟨p, hp, hback, -⟩ := hset
  exact fun hm => hid (hclosed p hp hm id hback)

/-! ## The frame of the invariant -/

theorem Settled.frame (h : w.Settled id s)
    (hpeer : ∀ pid p, s.peer = some pid → w.session? pid = some p →
      w'.session? pid = some p ∧ w'.host.file p.fd = w.host.file p.fd)
    (hfile : w'.host.file s.fd = w.host.file s.fd) : w'.Settled id s := by
  have hs : w'.half s = w.half s := by rw [half, half, hfile]
  unfold Settled at h ⊢
  cases hp : s.peer with
  | none =>
    rw [hp] at h
    rw [hs]
    exact h
  | some pid =>
    rw [hp] at h
    obtain ⟨p, hlook, hback, hlinked⟩ := h
    obtain ⟨hlook', hfile'⟩ := hpeer pid p hp hlook
    have hp' : w'.half p = w.half p := by rw [half, half, hfile']
    exact ⟨p, hlook', hback, by rw [hs, hp']; exact hlinked⟩

/-- The invariant does not see the log, nor what the control pipe holds, nor which events were
found. -/
theorem SoundBut.of_same (h : SoundBut except w) (hsessions : w'.sessions = w.sessions)
    (hhost : w'.host = w.host) (hpool : w'.pool = w.pool) (hsettings : w'.settings = w.settings)
    (hread : w'.control.readFd = w.control.readFd) (hpoller : w'.poller.Sound)
    (hbackend : w'.poller.backend = w.poller.backend)
    (hreg : ∀ fd, w'.poller.registration? fd = w.poller.registration? fd) : SoundBut except w' := by
  have hlook (x : SessionId) : w'.session? x = w.session? x := by
    rw [session?, session?, hsessions]
  have hhalf (s : Session) : w'.half s = w.half s := by rw [half, half, hhost]
  have howned (fd : Descriptor) : w'.Owned fd ↔ w.Owned fd := by simp only [Owned, hlook]
  refine {
    enrolled := ⟨hpoller, ?_, fun fd r hr => ?_⟩
    stocked := ⟨hpool ▸ h.stocked.pool, ?_, hsettings ▸ h.stocked.positive, ?_, ?_,
      fun x s hx => ?_⟩
    housed := ⟨fun fd ho hn => ?_, fun fd ho => ?_, hhost ▸ h.housed.attempts⟩
    held := fun x s hx => ?_
    settled := fun x s hx hexc => ?_ }
  · rw [hreg, hread, h.enrolled.control]
  · rw [hreg] at hr
    rw [hread, howned]
    exact h.enrolled.owned fd r hr
  · rw [hpool, hsettings, h.stocked.size]
  · rw [hpool, hsessions, h.stocked.lent]
  · rw [hpool, hsessions]
    exact h.stocked.slots
  · rw [hpool]
    exact h.stocked.buffers x s (hlook x ▸ hx)
  · rw [hhost] at ho ⊢
    exact h.housed.fresh fd ho (mt (howned fd).mpr hn)
  · rw [hhost] at ho ⊢
    exact h.housed.next fd ho
  · have hh := h.held x s (hlook x ▸ hx)
    rw [hhalf]
    exact ⟨hx, by rw [hhost]; exact hh.file, hh.isOpen, by rw [hreg]; exact hh.watched,
      by rw [hbackend]; exact hh.admitted⟩
  · refine (h.settled x s (hlook x ▸ hx) hexc).frame (fun y p _ hy => ⟨(hlook y).trans hy, ?_⟩) ?_
    · rw [hhost]
    · rw [hhost]

theorem SoundBut.say (h : SoundBut except w) (log : List LogEntry) :
    SoundBut except { w with log } :=
  h.of_same rfl rfl rfl rfl rfl h.enrolled.poller rfl fun _ => rfl

structure SameSeat (a a' : Half) : Prop where
  fd : a'.session.fd = a.session.fd
  length : a'.session.staging.buffer.length = a.session.staging.buffer.length
  used : a.file.Used a'.file

/-- What happened to the sessions `ids` and to nothing else: each has its seat as before, that is,
its descriptor, a buffer of the same size and its registration. -/
structure Kin (ids : List SessionId) (fds : List Descriptor) (w w' : Worker) : Prop where
  within : Within ids fds w w'
  poller : w'.poller.Sound
  halves : ∀ id ∈ ids, ∃ a i a', w.Holds id a i ∧ w'.Holds id a' a'.session.interest ∧ SameSeat a a'
  owners : ∀ fd ∈ fds, ∃ id ∈ ids, ∃ s, w.session? id = some s ∧ s.fd = fd

namespace Kin

theorem session?_iff (h : Kin ids fds w w') (fd : Descriptor) (n : Nat) :
    (∃ s, w'.session? id = some s ∧ s.fd = fd ∧ s.staging.buffer.length = n)
      ↔ ∃ s, w.session? id = some s ∧ s.fd = fd ∧ s.staging.buffer.length = n := by
  by_cases hid : id ∈ ids
  · obtain ⟨a, i, a', ha, ha', hlike⟩ := h.halves id hid
    rw [ha.session, ha'.session]
    simp only [Option.some.injEq, exists_eq_left', hlike.fd, hlike.length]
  · rw [h.within.sessions id hid]

theorem owned_iff (h : Kin ids fds w w') (fd : Descriptor) : w'.Owned fd ↔ w.Owned fd := by
  constructor
  · rintro ⟨id, s, hs, hfd⟩
    obtain ⟨s', hs', hfd', -⟩ := (h.session?_iff fd _).mp ⟨s, hs, hfd, rfl⟩
    exact ⟨id, s', hs', hfd'⟩
  · rintro ⟨id, s, hs, hfd⟩
    obtain ⟨s', hs', hfd', -⟩ := (h.session?_iff fd _).mpr ⟨s, hs, hfd, rfl⟩
    exact ⟨id, s', hs', hfd'⟩

theorem isOpen (h : Kin ids fds w w') (fd : Descriptor) :
    (w'.host.file fd).isOpen = (w.host.file fd).isOpen := by
  by_cases hfd : fd ∈ fds
  · obtain ⟨id, hid, s, hs, rfl⟩ := h.owners fd hfd
    obtain ⟨a, i, a', ha, ha', hlike⟩ := h.halves id hid
    obtain rfl := Option.some.inj (ha.session.symm.trans hs)
    have hfile' := ha'.file
    rw [hlike.fd] at hfile'
    rw [ha.file, hfile', hlike.used.isOpen]
  · rw [h.within.files fd hfd]

theorem not_mem (h : Kin ids fds w w') (hw : SoundBut except w) (hs : w.session? id = some s)
    (hid : id ∉ ids) : s.fd ∉ fds := by
  intro hfd
  obtain ⟨id', hid', s', hs', hfd'⟩ := h.owners _ hfd
  exact hid (hw.fd_inj hs hs' hfd'.symm ▸ hid')

end Kin

theorem SoundBut.enrolled_kin (h : SoundBut except w) (hk : Kin ids fds w w') : w'.Enrolled where
  poller := hk.poller
  control := by
    have hnot : w.control.readFd ∉ fds := fun hm => by
      obtain ⟨id, -, s, hs, hfd⟩ := hk.owners _ hm
      exact h.fd_ne_control hs hfd
    rw [hk.within.control, hk.within.watched _ hnot]
    exact h.enrolled.control
  owned fd r hr := by
    by_cases hfd : fd ∈ fds
    · obtain ⟨id, -, s, hs, hfd'⟩ := hk.owners fd hfd
      exact Or.inr ((hk.owned_iff fd).mpr ⟨id, s, hs, hfd'⟩)
    · rw [hk.within.watched fd hfd] at hr
      rw [hk.within.control, hk.owned_iff]
      exact h.enrolled.owned fd r hr

theorem SoundBut.stocked_kin (h : SoundBut except w) (hk : Kin ids fds w w') : w'.Stocked where
  pool := hk.within.pool ▸ h.stocked.pool
  size := by rw [hk.within.pool, hk.within.settings]; exact h.stocked.size
  positive := hk.within.settings ▸ h.stocked.positive
  lent := by rw [hk.within.pool, hk.within.size]; exact h.stocked.lent
  slots := by rw [hk.within.pool, hk.within.slots]; exact h.stocked.slots
  buffers id s hs := by
    obtain ⟨s', hs', -, hlen⟩ := (hk.session?_iff s.fd _).mp ⟨s, hs, rfl, rfl⟩
    rw [← hlen, hk.within.pool]
    exact h.stocked.buffers id s' hs'

theorem SoundBut.housed_kin (h : SoundBut except w) (hk : Kin ids fds w w') : w'.Housed where
  fresh fd hopen hown := by
    rw [hk.owned_iff] at hown
    rw [hk.isOpen] at hopen
    have hfd : fd ∉ fds := fun hm => by
      obtain ⟨id, -, s, hs, hfd⟩ := hk.owners fd hm
      exact hown ⟨id, s, hs, hfd⟩
    rw [hk.within.files fd hfd]
    exact h.housed.fresh fd hopen hown
  next fd hopen := by
    rw [hk.isOpen] at hopen
    rw [hk.within.next]
    exact h.housed.next fd hopen
  attempts := hk.within.network ▸ h.housed.attempts

/-- What happens to sessions that are out of order leaves the others in order. The list has to be
closed under peers, or somebody else would be linked to a session that has changed. -/
theorem SoundBut.kin (h : SoundBut except w) (hk : Kin ids fds w w') (hsub : ids ⊆ except)
    (hclosed : ∀ id ∈ ids, ∀ s, w.session? id = some s → ∀ pid, s.peer = some pid → pid ∈ except) :
    SoundBut except w' where
  enrolled := h.enrolled_kin hk
  stocked := h.stocked_kin hk
  housed := h.housed_kin hk
  held id s hs := by
    by_cases hid : id ∈ ids
    · obtain ⟨a, i, a', -, ha', -⟩ := hk.halves id hid
      obtain rfl := Option.some.inj (ha'.session.symm.trans hs)
      rw [ha'.half_eq]
      exact ha'
    · rw [hk.within.sessions id hid] at hs
      have hfd := hk.not_mem h hs hid
      rw [half, hk.within.files _ hfd]
      exact hk.within.holds (h.held id s hs) hid hfd
  settled id s hs hexc := by
    have hid : id ∉ ids := fun hm => hexc (hsub hm)
    rw [hk.within.sessions id hid] at hs
    refine (h.settled id s hs hexc).frame (fun pid p hpeer hp => ?_)
      (hk.within.files _ (hk.not_mem h hs hid))
    have hpid : pid ∉ ids :=
      h.peer_not_mem hs hexc hpeer fun p hp hm x hx => hclosed pid hm p hp x hx
    exact ⟨(hk.within.sessions pid hpid).trans hp, hk.within.files _ (hk.not_mem h hp hpid)⟩

theorem SoundBut.tends (h : SoundBut except w) (ha : w.Holds id a i)
    (ht : Tends w w' id a' a'.session.interest) (hseat : SameSeat a a') (hid : id ∈ except)
    (hclosed : ∀ pid, a.session.peer = some pid → pid ∈ except) : SoundBut except w' := by
  have hk : Kin [id] [a'.session.fd] w w' := by
    refine ⟨ht.within, ht.sound, fun x hx => ?_, fun fd hfd => ?_⟩
    · obtain rfl := List.mem_singleton.mp hx
      exact ⟨a, i, a', ha, ht.holds, hseat⟩
    · obtain rfl := List.mem_singleton.mp hfd
      exact ⟨id, List.mem_singleton_self id, a.session, ha.session, hseat.fd.symm⟩
  refine h.kin hk (by simpa using hid) ?_
  intro x hx s hs pid hpid
  obtain rfl := List.mem_singleton.mp hx
  obtain rfl := Option.some.inj (hs.symm.trans ha.session)
  exact hclosed pid hpid

/-- Two sessions that are out of order and stay in their seats. Every event of a pair is of this
kind, as long as nothing is destroyed. -/
theorem SoundBut.serves (h : SoundBut except w) (ha : w.Holds id a i) (hb : w.Holds pid b j)
    (hv : Serves w w' id pid a' b' a'.session.interest b'.session.interest)
    (haseat : SameSeat a a') (hbseat : SameSeat b b') (hid : id ∈ except) (hpid : pid ∈ except)
    (hpeer : a.session.peer = some pid) (hback : b.session.peer = some id) :
    SoundBut except w' := by
  have hk : Kin [id, pid] [a'.session.fd, b'.session.fd] w w' := by
    refine ⟨hv.within, hv.sound, fun x hx => ?_, fun fd hfd => ?_⟩
    · rcases List.mem_pair.mp hx with rfl | rfl
      · exact ⟨a, i, a', ha, hv.self, haseat⟩
      · exact ⟨b, j, b', hb, hv.peer, hbseat⟩
    · rcases List.mem_pair.mp hfd with rfl | rfl
      · exact ⟨id, by simp, a.session, ha.session, haseat.fd.symm⟩
      · exact ⟨pid, by simp, b.session, hb.session, hbseat.fd.symm⟩
  refine h.kin hk (by simp [hid, hpid]) ?_
  intro x hx s hs y hy
  rcases List.mem_pair.mp hx with rfl | rfl
  · obtain rfl := Option.some.inj (hs.symm.trans ha.session)
    obtain rfl := Option.some.inj (hy.symm.trans hpeer)
    exact hpid
  · obtain rfl := Option.some.inj (hs.symm.trans hb.session)
    obtain rfl := Option.some.inj (hy.symm.trans hback)
    exact hid

end Worker

end Sluice
