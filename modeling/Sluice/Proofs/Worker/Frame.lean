import Sluice.Proofs.Pair.Half
import Sluice.Proofs.Store.Registrations
import Sluice.Proofs.Store.Slots
import Sluice.Proofs.Worker.Leads

/-!
# A half in its worker

Where the parts of a half are kept in a worker (`Worker.Holds`), and what stays the same elsewhere
when it changes (`Worker.Within`). A small action on the session, on its file or on its registration
turns one half into another and touches nothing else: `Tends.putFile`, `Tends.modify` and
`Tends.update` say so, and `Tends.trans` chains them.

Two halves of one worker have different descriptors, because a descriptor is registered under one
token (`Holds.fd_ne`). So what happens to one leaves the other as it is (`Tends.other`), and a pair
is served by serving its halves in turn (`Serves.self`, `Serves.peer`).
-/

namespace Sluice

theorem File.Used.admits {f f' : File} {b : Backend} (h : f.Used f') (ha : b.Admits f.status) :
    b.Admits f'.status := by
  cases h with
  | device b => exact ha
  | @stream s s' h =>
    cases b with
    | epoll =>
      obtain ⟨c, hc⟩ := ha
      refine ⟨s'.conditions, ?_⟩
      simp only [File.status, h.nearOpen] at hc ⊢
      split at hc
      · next ho => rw [if_pos ho]
      · cases hc
    | kqueue => trivial
    | poll => trivial

namespace Worker

variable {w w' w'' : Worker} {id id' : SessionId} {a a' b b' : Half} {i i' j j' : Interest}
  {ids ids' : List SessionId} {fds fds' : List Descriptor}

/-! ## Holding a half -/

/-- Session `id` and the file behind it are `a`, and the poller watches that file for `i`. These are
the three places where a worker keeps the parts of a half. -/
structure Holds (w : Worker) (id : SessionId) (a : Half) (i : Interest) : Prop where
  session : w.session? id = some a.session
  file : w.host.file a.session.fd = a.file
  isOpen : a.file.isOpen = true
  watched : w.poller.registration? a.session.fd = some (Session.token id, i)
  admitted : w.poller.backend.Admits a.file.status

/-- Different sessions have different descriptors. -/
theorem Holds.fd_ne (h : w.Holds id a i) (h' : w.Holds id' b j) (hne : id ≠ id') :
    a.session.fd ≠ b.session.fd := by
  intro hfd
  have hw := h.watched
  rw [hfd, h'.watched] at hw
  have htoken := (Prod.mk.injEq .. |>.mp (Option.some.inj hw)).1
  exact hne (congrArg Session.ofToken htoken).symm

theorem Holds.admits_view (h : w.Holds id a i) :
    w.poller.backend.Admits (w.view.status a.session.fd) := by
  simp only [view, viewWith]
  split
  · exact Poller.backend_admits_live
  · rw [h.file]
    exact h.admitted

/-! ## What stays the same -/

/-- From `w` to `w'` the sessions `ids` have changed at most, and the files and registrations of
`fds`; nothing was added or removed. -/
structure Within (ids : List SessionId) (fds : List Descriptor) (w w' : Worker) : Prop where
  sessions : ∀ id, id ∉ ids → w'.session? id = w.session? id
  files : ∀ fd, fd ∉ fds → w'.host.file fd = w.host.file fd
  watched : ∀ fd, fd ∉ fds → w'.poller.registration? fd = w.poller.registration? fd
  backend : w'.poller.backend = w.poller.backend
  size : w'.sessions.size = w.sessions.size
  slots : w'.sessions.slots.size = w.sessions.slots.size
  free : w'.sessions.free = w.sessions.free
  pool : w'.pool = w.pool
  settings : w'.settings = w.settings
  index : w'.index = w.index
  control : w'.control = w.control
  incoming : w'.incoming = w.incoming
  next : w'.host.next = w.host.next
  network : w'.host.network = w.host.network
  exhausted : w'.host.exhausted = w.host.exhausted

theorem Within.refl (ids : List SessionId) (fds : List Descriptor) (w : Worker) :
    Within ids fds w w :=
  ⟨fun _ _ => rfl, fun _ _ => rfl, fun _ _ => rfl, rfl, rfl, rfl, rfl, rfl, rfl, rfl, rfl, rfl,
    rfl, rfl, rfl⟩

theorem Within.mono (h : Within ids fds w w') (hids : ids ⊆ ids') (hfds : fds ⊆ fds') :
    Within ids' fds' w w' :=
  { h with
    sessions := fun id hid => h.sessions id fun hm => hid (hids hm)
    files := fun fd hfd => h.files fd fun hm => hfd (hfds hm)
    watched := fun fd hfd => h.watched fd fun hm => hfd (hfds hm) }

theorem Within.trans (h : Within ids fds w w') (h' : Within ids fds w' w'') :
    Within ids fds w w'' where
  sessions id hid := (h'.sessions id hid).trans (h.sessions id hid)
  files fd hfd := (h'.files fd hfd).trans (h.files fd hfd)
  watched fd hfd := (h'.watched fd hfd).trans (h.watched fd hfd)
  backend := h'.backend.trans h.backend
  size := h'.size.trans h.size
  slots := h'.slots.trans h.slots
  free := h'.free.trans h.free
  pool := h'.pool.trans h.pool
  settings := h'.settings.trans h.settings
  index := h'.index.trans h.index
  control := h'.control.trans h.control
  incoming := h'.incoming.trans h.incoming
  next := h'.next.trans h.next
  network := h'.network.trans h.network
  exhausted := h'.exhausted.trans h.exhausted

theorem Within.holds (h : Within ids fds w w') (hb : w.Holds id b j) (hid : id ∉ ids)
    (hfd : b.session.fd ∉ fds) : w'.Holds id b j where
  session := (h.sessions id hid).trans hb.session
  file := (h.files _ hfd).trans hb.file
  isOpen := hb.isOpen
  watched := (h.watched _ hfd).trans hb.watched
  admitted := h.backend ▸ hb.admitted

theorem Holds.ne_none (h : w.Holds id a i) : w.session? id ≠ none := by
  rw [h.session]
  exact Option.some_ne_none _

theorem Within.stays (h : Within ids fds w w') (hids : ∀ id ∈ ids, w'.session? id ≠ none)
    (hid : w.session? id ≠ none) : w'.session? id ≠ none := by
  by_cases hm : id ∈ ids
  · exact hids id hm
  · rwa [h.sessions id hm]

/-! ## Changing one half -/

/-- From `w` to `w'`, where session `id` is `a`, at most this session has changed. The half is not
said to have been anything before: where it comes from is up to who chains such steps. -/
structure Tends (w w' : Worker) (id : SessionId) (a : Half) (i : Interest) : Prop where
  holds : w'.Holds id a i
  sound : w'.poller.Sound
  within : Within [id] [a.session.fd] w w'

theorem Holds.tends (h : w.Holds id a i) (hs : w.poller.Sound) : Tends w w id a i :=
  ⟨h, hs, .refl _ _ _⟩

theorem Tends.trans (h : Tends w w' id a i) (h' : Tends w' w'' id a' i')
    (hfd : a'.session.fd = a.session.fd) : Tends w w'' id a' i' :=
  ⟨h'.holds, h'.sound, hfd ▸ h.within.trans (hfd ▸ h'.within)⟩

theorem Tends.say (h : Tends w w' id a i) (log : List LogEntry) :
    Tends w { w' with log } id a i :=
  ⟨⟨h.holds.session, h.holds.file, h.holds.isOpen, h.holds.watched, h.holds.admitted⟩, h.sound,
    h.within.trans ⟨fun _ _ => rfl, fun _ _ => rfl, fun _ _ => rfl, rfl, rfl, rfl, rfl, rfl, rfl,
      rfl, rfl, rfl, rfl, rfl, rfl⟩⟩

theorem Tends.putFile (h : Tends w w' id a i) {f : File} (hf : a.file.Used f) :
    Tends w { w' with host := w'.host.put a.session.fd f } id (a.withFile f) i where
  holds := {
    session := h.holds.session
    file := by
      rw [Host.file_put]
      exact if_pos rfl
    isOpen := hf.isOpen.trans h.holds.isOpen
    watched := h.holds.watched
    admitted := hf.admits h.holds.admitted }
  sound := h.sound
  within := h.within.trans
    ⟨fun _ _ => rfl,
      fun fd hfd => by
        rw [Host.file_put]
        exact if_neg fun heq => hfd (List.mem_singleton.mpr heq),
      fun _ _ => rfl, rfl, rfl, rfl, rfl, rfl, rfl, rfl, rfl, rfl, rfl, rfl, rfl⟩

theorem session?_modify (w : Worker) (id id' : SessionId) (f : Session → Session) :
    ({ w with sessions := w.sessions.modify id f } : Worker).session? id'
      = if id = id' then (w.session? id').map f else w.session? id' :=
  Arena.get?_modify ..

theorem Tends.modify (h : Tends w w' id a i) {f : Session → Session} {s : Session}
    (hs : f a.session = s) (hfd : s.fd = a.session.fd) :
    Tends w { w' with sessions := w'.sessions.modify id f } id { a with session := s } i where
  holds := {
    session := by
      rw [session?_modify, if_pos rfl, h.holds.session, Option.map_some, hs]
    file := by rw [hfd]; exact h.holds.file
    isOpen := h.holds.isOpen
    watched := by rw [hfd]; exact h.holds.watched
    admitted := h.holds.admitted }
  sound := h.sound
  within := by
    rw [hfd]
    refine h.within.trans ?_
    exact ⟨fun id' hid => by
        rw [session?_modify]
        exact if_neg fun heq => hid (List.mem_singleton.mpr heq.symm),
      fun _ _ => rfl, fun _ _ => rfl, rfl, Arena.size_modify .., Arena.slots_size_modify ..,
      rfl, rfl, rfl, rfl, rfl, rfl, rfl, rfl, rfl⟩

/-- The poller watches the half for what its flags ask. It cannot refuse, since it watches the file
already. -/
theorem Tends.update (h : Tends w w' id a i) :
    ∃ p, w'.poller.update w'.view a.session.fd (Session.token id) a.session.interest = .ok p
      ∧ Tends w { w' with poller := p } id a a.session.interest := by
  obtain ⟨p, hp⟩ := Poller.update_succeeds (Session.token id) a.session.interest h.sound
    h.holds.watched h.holds.admits_view
  obtain ⟨hsound, hbackend, hreg⟩ := Poller.update_ok h.sound hp
  refine ⟨p, hp, ⟨?_, hsound, h.within.trans ?_⟩⟩
  · exact ⟨h.holds.session, h.holds.file, h.holds.isOpen, by rw [hreg, if_pos rfl],
      by rw [hbackend]; exact h.holds.admitted⟩
  · exact ⟨fun _ _ => rfl, fun _ _ => rfl,
      fun fd hfd => by
        rw [hreg]
        exact if_neg fun heq => hfd (List.mem_singleton.mpr heq),
      hbackend, rfl, rfl, rfl, rfl, rfl, rfl, rfl, rfl, rfl, rfl, rfl⟩

/-- Another half is held as before. -/
theorem Tends.other (h : Tends w w' id a i) (ha : w.Holds id a' i') (hb : w.Holds id' b j)
    (hfd : a.session.fd = a'.session.fd) (hne : id' ≠ id) : w'.Holds id' b j := by
  refine h.within.holds hb (by simpa using hne) ?_
  rw [List.mem_singleton, hfd]
  exact hb.fd_ne ha hne

theorem Tends.stays (h : Tends w w' id a i) (hid : w.session? id' ≠ none) :
    w'.session? id' ≠ none :=
  h.within.stays (by simpa using h.holds.ne_none) hid

/-! ## Changing the halves of a pair -/

/-- From `w` to `w'`, where session `id` is `a` and session `pid` is `b`, at most these two sessions
have changed. -/
structure Serves (w w' : Worker) (id pid : SessionId) (a b : Half) (i j : Interest) : Prop where
  self : w'.Holds id a i
  peer : w'.Holds pid b j
  ne : id ≠ pid
  sound : w'.poller.Sound
  within : Within [id, pid] [a.session.fd, b.session.fd] w w'

variable {pid : SessionId}

theorem Serves.symm (h : Serves w w' id pid a b i j) : Serves w w' pid id b a j i := by
  refine ⟨h.peer, h.self, h.ne.symm, h.sound, h.within.mono ?_ ?_⟩
  · simp
  · simp

theorem Serves.stays (h : Serves w w' id pid a b i j) (hid : w.session? id' ≠ none) :
    w'.session? id' ≠ none :=
  h.within.stays (by simpa using ⟨h.self.ne_none, h.peer.ne_none⟩) hid

/-- Serving one half serves the pair, as long as it keeps its descriptor: the other half is held as
before. -/
theorem Serves.tend (h : Serves w w' id pid a b i j) (ht : Tends w' w'' id a' i')
    (hfd : a'.session.fd = a.session.fd) : Serves w w'' id pid a' b i' j := by
  refine ⟨ht.holds, ht.other h.self h.peer hfd h.ne.symm, h.ne, ht.sound, ?_⟩
  have hw : Within [id, pid] [a'.session.fd, b.session.fd] w' w'' :=
    ht.within.mono (by simp) (by simp)
  exact hfd ▸ h.within.trans (hfd ▸ hw)

theorem Serves.trans (h : Serves w w' id pid a b i j) (h' : Serves w' w'' id pid a' b' i' j')
    (hfd : a'.session.fd = a.session.fd) (hfd' : b'.session.fd = b.session.fd) :
    Serves w w'' id pid a' b' i' j' := by
  have hw := h'.within
  rw [hfd, hfd'] at hw
  refine ⟨h'.self, h'.peer, h.ne, h'.sound, ?_⟩
  rw [hfd, hfd']
  exact h.within.trans hw

end Worker

end Sluice
