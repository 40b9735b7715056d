import Sluice.Proofs.Worker.Batches

/-!
# Crews

The session of an event and its peer, if it has one, are the crew of the event (`Worker.Crew`). An
event that destroys nothing happens within its crew, and what it does there depends on nothing else:
a worker in order that agrees on the crew, whatever else is different in it, handles the event to
the same end (`Sound.confined`).
-/

namespace Sluice.Worker

variable {w w' w₁ v v' : Worker} {id pid : SessionId} {s p : Session} {e : Event}
  {ids ids' : List SessionId} {fds fds' : List Descriptor}

/-! ## Workers that agree -/

theorem Within.symm (h : Within ids fds w w') : Within ids fds w' w where
  sessions id hid := (h.sessions id hid).symm
  files fd hfd := (h.files fd hfd).symm
  watched fd hfd := (h.watched fd hfd).symm
  backend := h.backend.symm
  size := h.size.symm
  slots := h.slots.symm
  free := h.free.symm
  pool := h.pool.symm
  settings := h.settings.symm
  index := h.index.symm
  control := h.control.symm
  incoming := h.incoming.symm
  next := h.next.symm
  network := h.network.symm
  exhausted := h.exhausted.symm

/-- The two workers have the same sessions in the slots `ids`, and the same files and registrations
at `fds`. -/
structure SameOn (ids : List SessionId) (fds : List Descriptor) (w v : Worker) : Prop where
  sessions : ∀ id ∈ ids, v.session? id = w.session? id
  files : ∀ fd ∈ fds, v.host.file fd = w.host.file fd
  watched : ∀ fd ∈ fds, v.poller.registration? fd = w.poller.registration? fd
  settings : v.settings = w.settings

theorem SameOn.symm (h : SameOn ids fds w v) : SameOn ids fds v w :=
  ⟨fun id hid => (h.sessions id hid).symm, fun fd hfd => (h.files fd hfd).symm,
    fun fd hfd => (h.watched fd hfd).symm, h.settings.symm⟩

theorem SameOn.trans (h : SameOn ids fds w v) (h' : SameOn ids fds v v') : SameOn ids fds w v' :=
  ⟨fun id hid => (h'.sessions id hid).trans (h.sessions id hid),
    fun fd hfd => (h'.files fd hfd).trans (h.files fd hfd),
    fun fd hfd => (h'.watched fd hfd).trans (h.watched fd hfd), h'.settings.trans h.settings⟩

theorem Within.sameOn (h : Within ids fds w w') (hids : ∀ id ∈ ids', id ∉ ids)
    (hfds : ∀ fd ∈ fds', fd ∉ fds) : SameOn ids' fds' w w' :=
  ⟨fun id hid => h.sessions id (hids id hid), fun fd hfd => h.files fd (hfds fd hfd),
    fun fd hfd => h.watched fd (hfds fd hfd), h.settings⟩

/-- Workers that agree within some sessions and do not differ elsewhere do not differ, as far as
sessions, files and registrations go. -/
theorem Within.close (h : Within ids fds w w') (ha : SameOn ids fds w w') : Within [] [] w w' :=
  { h with
    sessions := fun id _ => by
      by_cases hid : id ∈ ids
      · exact ha.sessions id hid
      · exact h.sessions id hid
    files := fun fd _ => by
      by_cases hfd : fd ∈ fds
      · exact ha.files fd hfd
      · exact h.files fd hfd
    watched := fun fd _ => by
      by_cases hfd : fd ∈ fds
      · exact ha.watched fd hfd
      · exact h.watched fd hfd }

theorem Within.carry (h : Within ids fds w v) (hw : Within ids' fds' w w')
    (hv : Within ids' fds' v v')
    (ha : SameOn ids' fds' w' v') : Within ids fds w' v' where
  sessions x hx := by
    by_cases hmem : x ∈ ids'
    · exact ha.sessions x hmem
    · rw [hv.sessions x hmem, h.sessions x hx, hw.sessions x hmem]
  files fd hfd := by
    by_cases hmem : fd ∈ fds'
    · exact ha.files fd hmem
    · rw [hv.files fd hmem, h.files fd hfd, hw.files fd hmem]
  watched fd hfd := by
    by_cases hmem : fd ∈ fds'
    · exact ha.watched fd hmem
    · rw [hv.watched fd hmem, h.watched fd hfd, hw.watched fd hmem]
  backend := by rw [hv.backend, h.backend, hw.backend]
  size := by rw [hv.size, h.size, hw.size]
  slots := by rw [hv.slots, h.slots, hw.slots]
  free := by rw [hv.free, h.free, hw.free]
  pool := by rw [hv.pool, h.pool, hw.pool]
  settings := by rw [hv.settings, h.settings, hw.settings]
  index := by rw [hv.index, h.index, hw.index]
  control := by rw [hv.control, h.control, hw.control]
  incoming := by rw [hv.incoming, h.incoming, hw.incoming]
  next := by rw [hv.next, h.next, hw.next]
  network := by rw [hv.network, h.network, hw.network]
  exhausted := by rw [hv.exhausted, h.exhausted, hw.exhausted]

/-! ## Crews -/

/-- The session `id` and its peer, if it has one, with their descriptors: all that an event of the
session may touch as long as nothing is destroyed. -/
inductive Crew (w : Worker) (id : SessionId) : List SessionId → List Descriptor → Prop
  | alone {s : Session} (hs : w.session? id = some s) (hpeer : s.peer = none) :
      Crew w id [id] [s.fd]
  | pair {s p : Session} {pid : SessionId} (hs : w.session? id = some s)
      (hp : w.session? pid = some p) (hpeer : s.peer = some pid) : Crew w id [id, pid] [s.fd, p.fd]

theorem Sound.exists_crew (h : w.Sound) (hid : w.session? id ≠ none) :
    ∃ ids fds, Crew w id ids fds := by
  obtain ⟨s, hs⟩ := Option.ne_none_iff_exists'.mp hid
  cases hpeer : s.peer with
  | none => exact ⟨_, _, .alone hs hpeer⟩
  | some pid =>
    obtain ⟨p, hp, -⟩ := h.linked hs List.not_mem_nil hpeer
    exact ⟨_, _, .pair hs hp hpeer⟩

theorem Crew.sameOn (hc : Crew w id ids fds) (ha : SameOn ids fds w v) : Crew v id ids fds := by
  cases hc with
  | alone hs hpeer => exact .alone ((ha.sessions _ (by simp)).trans hs) hpeer
  | pair hs hp hpeer =>
    exact .pair ((ha.sessions _ (by simp)).trans hs) ((ha.sessions _ (by simp)).trans hp) hpeer

/-- The sessions `ids` are there with their peers, and `fds` are descriptors of theirs. -/
structure Manned (w : Worker) (ids : List SessionId) (fds : List Descriptor) : Prop where
  there : ∀ x ∈ ids, w.session? x ≠ none
  owners : ∀ fd ∈ fds, ∃ x ∈ ids, ∃ t, w.session? x = some t ∧ t.fd = fd
  closed : ∀ x ∈ ids, ∀ t, w.session? x = some t → ∀ y, t.peer = some y → y ∈ ids

theorem manned_nil (w : Worker) : w.Manned [] [] :=
  ⟨nofun, nofun, nofun⟩

theorem Crew.manned (hc : Crew w id ids fds) (h : w.Sound) : w.Manned ids fds := by
  cases hc with
  | @alone s hs hpeer =>
    refine ⟨by simp [hs], by simp [hs], ?_⟩
    intro x hx t ht y hy
    obtain rfl := List.mem_singleton.mp hx
    obtain rfl := Option.some.inj (hs.symm.trans ht)
    rw [hpeer] at hy
    cases hy
  | @pair s p pid hs hp hpeer =>
    obtain ⟨hback, -, -⟩ := h.linked_peer hs hp hpeer
    refine ⟨by simp [hs, hp], by simp [hs, hp], ?_⟩
    intro x hx t ht y hy
    rcases List.mem_pair.mp hx with rfl | rfl
    · obtain rfl := Option.some.inj (hs.symm.trans ht)
      simp [Option.some.inj (hpeer.symm.trans hy)]
    · obtain rfl := Option.some.inj (hp.symm.trans ht)
      simp [Option.some.inj (hback.symm.trans hy)]

theorem Manned.fd_not_mem (hm : w.Manned ids fds) (h : w.Sound) (hs : w.session? id = some s)
    (hid : id ∉ ids) : s.fd ∉ fds := by
  intro hfd
  obtain ⟨x, hx, t, ht, heq⟩ := hm.owners s.fd hfd
  exact hid (h.fd_inj hs ht heq.symm ▸ hx)

/-- A session outside has its crew outside. Otherwise it would be the peer of a session inside,
whose peer is inside as well. -/
theorem Manned.crew_outside (hm : w.Manned ids fds) (h : w.Sound) (hc : Crew w id ids' fds')
    (hid : id ∉ ids) : (∀ x ∈ ids, x ∉ ids') ∧ ∀ fd ∈ fds, fd ∉ fds' := by
  have hout : ∀ x ∈ ids', x ∉ ids := by
    cases hc with
    | alone hs hpeer => simpa using hid
    | @pair s p pid hs hp hpeer =>
      obtain ⟨hback, -, -⟩ := h.linked_peer hs hp hpeer
      intro x hx
      rcases List.mem_pair.mp hx with rfl | rfl
      · exact hid
      · exact fun hmem => hid (hm.closed _ hmem p hp _ hback)
  refine ⟨fun x hx hx' => hout x hx' hx, ?_⟩
  intro fd hfd hfd'
  obtain ⟨x, hx, t, ht, rfl⟩ := (hc.manned h).owners fd hfd'
  exact hm.fd_not_mem h ht (hout x hx) hfd

/-! ## Events within their crews -/

theorem Sound.served_there (h : w.Sound) (hok : onSessionReady e w = .ok false w') :
    w.session? (Session.ofToken e.token) ≠ none := by
  have hh := h.handled_of_ok hok
  cases hh with
  | alone hs | pair hs =>
    rw [hs]
    exact Option.some_ne_none _

/-- A draining session whose event destroys nothing was not doomed, so that what the event has made
of it is what it makes of its half. -/
theorem Sound.served_alone (h : w.Sound) (hok : onSessionReady e w = .ok false w')
    (hs : w.session? (Session.ofToken e.token) = some s) (hpeer : s.peer = none) :
    (Half.drain e (w.half s)).1 = false ∧ Tends w w' (Session.ofToken e.token)
      (Half.drain e (w.half s)).2 (Half.drain e (w.half s)).2.session.interest := by
  have hh := h.handled_of_ok hok
  cases hh with
  | alone hs' _ hr ht =>
    obtain rfl := Option.some.inj (hs'.symm.trans hs)
    exact ⟨hr, ht⟩
  | pair hs' _ hlink =>
    obtain rfl := Option.some.inj (hs'.symm.trans hs)
    rw [hpeer] at hlink
    cases hlink

theorem Sound.served_pair (h : w.Sound) (hok : onSessionReady e w = .ok false w')
    (hs : w.session? (Session.ofToken e.token) = some s) (hp : w.session? pid = some p)
    (hpeer : s.peer = some pid) : ∃ a' b',
      Half.onEvent w.settings.maxOpsPerFd e (w.half s) (w.half p) = ⟨none, a', b'⟩
        ∧ Attends w w' (Session.ofToken e.token) pid a' b' := by
  have hh := h.handled_of_ok hok
  cases hh with
  | alone hs' hnone =>
    obtain rfl := Option.some.inj (hs'.symm.trans hs)
    rw [hpeer] at hnone
    cases hnone
  | @pair s' p' pid' r _ hs' hp' hpeer' hr hd ha =>
    obtain rfl := Option.some.inj (hs'.symm.trans hs)
    obtain rfl := Option.some.inj (hpeer'.symm.trans hpeer)
    obtain rfl := Option.some.inj (hp'.symm.trans hp)
    refine ⟨r.self, r.peer, ?_, ha⟩
    rw [← hr, ← hd]

/-- The event, which has led from `w` to `w'`, has touched nothing but the sessions `ids` and the
files and registrations of `fds`, and what it has made of these depends on nothing else. -/
structure Confined (e : Event) (ids : List SessionId) (fds : List Descriptor)
    (w w' : Worker) : Prop where
  within : Within ids fds w w'
  alike : ∀ v, v.Sound → SameOn ids fds w v → ∃ v', onSessionReady e v = .ok false v'
    ∧ SameOn ids fds w' v'

theorem Holds.sameOn {a : Half} {i : Interest} (h : w.Holds id a i) (h' : v.Holds id a i)
    (hsettings : v.settings = w.settings) : SameOn [id] [a.session.fd] w v := by
  refine ⟨?_, ?_, ?_, hsettings⟩
  · simp [h.session, h'.session]
  · simp [h.file, h'.file]
  · simp [h.watched, h'.watched]

theorem SameOn.cons {fd : Descriptor} (h : SameOn [id] [fd] w v) (h' : SameOn ids fds w v) :
    SameOn (id :: ids) (fd :: fds) w v where
  sessions := List.forall_mem_cons.mpr ⟨h.sessions id (by simp), h'.sessions⟩
  files := List.forall_mem_cons.mpr ⟨h.files fd (by simp), h'.files⟩
  watched := List.forall_mem_cons.mpr ⟨h.watched fd (by simp), h'.watched⟩
  settings := h.settings

theorem SameOn.half (h : SameOn ids fds w v) (hfd : s.fd ∈ fds) : v.half s = w.half s := by
  rw [Worker.half, Worker.half, h.files _ hfd]

theorem Sound.confined_alone (h : w.Sound) (hs : w.session? (Session.ofToken e.token) = some s)
    (hpeer : s.peer = none) (hgoes : (Half.drain e (w.half s)).1 = false)
    (ht : Tends w w' (Session.ofToken e.token) (Half.drain e (w.half s)).2
      (Half.drain e (w.half s)).2.session.interest) :
    Confined e [Session.ofToken e.token] [s.fd] w w' := by
  have hfd : (Half.drain e (w.half s)).2.session.fd = s.fd :=
    (Half.draining_drain e (h.draining hs hpeer)).1.fd
  rw [← hfd]
  refine ⟨ht.within, fun v hv ha => ?_⟩
  rw [hfd] at ha
  have hhalf : v.half s = w.half s := ha.half (by simp)
  obtain ⟨v', hok', ht'⟩ := hv.onSessionReady_alone ((ha.sessions _ (by simp)).trans hs) hpeer
    (by rw [hhalf]; exact hgoes)
  rw [hhalf] at ht'
  refine ⟨v', hok', ht.holds.sameOn ht'.holds ?_⟩
  rw [ht'.within.settings, ht.within.settings, ha.settings]

theorem Sound.confined_pair {a' b' : Half} (h : w.Sound)
    (hs : w.session? (Session.ofToken e.token) = some s) (hp : w.session? pid = some p)
    (hpeer : s.peer = some pid)
    (hr : Half.onEvent w.settings.maxOpsPerFd e (w.half s) (w.half p) = ⟨none, a', b'⟩)
    (hatt : Attends w w' (Session.ofToken e.token) pid a' b') :
    Confined e [Session.ofToken e.token, pid] [s.fd, p.fd] w w' := by
  obtain ⟨-, -, hk⟩ := h.event_keeps hs hp hpeer hr.symm
  have hfd : a'.session.fd = s.fd := hk.self.fd
  have hfd' : b'.session.fd = p.fd := hk.peer.fd
  rw [← hfd, ← hfd']
  refine ⟨hatt.within, fun v hv ha => ?_⟩
  rw [hfd, hfd'] at ha
  have hhalf : v.half s = w.half s := ha.half (by simp)
  have hhalf' : v.half p = w.half p := ha.half (by simp)
  obtain ⟨v', hok', hatt'⟩ := hv.onSessionReady_pair (r := ⟨none, a', b'⟩)
    ((ha.sessions _ (by simp)).trans hs) ((ha.sessions _ (by simp)).trans hp) hpeer
    (by rw [hhalf, hhalf', ha.settings, hr]) rfl
  have hsettings : v'.settings = w'.settings := by
    rw [hatt'.within.settings, hatt.within.settings, ha.settings]
  exact ⟨v', hok', (hatt.self.sameOn hatt'.self hsettings).cons
    (hatt.peer.sameOn hatt'.peer hsettings)⟩

/-- An event that destroys nothing is confined to its crew. The second part of that is the one to
show: a worker that agrees on the crew handles the event too, and comes to agree again. -/
theorem Sound.confined (h : w.Sound) (hc : Crew w (Session.ofToken e.token) ids fds)
    (hok : onSessionReady e w = .ok false w') : Confined e ids fds w w' := by
  cases hc with
  | alone hs hpeer =>
    obtain ⟨hgoes, ht⟩ := h.served_alone hok hs hpeer
    exact h.confined_alone hs hpeer hgoes ht
  | pair hs hp hpeer =>
    obtain ⟨a', b', hr, hatt⟩ := h.served_pair hok hs hp hpeer
    exact h.confined_pair hs hp hpeer hr hatt

end Sluice.Worker
