import Sluice.Proofs.Worker.Handlers
import Sluice.Proofs.Worker.Sound

/-!
# Destroying sessions

What is left of a worker when a session is taken out of it (`Worker.Retired`), and the three ways in
which destroying ends (`Worker.Destroyed`): the session had no peer, its peer goes as well, or its
peer stays to write what it has. Destroying does not stop for a session that is there, linked or
alone (`leads_destroy_pair`, `leads_destroy_alone`), and it puts the worker in order again when the
links of the pair are all that is not (`SoundBut.destroyed_pair`).
-/

namespace Sluice

theorem File.isOpen_close (f : File) : f.close.isOpen = false := by
  cases f <;> rfl

namespace Worker

variable {w w' w₁ : Worker} {id pid : SessionId} {s p : Session} {a a' b : Half} {i j : Interest}
  {except : List SessionId}

/-! ## Taking one session out -/

/-- Session `id` with the descriptor `fd` is gone, and nothing else has changed: its slot is free,
its file is closed, its buffer was given back and nobody watches the descriptor. -/
structure Retired (w w' : Worker) (id : SessionId) (fd : Descriptor) : Prop where
  sessions : ∀ id', w'.session? id' = if id = id' then none else w.session? id'
  files : ∀ fd', w'.host.file fd' = if fd' = fd then (w.host.file fd).close else w.host.file fd'
  watched : ∀ fd', w'.poller.registration? fd' =
    if fd' = fd then none else w.poller.registration? fd'
  poller : w'.poller.Sound
  backend : w'.poller.backend = w.poller.backend
  size : w'.sessions.size + 1 = w.sessions.size
  slots : w'.sessions.slots.size = w.sessions.slots.size
  bufferSize : w'.pool.bufferSize = w.pool.bufferSize
  capacity : w'.pool.capacity = w.pool.capacity
  lent : w'.pool.inUse + 1 = w.pool.inUse
  settings : w'.settings = w.settings
  index : w'.index = w.index
  control : w'.control = w.control
  incoming : w'.incoming = w.incoming
  next : w'.host.next = w.host.next
  network : w'.host.network = w.host.network
  exhausted : w'.host.exhausted = w.host.exhausted

theorem releaseBuffer_ok {buffer : Buffer} {q : Pool} (h : w.pool.release buffer = .ok q) :
    releaseBuffer buffer w = .ok ⟨⟩ { w with pool := q } := by
  have hget : (get : Act Worker) w = .ok w w := rfl
  refine (bind_of_ok hget _).trans ?_
  rw [h]
  rfl

theorem retire_ok (h : w.Holds id a i) (hs : w.poller.Sound)
    (hlen : a.session.staging.buffer.length = w.pool.bufferSize) (huse : 0 < w.pool.inUse) :
    ∃ w', retire id w = .ok a.session.peer w' ∧ Retired w w' id a.session.fd := by
  obtain ⟨rest, hrest⟩ := Arena.remove_of_get? h.session
  obtain ⟨q, hq, hsize, hcap, hlent⟩ := Pool.release_ok hlen huse
  obtain ⟨r, hr⟩ := Poller.remove_succeeds hs h.watched h.admits_view
  obtain ⟨hsound, hbackend, hreg⟩ := Poller.remove_ok hs hr
  let w₁ := { w with
    sessions := rest
    log := ⟨.info, "disconnect " ++ a.session.text⟩ :: w.log }
  let w₂ := { w₁ with pool := q }
  let w₃ := { w₂ with poller := r }
  have hrelease : releaseBuffer a.session.staging.buffer w₁ = .ok ⟨⟩ w₂ := releaseBuffer_ok hq
  have hunregister : unregister a.session.fd w₂ = .ok ⟨⟩ w₃ := registered_ok hr
  refine ⟨{ w₃ with host := w₃.host.close a.session.fd }, ?_, ?_⟩
  · have hget : (get : Act Worker) w = .ok w w := rfl
    refine (bind_of_ok hget _).trans ?_
    rw [hrest]
    show (releaseBuffer a.session.staging.buffer >>= fun _ => unregister a.session.fd >>= fun _ =>
      modifyHost (·.close a.session.fd) >>= fun _ => pure a.session.peer) w₁ = _
    rw [bind_of_ok hrelease, bind_of_ok hunregister]
    rfl
  · exact {
      sessions := fun id' => Arena.get?_remove hrest id'
      files := fun fd' => Host.file_close ..
      watched := hreg
      poller := hsound
      backend := hbackend
      size := Arena.size_remove hrest
      slots := Arena.slots_size_remove hrest
      bufferSize := hsize
      capacity := hcap
      lent := hlent
      settings := rfl
      index := rfl
      control := rfl
      incoming := rfl
      next := rfl
      network := rfl
      exhausted := rfl }

/-! ## The invariant without the session -/

namespace Retired

theorem owned_iff (h : Retired w w' id s.fd) (hw : SoundBut except w) (hs : w.session? id = some s)
    (fd : Descriptor) : w'.Owned fd ↔ fd ≠ s.fd ∧ w.Owned fd := by
  constructor
  · rintro ⟨id', s', hs', rfl⟩
    rw [h.sessions] at hs'
    split at hs'
    · cases hs'
    · next hne => exact ⟨fun hfd => hne (hw.fd_inj hs hs' hfd.symm), id', s', hs', rfl⟩
  · rintro ⟨hne, id', s', hs', rfl⟩
    refine ⟨id', s', ?_, rfl⟩
    rw [h.sessions, if_neg]
    · exact hs'
    · rintro rfl
      exact hne (congrArg _ (Option.some.inj (hs'.symm.trans hs)))

theorem session?_of_ne (h : Retired w w' id s.fd) {id' : SessionId}
    (hs : w'.session? id' = some p) :
    id ≠ id' ∧ w.session? id' = some p := by
  rw [h.sessions] at hs
  split at hs
  · cases hs
  · next hne => exact ⟨hne, hs⟩

end Retired

theorem SoundBut.enrolled_retired (h : SoundBut except w) (hs : w.session? id = some s)
    (hr : Retired w w' id s.fd) : w'.Enrolled where
  poller := hr.poller
  control := by
    rw [hr.control, hr.watched, if_neg (h.fd_ne_control hs).symm]
    exact h.enrolled.control
  owned fd r hreg := by
    rw [hr.watched] at hreg
    split at hreg
    · cases hreg
    · next hfd =>
      rw [hr.control, hr.owned_iff h hs]
      exact (h.enrolled.owned fd r hreg).imp_right fun hown => ⟨hfd, hown⟩

theorem SoundBut.stocked_retired (h : SoundBut except w) (hr : Retired w w' id s.fd) :
    w'.Stocked where
  pool := h.stocked.pool.of_capacity hr.capacity
  size := by rw [hr.bufferSize, hr.settings]; exact h.stocked.size
  positive := hr.settings ▸ h.stocked.positive
  lent := by
    have hlent := h.stocked.lent
    have hpool := hr.lent
    have hsize := hr.size
    omega
  slots := by rw [hr.slots, hr.capacity]; exact h.stocked.slots
  buffers id' s' hs' := by
    rw [hr.bufferSize]
    exact h.stocked.buffers id' s' (hr.session?_of_ne hs').2

theorem SoundBut.housed_retired (h : SoundBut except w) (hs : w.session? id = some s)
    (hr : Retired w w' id s.fd) : w'.Housed where
  fresh fd hopen hown := by
    rw [hr.files] at hopen ⊢
    split at hopen
    · rw [File.isOpen_close] at hopen
      cases hopen
    · next hfd =>
      rw [if_neg hfd]
      rw [hr.owned_iff h hs] at hown
      exact h.housed.fresh fd hopen fun ho => hown ⟨hfd, ho⟩
  next fd hopen := by
    rw [hr.files] at hopen
    split at hopen
    · rw [File.isOpen_close] at hopen
      cases hopen
    · rw [hr.next]
      exact h.housed.next fd hopen
  attempts := hr.network ▸ h.housed.attempts

theorem SoundBut.retired (h : SoundBut except w) (hs : w.session? id = some s)
    (hr : Retired w w' id s.fd) (hid : id ∈ except)
    (hclosed : ∀ pid, s.peer = some pid → pid ∈ except) : SoundBut except w' where
  enrolled := h.enrolled_retired hs hr
  stocked := h.stocked_retired hr
  housed := h.housed_retired hs hr
  held id' s' hs' := by
    obtain ⟨hne, hlook⟩ := hr.session?_of_ne hs'
    have hfd : s'.fd ≠ s.fd := fun hfd => hne (h.fd_inj hs hlook hfd.symm)
    have hh := h.held id' s' hlook
    rw [half, hr.files, if_neg hfd]
    exact ⟨hs', by rw [hr.files, if_neg hfd], hh.isOpen,
      (hr.watched _).trans ((if_neg hfd).trans hh.watched), by rw [hr.backend]; exact hh.admitted⟩
  settled id' s' hs' hexc := by
    obtain ⟨hne, hlook⟩ := hr.session?_of_ne hs'
    have hfile (p : Session) (pid : SessionId) (hp : w.session? pid = some p) (hpid : pid ≠ id) :
        w'.host.file p.fd = w.host.file p.fd := by
      rw [hr.files, if_neg fun hfd => hpid (h.fd_inj hp hs hfd)]
    refine (h.settled id' s' hlook hexc).frame (fun pid p hpeer hp => ?_)
      (hfile s' id' hlook hne.symm)
    have hpid : pid ∉ [id] := h.peer_not_mem hlook hexc hpeer fun p' hp' hm x hx => by
      obtain rfl := List.mem_singleton.mp hm
      obtain rfl := Option.some.inj (hp'.symm.trans hs)
      exact hclosed x hx
    rw [List.mem_singleton] at hpid
    exact ⟨by rw [hr.sessions, if_neg (Ne.symm hpid), hp], hfile p pid hp hpid⟩

/-! ## Destroying -/

def left (b : Half) : Half :=
  b.set fun s => { s with peer := none, closeAfterFlush := true, awaitingReadable := false }

/-- The three ways in which destroying session `id` ends: it had no peer and goes alone, its peer
had nothing to write and goes as well, or the peer is left to drain. -/
inductive Destroyed (w : Worker) (id : SessionId) : Worker → Prop
  | alone {s : Session} {w' : Worker} (hs : w.session? id = some s) (hpeer : s.peer = none)
      (hr : Retired w w' id s.fd) : Destroyed w id w'
  | both {s p : Session} {pid : SessionId} {w₁ w' : Worker} (hs : w.session? id = some s)
      (hp : w.session? pid = some p) (hpeer : s.peer = some pid) (hne : id ≠ pid)
      (hidle : p.awaitingWritable = false) (h₁ : Retired w w₁ id s.fd)
      (h₂ : Retired w₁ w' pid p.fd) : Destroyed w id w'
  | drained {s p : Session} {pid : SessionId} {w₁ w' : Worker} (hs : w.session? id = some s)
      (hp : w.session? pid = some p) (hpeer : s.peer = some pid) (hne : id ≠ pid)
      (hblocked : p.awaitingWritable = true) (h₁ : Retired w w₁ id s.fd)
      (h₂ : Tends w₁ w' pid (left (w.half p)) (left (w.half p)).session.interest) :
      Destroyed w id w'

theorem SoundBut.retire_ok (h : SoundBut except w) (hs : w.session? id = some s) :
    ∃ w', retire id w = .ok s.peer w' ∧ Retired w w' id s.fd := by
  refine Worker.retire_ok (h.held id s hs) h.enrolled.poller (h.stocked.buffers id s hs) ?_
  obtain ⟨rest, hrest⟩ := Arena.remove_of_get? hs
  have hsize := Arena.size_remove hrest
  rw [h.stocked.lent]
  omega

/-- The peer of a session that was taken out follows it, unless it has bytes to write. It has no
peer any more when it is destroyed, so that the cascade ends with it. -/
theorem leads_part {w₁ : Worker} {b : Half} (hb : w₁.Holds pid b j) (hpoll : w₁.poller.Sound)
    (hlen : b.session.staging.buffer.length = w₁.pool.bufferSize) (huse : 0 < w₁.pool.inUse) :
    Leads (do
        modifySession pid fun s => { s with peer := none }
        if b.session.awaitingWritable then
          modifySession pid fun s => { s with closeAfterFlush := true, awaitingReadable := false }
          updateRegistration pid
        else
          let _ ← retire pid) w₁
      (fun _ w' => (b.session.awaitingWritable = false ∧ Retired w₁ w' pid b.session.fd)
        ∨ (b.session.awaitingWritable = true
          ∧ Tends w₁ w' pid (left b) (left b).session.interest)) never := by
  have ht := (hb.tends hpoll).modify (f := fun s => { s with peer := none }) rfl rfl
  rw [leads_bind, leads_modifySession, leads_ite]
  constructor
  · intro hblocked
    have ht' := ht.modify
      (f := fun s => { s with closeAfterFlush := true, awaitingReadable := false }) rfl rfl
    obtain ⟨w', hw', hup⟩ := updateRegistration_ok ht'.holds ht'.sound
    rw [leads_bind, leads_modifySession, leads_of_ok hw']
    exact Or.inr ⟨hblocked, ht'.trans hup rfl⟩
  · intro hidle
    rw [Bool.not_eq_true] at hidle
    obtain ⟨w', hw', hr⟩ := Worker.retire_ok ht.holds ht.sound hlen huse
    rw [leads_bind, leads_of_ok hw']
    refine Or.inl ⟨hidle, { hr with sessions := fun id' => (hr.sessions id').trans ?_, size := ?_,
                                    slots := ?_ }⟩
    · rw [session?_modify]
      split <;> rfl
    · rw [hr.size, Arena.size_modify]
    · rw [hr.slots, Arena.slots_size_modify]

theorem leads_destroy_alone (h : SoundBut except w) (hs : w.session? id = some s)
    (hpeer : s.peer = none) : Leads (destroy id) w (fun _ w' => Destroyed w id w') never := by
  obtain ⟨w', hw', hr⟩ := h.retire_ok hs
  rw [destroy, leads_bind, leads_of_ok hw', hpeer]
  exact .alone hs hpeer hr

theorem leads_destroy_pair (h : SoundBut except w) (hs : w.session? id = some s)
    (hp : w.session? pid = some p) (hpeer : s.peer = some pid) (hback : p.peer = some id)
    (hne : id ≠ pid) (hid : id ∈ except) (hpid : pid ∈ except) :
    Leads (destroy id) w (fun _ w' => Destroyed w id w') never := by
  obtain ⟨w₁, hw₁, hr₁⟩ := h.retire_ok hs
  have h₁ : SoundBut except w₁ :=
    h.retired hs hr₁ hid fun x hx => by
      obtain rfl := Option.some.inj (hx.symm.trans hpeer)
      exact hpid
  have hp₁ : w₁.session? pid = some p := by rw [hr₁.sessions, if_neg hne, hp]
  have hfile : w₁.host.file p.fd = w.host.file p.fd := by
    rw [hr₁.files, if_neg fun hfd => hne (h.fd_inj hs hp hfd.symm)]
  have hhalf : w₁.half p = w.half p := by rw [half, half, hfile]
  have huse : 0 < w₁.pool.inUse := by
    obtain ⟨rest, hrest⟩ := Arena.remove_of_get? hp₁
    have hsize := Arena.size_remove hrest
    rw [h₁.stocked.lent]
    omega
  have hpart :=
    leads_part (h₁.held pid p hp₁) h₁.enrolled.poller (h₁.stocked.buffers pid p hp₁) huse
  rw [destroy, leads_bind, leads_of_ok hw₁, hpeer]
  dsimp only
  rw [leads_bind, leads_session hp₁]
  rw [if_neg (not_not_intro hback)]
  refine hpart.imp ?_
  intro _ w' hend
  rcases hend with ⟨hidle, hr₂⟩ | ⟨hblocked, ht₂⟩
  · exact .both hs hp hpeer hne hidle hr₁ hr₂
  · rw [hhalf] at ht₂
    exact .drained hs hp hpeer hne hblocked hr₁ ht₂

theorem Destroyed.of_alone (hd : Destroyed w id w') (hs : w.session? id = some s)
    (hpeer : s.peer = none) : Retired w w' id s.fd := by
  cases hd with
  | alone hs' _ hr =>
    obtain rfl := Option.some.inj (hs'.symm.trans hs)
    exact hr
  | both hs' _ hlinked | drained hs' _ hlinked =>
    obtain rfl := Option.some.inj (hs'.symm.trans hs)
    rw [hpeer] at hlinked
    cases hlinked

/-- A linked session goes first; then its peer goes as well or is left alone. -/
theorem Destroyed.of_pair (hd : Destroyed w id w') (hs : w.session? id = some s)
    (hp : w.session? pid = some p) (hpeer : s.peer = some pid) :
    id ≠ pid ∧ ∃ w₁, Retired w w₁ id s.fd
      ∧ (p.awaitingWritable = false ∧ Retired w₁ w' pid p.fd
        ∨ p.awaitingWritable = true
          ∧ Tends w₁ w' pid (left (w.half p)) (left (w.half p)).session.interest) := by
  cases hd with
  | alone hs' hnone =>
    obtain rfl := Option.some.inj (hs'.symm.trans hs)
    rw [hpeer] at hnone
    cases hnone
  | both hs' hp' hpeer' hne hidle h₁ h₂ =>
    obtain rfl := Option.some.inj (hs'.symm.trans hs)
    obtain rfl := Option.some.inj (hpeer'.symm.trans hpeer)
    obtain rfl := Option.some.inj (hp'.symm.trans hp)
    exact ⟨hne, _, h₁, Or.inl ⟨hidle, h₂⟩⟩
  | drained hs' hp' hpeer' hne hblocked h₁ h₂ =>
    obtain rfl := Option.some.inj (hs'.symm.trans hs)
    obtain rfl := Option.some.inj (hpeer'.symm.trans hpeer)
    obtain rfl := Option.some.inj (hp'.symm.trans hp)
    exact ⟨hne, _, h₁, Or.inr ⟨hblocked, h₂⟩⟩

/-! ## The invariant after destroying -/

theorem SoundBut.destroyed_alone (h : SoundBut [id] w) (hs : w.session? id = some s)
    (hpeer : s.peer = none) (hd : Destroyed w id w') : w'.Sound := by
  have hr := hd.of_alone hs hpeer
  have h' := h.retired hs hr (List.mem_singleton_self id) fun x hx => by rw [hpeer] at hx; cases hx
  refine h'.shrink ?_
  intro id' s' hs' hmem
  exact absurd (List.mem_singleton.mp hmem).symm (hr.session?_of_ne hs').1

/-- A pair whose links are all that may be out of order leaves a worker in order behind, if the peer
was fit to go on alone. -/
theorem SoundBut.destroyed_pair (h : SoundBut except w) (hsub : ∀ x, x ∈ except ↔ x = id ∨ x = pid)
    (hs : w.session? id = some s) (hp : w.session? pid = some p) (hpeer : s.peer = some pid)
    (hback : p.peer = some id) (hne : id ≠ pid) (hfit : (w.half p).Fit) (hd : Destroyed w id w') :
    w'.Sound := by
  have hid : id ∈ except := (hsub id).mpr (Or.inl rfl)
  have hpid : pid ∈ except := (hsub pid).mpr (Or.inr rfl)
  have hfirst {w₁ : Worker} (hr₁ : Retired w w₁ id s.fd) :
      SoundBut except w₁ ∧ w₁.session? id = none ∧ w₁.session? pid = some p
        ∧ w₁.half p = w.half p := by
    refine ⟨h.retired hs hr₁ hid fun x hx => ?_, ?_, ?_, ?_⟩
    · obtain rfl := Option.some.inj (hx.symm.trans hpeer)
      exact hpid
    · rw [hr₁.sessions, if_pos rfl]
    · rw [hr₁.sessions, if_neg hne, hp]
    · rw [half, half, hr₁.files, if_neg fun hfd => hne (h.fd_inj hs hp hfd.symm)]
  obtain ⟨-, w₁, h₁, hend⟩ := hd.of_pair hs hp hpeer
  obtain ⟨hbut, hgone, hp₁, hhalf⟩ := hfirst h₁
  rcases hend with ⟨-, h₂⟩ | ⟨hblocked, h₂⟩
  · have hbut' := hbut.retired hp₁ h₂ hpid fun x hx => by
      obtain rfl := Option.some.inj (hx.symm.trans hback)
      exact hid
    refine hbut'.shrink ?_
    intro id' s' hs' hmem
    obtain ⟨hne', hlook⟩ := h₂.session?_of_ne hs'
    rcases (hsub id').mp hmem with rfl | rfl
    · rw [hgone] at hlook
      cases hlook
    · exact absurd rfl hne'
  · have hheld : Holds _ pid (w.half p) p.interest := hhalf ▸ hbut.held pid p hp₁
    have hbut' := hbut.tends hheld h₂ ⟨rfl, rfl, .refl _⟩ hpid fun x hx => by
      have hx : p.peer = some x := hx
      obtain rfl := Option.some.inj (hx.symm.trans hback)
      exact hid
    refine hbut'.shrink fun x t ht hmem => Or.inr ?_
    rcases (hsub x).mp hmem with rfl | rfl
    · rw [h₂.within.sessions x (by simpa using hne), hgone] at ht
      cases ht
    · obtain rfl := Option.some.inj (ht.symm.trans h₂.holds.session)
      have hdrain : (w'.half (left (w.half p)).session).Draining := by
        rw [h₂.holds.half_eq]
        exact ⟨hfit.session.draining hblocked, hfit.sound⟩
      exact hdrain

end Worker

end Sluice
