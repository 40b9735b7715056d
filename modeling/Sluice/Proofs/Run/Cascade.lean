import Sluice.Proofs.Run.Boundary
import Sluice.Proofs.Run.Isolation

/-!
# What destroying takes along

Destroying a session in full (`Worker.Cascade`): what goes and what stays, down to the buffers in
the pool and the counts. The peer goes as well when it has nothing to write, and otherwise it is
left to write what it has.

Destroying the peer is a recursion that comes back to destroying (`destroyBy`). It ends at the peer,
because the peer's link back is cleared before (`destroyBy_destroyBy`). Whenever a worker at a site
destroys a session, from outside or because of an event, this is what comes of it
(`Site.Reachable.destroy_cascades`).
-/

namespace Sluice

namespace Worker

variable {w w' w₁ : Worker} {id pid target : SessionId} {s p : Session} {except : List SessionId}

/-! ## The recursion -/

/-- Destroys a session, and leaves the peer to `next` unless it still has bytes to write. With
destroying itself as `next` it is what the cascade is meant to be; the program goes no further than
to the peer. -/
def destroyBy (next : SessionId → Act Unit) (id : SessionId) : Act Unit := do
  match ← retire id with
  | none => return
  | some peer =>
    let s ← session peer
    if s.peer ≠ some id then fatal (.notLinkedBack peer id)
    modifySession peer fun s => { s with peer := none }
    if s.awaitingWritable then
      modifySession peer fun s => { s with closeAfterFlush := true, awaitingReadable := false }
      updateRegistration peer
    else next peer

theorem leads_retire (hs : w.session? id = some s) :
    Leads (retire id) w (fun peer w' => peer = s.peer
      ∧ w'.pool.available = s.staging.buffer :: w.pool.available
      ∧ ∀ x, w'.session? x = if id = x then none else w.session? x) anyhow := by
  obtain ⟨rest, hrest⟩ := Arena.remove_of_get? hs
  rw [retire, leads_bind, leads_get, hrest]
  dsimp only
  rw [leads_bind, leads_set, leads_bind, leads_say, leads_bind, releaseBuffer,
    leads_bind, leads_get]
  dsimp only
  cases hq : w.pool.release s.staging.buffer with
  | error cause => trivial
  | ok pool =>
    rw [leads_set, leads_bind, unregister]
    refine leads_registered_cases _ (fun poller _ => ?_) fun _ _ => trivial
    exact ⟨rfl, Pool.release_available hq, Arena.get?_remove hrest⟩

/-- Two actions of the same beginning are the same when they go on the same way from where it
leads. -/
theorem bind_congr_of_leads {α β : Type} {x : Act α} {f g : α → Act β} {Q : α → Worker → Prop}
    (hx : Leads x w Q anyhow) (h : ∀ a w', Q a w' → f a w' = g a w') :
    (x >>= f) w = (x >>= g) w := by
  show EStateM.bind x f w = EStateM.bind x g w
  unfold EStateM.bind Leads at *
  cases hok : x w with
  | ok a w' =>
    rw [hok] at hx
    exact h a w' hx
  | error e w' => rfl

/-- A session without a peer goes alone, whatever would be done with a peer. This is where a cascade
ends, since a peer is unlinked before it is destroyed. -/
theorem destroyBy_alone (next : SessionId → Act Unit) (hs : w.session? id = some s)
    (hpeer : s.peer = none) : destroyBy next id w = (retire id >>= fun _ => pure ()) w := by
  refine bind_congr_of_leads (leads_retire hs) ?_
  rintro _ w' ⟨rfl, -⟩
  rw [hpeer]

theorem leads_session_self (id : SessionId) :
    Leads (session id) w (fun s w' => w.session? id = some s ∧ w' = w) anyhow := by
  rw [session, leads_bind, leads_get]
  cases w.session? id with
  | none => trivial
  | some s => exact ⟨rfl, rfl⟩

/-- Destroying goes on to the peer and no further: two levels are as good as any number of them. -/
theorem destroyBy_destroyBy (next : SessionId → Act Unit) (id : SessionId) :
    destroyBy (destroyBy next) id = destroy id := by
  funext w
  refine bind_congr_of_leads (leads_self _) fun peer w₁ _ => ?_
  cases peer with
  | none => rfl
  | some peer =>
    refine bind_congr_of_leads (leads_session_self peer) ?_
    rintro s _ ⟨hs, rfl⟩
    dsimp only
    split
    · rfl
    · refine bind_congr_of_leads
        (Q := fun _ w' => w'.session? peer = some { s with peer := none }) ?_
        fun _ w₂ hs₂ => ?_
      · rw [leads_modifySession, session?_modify, if_pos rfl, hs]
        rfl
      split
      · rfl
      · exact destroyBy_alone next hs₂ rfl

/-- Destroying the peer is destroying again. -/
theorem destroy_eq_destroyBy (id : SessionId) : destroy id = destroyBy destroy id := by
  have hdestroy : destroy = destroyBy (destroyBy destroy) :=
    funext fun id => (destroyBy_destroyBy destroy id).symm
  calc destroy id = destroyBy (destroyBy (destroyBy destroy)) id :=
        (destroyBy_destroyBy (destroyBy destroy) id).symm
    _ = destroyBy destroy id := by rw [← hdestroy]

/-! ## The pool -/

theorem leads_updateRegistration_pool (id : SessionId) :
    Leads (updateRegistration id) w (fun _ w' => w'.pool = w.pool) anyhow := by
  refine Leads.bind (leads_session_self id) ?_
  rintro s w' ⟨-, rfl⟩
  exact leads_registered_cases _ (fun _ _ => rfl) fun _ _ => trivial

/-- The buffers that go back, the one that goes back last in front. How the three cases come about
is read off the flags and links at the beginning, before anything is destroyed. -/
theorem leads_destroy_available (hs : w.session? id = some s) :
    Leads (destroy id) w (fun _ w' => w'.pool.available =
      match s.peer with
      | none => s.staging.buffer :: w.pool.available
      | some pid =>
        match w.session? pid with
        | none => s.staging.buffer :: w.pool.available
        | some p =>
          if p.awaitingWritable then s.staging.buffer :: w.pool.available
          else p.staging.buffer :: s.staging.buffer :: w.pool.available) anyhow := by
  refine Leads.bind (leads_retire hs) ?_
  rintro _ w₁ ⟨rfl, hpool, hlook⟩
  cases hpeer : s.peer with
  | none => exact hpool
  | some pid =>
    refine Leads.bind (leads_session_self pid) ?_
    rintro p w₂ ⟨hp, rfl⟩
    have hp' : w.session? pid = some p := by
      rw [hlook] at hp
      split at hp
      · cases hp
      · exact hp
    dsimp only
    simp only [hp', ← hpool]
    rw [leads_ite]
    refine ⟨fun _ => ?_, fun _ => ?_⟩
    · rw [leads_bind, leads_fatal]
      trivial
    · rw [leads_bind, leads_modifySession, leads_ite]
      refine ⟨fun hblocked => ?_, fun hidle => ?_⟩
      · rw [if_pos hblocked, leads_bind, leads_modifySession]
        exact (leads_updateRegistration_pool pid).imp fun _ w' h => congrArg Pool.available h
      · rw [if_neg hidle]
        refine Leads.bind (leads_retire (s := { p with peer := none }) ?_) ?_
        · rw [session?_modify, if_pos rfl, hp]
          rfl
        · rintro _ w' ⟨-, hav, -⟩
          exact hav

theorem SoundBut.size_poller (h : SoundBut except w) : w.poller.size = w.sessionCount + 1 := by
  rw [Poller.size_eq h.enrolled.poller, h.registrations_perm.length_eq, needed, List.length_cons,
    List.length_map, Arena.length_toList]
  rfl

/-! ## What goes and what stays -/

/-- From `w` to `w'` the sessions `gone` were taken out, each with its registration and its socket,
and their buffers are back in the pool. The sessions `left` are what they are listed as, and are
watched for that. All else is as it was, and the counts are smaller by the number of the sessions
that are gone. -/
structure Removes (gone left : List (SessionId × Session)) (w w' : Worker) : Prop where
  slots : ∀ x ∈ gone, w'.session? x.1 = none
  unwatched : ∀ x ∈ gone, w'.poller.registration? x.2.fd = none
  closed : ∀ x ∈ gone, w'.host.file x.2.fd = (w.host.file x.2.fd).close
  stays : ∀ x ∈ left, w'.session? x.1 = some x.2
  watched : ∀ x ∈ left, w'.poller.registration? x.2.fd = some (Session.token x.1, x.2.interest)
  sessions : ∀ x, x ∉ (gone ++ left).map (·.1) → w'.session? x = w.session? x
  registrations : ∀ fd, fd ∉ (gone ++ left).map (·.2.fd) →
    w'.poller.registration? fd = w.poller.registration? fd
  files : ∀ fd, fd ∉ gone.map (·.2.fd) → w'.host.file fd = w.host.file fd
  available : w'.pool.available = (gone.map (·.2.staging.buffer)).reverse ++ w.pool.available
  capacity : w'.pool.capacity = w.pool.capacity
  sessionCount : w'.sessionCount + gone.length = w.sessionCount
  buffersInUse : w'.buffersInUse + gone.length = w.buffersInUse
  poller : w'.poller.size + gone.length = w.poller.size
  control : w'.control = w.control
  settings : w'.settings = w.settings

/-- What destroying session `id` comes to. -/
inductive Cascade (w : Worker) (id : SessionId) (w' : Worker) : Prop
  /-- There is no peer, and nothing else happens. -/
  | alone {s : Session} (hs : w.session? id = some s) (hpeer : s.peer = none)
      (removes : Removes [(id, s)] [] w w')
  /-- The peer has nothing to write and goes in the same way. -/
  | both {s p : Session} {pid : SessionId} (hs : w.session? id = some s) (hpeer : s.peer = some pid)
      (hp : w.session? pid = some p) (idle : p.pending = 0)
      (removes : Removes [(id, s), (pid, p)] [] w w')
  /-- The peer stays with the bytes it has to write, and waits for nothing but to write them. -/
  | drains {s p : Session} {pid : SessionId} (hs : w.session? id = some s)
      (hpeer : s.peer = some pid)
      (hp : w.session? pid = some p) (staged : 0 < p.pending)
      (removes : Removes [(id, s)]
        [(pid, { p with peer := none, closeAfterFlush := true, awaitingReadable := false })] w w')
      (writes : w'.poller.registration? p.fd = some (Session.token pid, .writable))

section

variable (h : SoundBut except w) (h' : w'.Sound)
include h h'

theorem Retired.removes (hr : Retired w w' id s.fd)
    (hav : w'.pool.available = s.staging.buffer :: w.pool.available) :
    Removes [(id, s)] [] w w' where
  slots := by simp [hr.sessions]
  unwatched := by simp [hr.watched]
  closed := by simp [hr.files]
  stays := nofun
  watched := nofun
  sessions x hx := by
    rw [hr.sessions, if_neg]
    rintro rfl
    simp at hx
  registrations fd hfd := (hr.watched fd).trans (if_neg (by simpa using hfd))
  files fd hfd := (hr.files fd).trans (if_neg (by simpa using hfd))
  available := hav
  capacity := hr.capacity
  sessionCount := hr.size
  buffersInUse := hr.lent
  poller := by
    have hsize := hr.size
    simp only [h.size_poller, h'.size_poller, Worker.sessionCount, List.length_singleton]
    omega
  control := hr.control
  settings := hr.settings

/-- Taking two sessions out, one after the other. The second one is found as it was, but for its
link to the first. -/
theorem Retired.removes_both (h₁ : Retired w w₁ id s.fd) (h₂ : Retired w₁ w' pid p.fd)
    (hfd : s.fd ≠ p.fd)
    (hav : w'.pool.available = p.staging.buffer :: s.staging.buffer :: w.pool.available) :
    Removes [(id, s), (pid, p)] [] w w' where
  slots := by simp [h₂.sessions, h₁.sessions]
  unwatched := by simp [h₂.watched, h₁.watched]
  closed := by simp [h₂.files, h₁.files, hfd, hfd.symm]
  stays := nofun
  watched := nofun
  sessions x hx := by
    obtain ⟨hx, hx'⟩ : x ≠ id ∧ x ≠ pid := by simpa using hx
    rw [h₂.sessions, if_neg hx'.symm, h₁.sessions, if_neg hx.symm]
  registrations fd hfd := by
    obtain ⟨hfd, hfd'⟩ : fd ≠ s.fd ∧ fd ≠ p.fd := by simpa using hfd
    rw [h₂.watched, if_neg hfd', h₁.watched, if_neg hfd]
  files fd hfd := by
    obtain ⟨hfd, hfd'⟩ : fd ≠ s.fd ∧ fd ≠ p.fd := by simpa using hfd
    rw [h₂.files, if_neg hfd', h₁.files, if_neg hfd]
  available := hav
  capacity := h₂.capacity.trans h₁.capacity
  sessionCount := by
    have hsize₁ := h₁.size
    have hsize₂ := h₂.size
    simp only [Worker.sessionCount, List.length_cons, List.length_nil]
    omega
  buffersInUse := by
    have hlent₁ := h₁.lent
    have hlent₂ := h₂.lent
    simp only [Worker.buffersInUse, List.length_cons, List.length_nil]
    omega
  poller := by
    have hsize₁ := h₁.size
    have hsize₂ := h₂.size
    simp only [h.size_poller, h'.size_poller, Worker.sessionCount, List.length_cons,
      List.length_nil]
    omega
  control := h₂.control.trans h₁.control
  settings := h₂.settings.trans h₁.settings

/-- Taking one session out and changing the flags of another. The other one keeps its buffer and its
socket, and is watched for what its new flags ask. -/
theorem Retired.removes_left {b : Half} (h₁ : Retired w w₁ id s.fd)
    (h₂ : Tends w₁ w' pid b b.session.interest) (hne : id ≠ pid) (hfd : b.session.fd ≠ s.fd)
    (hfile : w.host.file b.session.fd = b.file)
    (hav : w'.pool.available = s.staging.buffer :: w.pool.available) :
    Removes [(id, s)] [(pid, b.session)] w w' where
  slots := by
    simp only [List.mem_singleton, forall_eq]
    rw [h₂.within.sessions id (by simpa using hne), h₁.sessions, if_pos rfl]
  unwatched := by
    simp only [List.mem_singleton, forall_eq]
    rw [h₂.within.watched s.fd (by simpa using hfd.symm), h₁.watched, if_pos rfl]
  closed := by
    simp only [List.mem_singleton, forall_eq]
    rw [h₂.within.files s.fd (by simpa using hfd.symm), h₁.files, if_pos rfl]
  stays := by simpa using h₂.holds.session
  watched := by simpa using h₂.holds.watched
  sessions x hx := by
    obtain ⟨hx, hx'⟩ : x ≠ id ∧ x ≠ pid := by simpa using hx
    rw [h₂.within.sessions x (by simpa using hx'), h₁.sessions, if_neg hx.symm]
  registrations fd hfd := by
    obtain ⟨hfd, hfd'⟩ : fd ≠ s.fd ∧ fd ≠ b.session.fd := by simpa using hfd
    rw [h₂.within.watched fd (by simpa using hfd'), h₁.watched, if_neg hfd]
  files fd hfd := by
    have hfd : fd ≠ s.fd := by simpa using hfd
    by_cases hfd' : fd = b.session.fd
    · rw [hfd', h₂.holds.file, hfile]
    · rw [h₂.within.files fd (by simpa using hfd'), h₁.files, if_neg hfd]
  available := hav
  capacity := by rw [h₂.within.pool, h₁.capacity]
  sessionCount := by
    have hsize := h₁.size
    simp only [Worker.sessionCount, h₂.within.size, List.length_singleton]
    exact hsize
  buffersInUse := by
    simp only [Worker.buffersInUse, h₂.within.pool, List.length_singleton]
    exact h₁.lent
  poller := by
    have hsize := h₁.size
    simp only [h.size_poller, h'.size_poller, Worker.sessionCount, h₂.within.size,
      List.length_singleton]
    omega
  control := h₂.within.control.trans h₁.control
  settings := h₂.within.settings.trans h₁.settings

end

/-- Destroying a session whose peer, if there is one, is fit to go on alone. That the session itself
may be out of order is needed, for it may be one that an event has just doomed. -/
theorem SoundBut.cascade (h : SoundBut except w) (h' : w'.Sound) (hd : Destroyed w id w')
    (hok : destroy id w = .ok ⟨⟩ w')
    (hfit : ∀ s pid p, w.session? id = some s → s.peer = some pid →
      w.session? pid = some p → p.Fit) :
    Cascade w id w' := by
  have hav {s : Session} (hs : w.session? id = some s) := (leads_destroy_available hs).of_ok hok
  cases hd with
  | @alone s _ hs hpeer hr =>
    have hav := hav hs
    rw [hpeer] at hav
    exact .alone hs hpeer (hr.removes h h' hav)
  | @both s p pid w₁ _ hs hp hpeer hne hidle h₁ h₂ =>
    have hav := hav hs
    simp only [hpeer, hp, hidle] at hav
    have hfit := hfit s pid p hs hpeer hp
    have hempty : p.pending = 0 := by
      refine Nat.eq_zero_of_not_pos fun hpos => ?_
      rw [hfit.settled.mpr hpos] at hidle
      cases hidle
    exact .both hs hpeer hp hempty
      (h₁.removes_both h h' h₂ (fun hfd => hne (h.fd_inj hs hp hfd)) hav)
  | @drained s p pid w₁ _ hs hp hpeer hne hblocked h₁ h₂ =>
    have hav := hav hs
    simp only [hpeer, hp, hblocked] at hav
    have hfit := hfit s pid p hs hpeer hp
    refine .drains hs hpeer hp (hfit.settled.mp hblocked)
      (h₁.removes_left h h' h₂ hne (fun hfd => hne (h.fd_inj hs hp hfd.symm)) rfl hav) ?_
    have hwatched : w'.poller.registration? p.fd
        = some (Session.token pid, ⟨false, p.awaitingConnect || p.awaitingWritable⟩) :=
          h₂.holds.watched
    rw [hwatched, hblocked, Bool.or_true]
    rfl

/-- Destroying the session does not stop, goes no further than to its peer, and comes to a
cascade. -/
def Cascades (w : Worker) (id : SessionId) : Prop :=
  ∃ w', destroy id w = .ok ⟨⟩ w' ∧ (∀ next, destroyBy (destroyBy next) id w = .ok ⟨⟩ w')
    ∧ Cascade w id w'

theorem SoundBut.cascades (h : SoundBut except w) {Q : Worker → Prop}
    (hleads : Leads (destroy id) w (fun _ w' => Destroyed w id w' ∧ Q w') never)
    (hQ : ∀ w', Q w' → w'.Sound)
    (hfit : ∀ s pid p, w.session? id = some s → s.peer = some pid →
      w.session? pid = some p → p.Fit) :
    w.Cascades id := by
  obtain ⟨_, w', hok, hd, hq⟩ := hleads.exists_ok
  refine ⟨w', hok, fun next => ?_, h.cascade (hQ w' hq) hd hok hfit⟩
  rw [destroyBy_destroyBy]
  exact hok

theorem Sound.cascades (h : w.Sound) (hs : w.session? id = some s) : w.Cascades id := by
  refine SoundBut.cascades h (leads_destroy h hs) (fun _ hsound => hsound)
    fun s pid p hs hpeer hp => ?_
  obtain ⟨-, -, hl⟩ := h.linked_peer hs hp hpeer
  exact hl.paired.back.fit

/-- The session that an event has doomed may be out of order, but its peer is fit to go on alone.
That is known of the half to which no fault has come. -/
theorem Doomed.cascades {e : Event} (hd : Doomed w e target w₁) (h : w.Sound) :
    w₁.Cascades target := by
  have hleads := hd.leads_destroy h
  have hsound (w' : Worker) (hh : Handled w e true w') : w'.Sound := h.handled hh
  cases hd with
  | alone hs hpeer hr ht =>
    obtain ⟨h₁, hpeer₁⟩ := h.drained hs hpeer ht
    refine h₁.cascades hleads hsound fun s pid p hs₁ hlink _ => ?_
    obtain rfl := Option.some.inj (ht.holds.session.symm.trans hs₁)
    rw [hpeer₁] at hlink
    cases hlink
  | @pair s p pid _ r _ hs hp hpeer hr ht ha =>
    obtain ⟨hback, -, hk⟩ := h.event_keeps hs hp hpeer hr
    have h₁ := h.attended hs hp hpeer hback hk ha
    have hpeer₁ : r.self.session.peer = some pid := hk.self.peer.trans hpeer
    have hback₁ : r.peer.session.peer = some (Session.ofToken e.token) := hk.peer.peer.trans hback
    refine h₁.cascades hleads hsound fun s' x p' hs₁ hlink hp₁ => ?_
    rcases Outcome.target_cases ht with ⟨hside, rfl⟩ | ⟨-, rfl⟩
    · obtain rfl := Option.some.inj (ha.self.session.symm.trans hs₁)
      obtain rfl := Option.some.inj (hpeer₁.symm.trans hlink)
      obtain rfl := Option.some.inj (ha.peer.session.symm.trans hp₁)
      exact (hk.linked_of_self hside).symm.fit.session
    · obtain rfl := Option.some.inj (ha.peer.session.symm.trans hs₁)
      obtain rfl := Option.some.inj (hback₁.symm.trans hlink)
      obtain rfl := Option.some.inj (ha.self.session.symm.trans hp₁)
      exact hk.fit.session

end Worker

namespace Site

open Worker

variable {σ : Site} {w : Worker}

/-- Whichever session is destroyed, from outside or by the event that has doomed it, destroying ends
after one session or two: the peer goes as well if it has nothing to write, and is left to write
what it has otherwise. -/
theorem Reachable.destroy_cascades (h : Reachable σ) (hv : σ.Visits w) :
    (∀ id, w.session? id ≠ none → w.Cascades id)
      ∧ ∀ e target w₁, w.session? (Session.ofToken e.token) ≠ none →
        findDoomed (Session.ofToken e.token) e w = .ok (some target) w₁ → w₁.Cascades target := by
  have hw := hv.sound h
  refine ⟨fun id hid => ?_, fun e target w₁ hid hdoomed => ?_⟩
  · obtain ⟨s, hs⟩ := Option.ne_none_iff_exists'.mp hid
    exact hw.cascades hs
  · obtain ⟨s, hs⟩ := Option.ne_none_iff_exists'.mp hid
    have hd : Doomed w e target w₁ := (leads_findDoomed_verdict hw hs).of_ok hdoomed
    exact hd.cascades hw

/-- The socket of session 1 takes no bytes for now, so that what was read from session 0 is staged
there. Destroying session 0 leaves session 1 to write it; destroying session 1 takes both along. -/
theorem destroy_cascades_of_jam : ∃ σ : Site, Reachable σ
    ∧ (∃ p, σ.worker.session? 1 = some p ∧ p.peer = some 0 ∧ p.pending = 2)
    ∧ (∃ s, σ.worker.session? 0 = some s ∧ s.peer = some 1 ∧ s.pending = 0)
    ∧ σ.worker.Cascades 0 ∧ σ.worker.Cascades 1 := by
  obtain ⟨w, hw, h, -⟩ := exists_pair
  have hall : pairedWorker.any (fun w =>
      let w₁ := w.withHost (w.host.play 4 .jam)
      let w₂ := w₁.withHost (w₁.host.play 3 (.write [1, 2]))
      (after (turnIn fun events => events) w₂).any fun w' =>
        (w'.session? 0).any (fun s => s.peer == some 1 && s.pending == 0)
        && (w'.session? 1).any (fun p => p.peer == some 0 && p.pending == 2)) = true := by
    decide +kernel
  rw [hw, Option.any_some] at hall
  obtain ⟨w', hw', hall⟩ := (Option.any_eq_true _ _).mp hall
  obtain ⟨_, hturn⟩ := exists_of_after hw'
  obtain ⟨hs, hp⟩ := Bool.and_eq_true_iff.mp hall
  obtain ⟨s, hs, hfields⟩ := (Option.any_eq_true _ _).mp hs
  obtain ⟨p, hp, hfields'⟩ := (Option.any_eq_true _ _).mp hp
  simp only [Bool.and_eq_true, beq_iff_eq] at hfields hfields'
  have hσ := ((h.step (.move 4 .jam)).step (.move 3 (.write [1, 2]))).step (.turn hturn)
  obtain ⟨hcascades, -⟩ := hσ.destroy_cascades .between
  refine ⟨_, hσ, ⟨p, hp, hfields'⟩, ⟨s, hs, hfields⟩, hcascades 0 ?_, hcascades 1 ?_⟩
  · exact ne_of_eq_of_ne hs (Option.some_ne_none s)
  · exact ne_of_eq_of_ne hp (Option.some_ne_none p)

end Site

end Sluice
