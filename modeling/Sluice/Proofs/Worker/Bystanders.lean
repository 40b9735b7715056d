import Sluice.Proofs.Worker.Events

/-!
# What an event leaves alone

The event of a session spares the files that are no session's, and the control pipe
(`Spares.of_handled`). It leaves every session alone that is neither its own nor the peer of that
one (`Handled.elsewhere`), and what it leaves open it has used at most (`Handled.used`). As long as
it destroys none, all sessions keep whatever the handlers keep of a half (`Handled.retains`).
-/

namespace Sluice.Worker

variable {w w' w₁ : Worker} {id pid : SessionId} {s p : Session} {e : Event} {stop : Bool}
  {except ids : List SessionId} {fds : List Descriptor} {fd : Descriptor}

/-! ## What the events of sessions spare -/

/-- From `w` to `w'` nothing has happened to the files that are no session's, nor to the control
pipe and to the clients who are taken in. -/
structure Spares (w w' : Worker) : Prop where
  files : ∀ fd, ¬ w.Owned fd → w'.host.file fd = w.host.file fd
  owned : ∀ fd, w'.Owned fd → w.Owned fd
  control : w'.control = w.control
  incoming : w'.incoming = w.incoming
  settings : w'.settings = w.settings
  next : w'.host.next = w.host.next
  exhausted : w'.host.exhausted = w.host.exhausted
  backend : w'.poller.backend = w.poller.backend

namespace Spares

theorem trans (h : Spares w w₁) (h' : Spares w₁ w') : Spares w w' :=
  ⟨fun fd hown => (h'.files fd (mt (h.owned fd) hown)).trans (h.files fd hown),
    fun fd hown => h.owned fd (h'.owned fd hown), h'.control.trans h.control,
    h'.incoming.trans h.incoming, h'.settings.trans h.settings, h'.next.trans h.next,
    h'.exhausted.trans h.exhausted, h'.backend.trans h.backend⟩

/-- What happens within some sessions, which keep their descriptors, spares the rest. The control
pipe is among the rest, because its descriptor is that of no session. -/
theorem of_within {ids : List SessionId} {fds : List Descriptor} (h : Within ids fds w w')
    (hids : ∀ id ∈ ids, ∀ s, w'.session? id = some s → w.Owned s.fd)
    (hfds : ∀ fd ∈ fds, w.Owned fd) : Spares w w' where
  files fd hown := h.files fd fun hm => hown (hfds fd hm)
  owned fd hown := by
    obtain ⟨id, s, hs, rfl⟩ := hown
    by_cases hid : id ∈ ids
    · exact hids id hid s hs
    · exact ⟨id, s, (h.sessions id hid).symm.trans hs, rfl⟩
  control := h.control
  incoming := h.incoming
  settings := h.settings
  next := h.next
  exhausted := h.exhausted
  backend := h.backend

theorem of_tends {a a' : Half} {i i' : Interest} (ha : w.Holds id a i) (ht : Tends w w' id a' i')
    (hfd : a'.session.fd = a.session.fd) : Spares w w' := by
  have hown : w.Owned a'.session.fd := ⟨id, a.session, ha.session, hfd.symm⟩
  refine of_within ht.within (fun x hx s hs => ?_) (fun fd hm => ?_)
  · obtain rfl := List.mem_singleton.mp hx
    obtain rfl := Option.some.inj (ht.holds.session.symm.trans hs)
    exact hown
  · rw [List.mem_singleton.mp hm]
    exact hown

theorem of_serves {pid : SessionId} {a a' b b' : Half} {i i' j j' : Interest}
    (ha : w.Holds id a i) (hb : w.Holds pid b j) (hv : Serves w w' id pid a' b' i' j')
    (hfd : a'.session.fd = a.session.fd) (hfd' : b'.session.fd = b.session.fd) : Spares w w' := by
  have hown : w.Owned a'.session.fd := ⟨id, a.session, ha.session, hfd.symm⟩
  have hown' : w.Owned b'.session.fd := ⟨pid, b.session, hb.session, hfd'.symm⟩
  refine of_within hv.within (fun x hx s hs => ?_) (fun fd hm => ?_)
  · rcases List.mem_pair.mp hx with rfl | rfl
    · obtain rfl := Option.some.inj (hv.self.session.symm.trans hs)
      exact hown
    · obtain rfl := Option.some.inj (hv.peer.session.symm.trans hs)
      exact hown'
  · rcases List.mem_pair.mp hm with rfl | rfl
    · exact hown
    · exact hown'

theorem of_retired (hs : w.session? id = some s) (hr : Retired w w' id s.fd) : Spares w w' where
  files fd hown := by
    rw [hr.files, if_neg]
    rintro rfl
    exact hown ⟨id, s, hs, rfl⟩
  owned fd hown := by
    obtain ⟨x, t, ht, rfl⟩ := hown
    exact ⟨x, t, (hr.session?_of_ne ht).2, rfl⟩
  control := hr.control
  incoming := hr.incoming
  settings := hr.settings
  next := hr.next
  exhausted := hr.exhausted
  backend := hr.backend

theorem of_destroyed (hd : Destroyed w id w') : Spares w w' := by
  cases hd with
  | alone hs _ hr => exact of_retired hs hr
  | both hs hp _ hne _ h₁ h₂ =>
    refine (of_retired hs h₁).trans (of_retired ?_ h₂)
    rw [h₁.sessions, if_neg hne, hp]
  | @drained s p pid w₁ _ hs hp _ hne _ h₁ h₂ =>
    refine (of_retired hs h₁).trans (of_within h₂.within (fun x hx t ht => ?_) (fun fd hm => ?_))
    · obtain rfl := List.mem_singleton.mp hx
      obtain rfl := Option.some.inj (h₂.holds.session.symm.trans ht)
      exact ⟨x, p, by rw [h₁.sessions, if_neg hne, hp], rfl⟩
    · rw [List.mem_singleton.mp hm]
      exact ⟨pid, p, by rw [h₁.sessions, if_neg hne, hp], rfl⟩

theorem of_handled (h : w.Sound) (hh : Handled w e stop w') : Spares w w' := by
  cases hh with
  | alone hs hpeer _ ht =>
    obtain ⟨hlike, -, -⟩ := Half.draining_drain e (h.draining hs hpeer)
    exact of_tends (h.held _ _ hs) ht hlike.fd
  | aloneDoomed hs hpeer _ ht hd =>
    obtain ⟨hlike, -, -⟩ := Half.draining_drain e (h.draining hs hpeer)
    exact (of_tends (h.held _ _ hs) ht hlike.fd).trans (of_destroyed hd)
  | pair hs hp hpeer hr _ ha =>
    obtain ⟨-, -, hk⟩ := h.event_keeps hs hp hpeer hr
    exact of_serves (h.held _ _ hs) (h.held _ _ hp) ha hk.self.fd hk.peer.fd
  | pairDoomed hs hp hpeer hr _ ha hd =>
    obtain ⟨-, -, hk⟩ := h.event_keeps hs hp hpeer hr
    exact (of_serves (h.held _ _ hs) (h.held _ _ hp) ha hk.self.fd hk.peer.fd).trans
      (of_destroyed hd)

end Spares

/-! ## Sessions elsewhere -/

theorem Within.elsewhere (h : Within ids fds w w') (hp : w.session? pid = some p) (hpid : pid ∉ ids)
    (hfd : p.fd ∉ fds) : w'.session? pid = some p ∧ w'.host.file p.fd = w.host.file p.fd :=
  ⟨(h.sessions pid hpid).trans hp, h.files p.fd hfd⟩

theorem Retired.elsewhere (h : Retired w w' id s.fd) (hw : SoundBut except w)
    (hs : w.session? id = some s) (hp : w.session? pid = some p) (hne : id ≠ pid) :
    w'.session? pid = some p ∧ w'.host.file p.fd = w.host.file p.fd := by
  rw [h.sessions, if_neg hne, h.files, if_neg fun hfd => hne (hw.fd_inj hs hp hfd.symm)]
  exact ⟨hp, rfl⟩

theorem Destroyed.elsewhere {x : SessionId} {t : Session} (hd : Destroyed w id w')
    (hw : SoundBut except w) (ht : w.session? x = some t) (hne : id ≠ x)
    (hpeer : ∀ s, w.session? id = some s → s.peer ≠ some x) :
    w'.session? x = some t ∧ w'.host.file t.fd = w.host.file t.fd := by
  cases hd with
  | alone hs _ hr => exact hr.elsewhere hw hs ht hne
  | @both s p pid w₁ _ hs hp hlink hne' _ h₁ h₂ =>
    have hx : pid ≠ x := fun heq => hpeer s hs (heq ▸ hlink)
    obtain ⟨ht₁, hf₁⟩ := h₁.elsewhere hw hs ht hne
    have hfd : t.fd ≠ p.fd := fun heq => hx (hw.fd_inj hp ht heq.symm)
    rw [h₂.sessions, if_neg hx, h₂.files, if_neg hfd]
    exact ⟨ht₁, hf₁⟩
  | @drained s p pid w₁ _ hs hp hlink hne' _ h₁ h₂ =>
    have hx : pid ≠ x := fun heq => hpeer s hs (heq ▸ hlink)
    obtain ⟨ht₁, hf₁⟩ := h₁.elsewhere hw hs ht hne
    have hfd : t.fd ≠ p.fd := fun heq => hx (hw.fd_inj hp ht heq.symm)
    obtain ⟨ht₂, hf₂⟩ := h₂.within.elsewhere ht₁ (by simpa using hx.symm) (by
      rw [List.mem_singleton]
      exact hfd)
    exact ⟨ht₂, hf₂.trans hf₁⟩

theorem ne_of_peer {x : SessionId} {t : Session} (hp : w.session? pid = some p)
    (hback : p.peer = some id) (ht : w.session? x = some t) (hpeer : t.peer ≠ some id) :
    pid ≠ x := by
  rintro rfl
  obtain rfl := Option.some.inj (hp.symm.trans ht)
  exact hpeer hback

theorem Sound.drained_elsewhere {x : SessionId} {t : Session} (h : w.Sound)
    (hs : w.session? id = some s) (hnone : s.peer = none)
    (hd : Tends w w' id (Half.drain e (w.half s)).2 (Half.drain e (w.half s)).2.session.interest)
    (ht : w.session? x = some t) (hne : id ≠ x) :
    w'.session? x = some t ∧ w'.host.file t.fd = w.host.file t.fd := by
  obtain ⟨hlike, -, -⟩ := Half.draining_drain e (h.draining hs hnone)
  have hfd : t.fd ≠ s.fd := fun heq => hne (h.fd_inj hs ht heq.symm)
  refine hd.within.elsewhere ht (by simpa using hne.symm) ?_
  rw [List.mem_singleton, hlike.fd]
  exact hfd

theorem Sound.attended_elsewhere {x : SessionId} {t : Session} {r : Outcome} (h : w.Sound)
    (hs : w.session? id = some s) (hp : w.session? pid = some p)
    (hk : r.Keeps (w.half s) (w.half p)) (ha : Attends w w' id pid r.self r.peer)
    (ht : w.session? x = some t) (hne : id ≠ x) (hne' : pid ≠ x) :
    w'.session? x = some t ∧ w'.host.file t.fd = w.host.file t.fd := by
  refine ha.within.elsewhere ht ?_ ?_
  · simp [hne.symm, hne'.symm]
  · rw [List.mem_pair, hk.self.fd, hk.peer.fd, not_or]
    exact ⟨fun heq => hne (h.fd_inj hs ht heq.symm), fun heq => hne' (h.fd_inj hp ht heq.symm)⟩

/-- The event of a session leaves all others alone but its peer, however it ends: a session that is
destroyed takes its peer with it, and nobody else. -/
theorem Handled.elsewhere {x : SessionId} {t : Session} (hh : Handled w e stop w') (h : w.Sound)
    (ht : w.session? x = some t) (hne : Session.ofToken e.token ≠ x)
    (hpeer : t.peer ≠ some (Session.ofToken e.token)) :
    w'.session? x = some t ∧ w'.host.file t.fd = w.host.file t.fd := by
  cases hh with
  | alone hs hnone _ hd => exact h.drained_elsewhere hs hnone hd ht hne
  | aloneDoomed hs hnone _ hd hdestroy =>
    obtain ⟨ht₁, hf₁⟩ := h.drained_elsewhere hs hnone hd ht hne
    obtain ⟨h₁, hnone₁⟩ := h.drained hs hnone hd
    obtain ⟨ht₂, hf₂⟩ := hdestroy.elsewhere h₁ ht₁ hne fun s hs => by
      obtain rfl := Option.some.inj (hd.holds.session.symm.trans hs)
      rw [hnone₁]
      exact nofun
    exact ⟨ht₂, hf₂.trans hf₁⟩
  | @pair s p pid r _ hs hp hlink hr _ ha =>
    obtain ⟨hback, -, hk⟩ := h.event_keeps hs hp hlink hr
    exact h.attended_elsewhere hs hp hk ha ht hne (ne_of_peer hp hback ht hpeer)
  | @pairDoomed s p pid target r w₁ _ hs hp hlink hr htarget ha hdestroy =>
    obtain ⟨hback, -, hk⟩ := h.event_keeps hs hp hlink hr
    have hx := ne_of_peer hp hback ht hpeer
    obtain ⟨ht₁, hf₁⟩ := h.attended_elsewhere hs hp hk ha ht hne hx
    have h₁ := h.attended hs hp hlink hback hk ha
    -- whichever of the two is destroyed, its peer is the other
    have hdestroyed : w'.session? x = some t ∧ w'.host.file t.fd = w₁.host.file t.fd := by
      rcases Outcome.target_cases htarget with ⟨-, rfl⟩ | ⟨-, rfl⟩
      · refine hdestroy.elsewhere h₁ ht₁ hne ?_
        intro s hs heq
        obtain rfl := Option.some.inj (ha.self.session.symm.trans hs)
        exact hx (Option.some.inj ((hk.self.peer.trans hlink).symm.trans heq))
      · refine hdestroy.elsewhere h₁ ht₁ hx ?_
        intro s hs heq
        obtain rfl := Option.some.inj (ha.peer.session.symm.trans hs)
        exact hne (Option.some.inj ((hk.peer.peer.trans hback).symm.trans heq))
    exact ⟨hdestroyed.1, hdestroyed.2.trans hf₁⟩

/-! ## Sessions that stay -/

/-- From `w` to `w'` every session has stayed, and its half has become one that `R` allows. It is
stated for any `R`, since the same walk through the cases serves for what a half is and for what it
has done. -/
def Retains (R : Half → Half → Prop) (w w' : Worker) : Prop :=
  ∀ x t, w.session? x = some t → ∃ t', w'.session? x = some t' ∧ R (w.half t) (w'.half t')

section

variable {R : Half → Half → Prop}

theorem Retains.trans (hR : ∀ a b c, R a b → R b c → R a c) (h : Retains R w w₁)
    (h' : Retains R w₁ w') : Retains R w w' := by
  intro x t ht
  obtain ⟨t₁, ht₁, hr⟩ := h x t ht
  obtain ⟨t', ht', hr'⟩ := h' x t₁ ht₁
  exact ⟨t', ht', hR _ _ _ hr hr'⟩

theorem Retains.stays {x : SessionId} (h : Retains R w w') (hx : w.session? x ≠ none) :
    w'.session? x ≠ none := by
  obtain ⟨t, ht⟩ := Option.ne_none_iff_exists'.mp hx
  obtain ⟨t', ht', -⟩ := h x t ht
  rw [ht']
  exact Option.some_ne_none t'

theorem Retains.of_same {x : SessionId} {t : Session} (hrefl : ∀ a, R a a)
    (hsame : w'.session? x = some t ∧ w'.host.file t.fd = w.host.file t.fd) :
    ∃ t', w'.session? x = some t' ∧ R (w.half t) (w'.half t') := by
  refine ⟨t, hsame.1, ?_⟩
  rw [half, half, hsame.2]
  exact hrefl _

theorem Sound.drained_retains (h : w.Sound) (hs : w.session? id = some s) (hnone : s.peer = none)
    (hd : Tends w w' id (Half.drain e (w.half s)).2 (Half.drain e (w.half s)).2.session.interest)
    (hrefl : ∀ a, R a a) (hdrain : R (w.half s) (Half.drain e (w.half s)).2) : Retains R w w' := by
  intro x t ht
  by_cases hx : id = x
  · subst hx
    obtain rfl := Option.some.inj (hs.symm.trans ht)
    refine ⟨_, hd.holds.session, ?_⟩
    rw [hd.holds.half_eq]
    exact hdrain
  · exact Retains.of_same hrefl (h.drained_elsewhere hs hnone hd ht hx)

/-- All sessions stay when a session of a pair takes an event. For the two of the pair this is a
matter of their halves, and for the others of their having been left alone. -/
theorem Sound.attended_retains {r : Outcome} (h : w.Sound) (hs : w.session? id = some s)
    (hp : w.session? pid = some p) (hk : r.Keeps (w.half s) (w.half p))
    (ha : Attends w w' id pid r.self r.peer) (hrefl : ∀ a, R a a) (hself : R (w.half s) r.self)
    (hpeer : R (w.half p) r.peer) : Retains R w w' := by
  intro x t ht
  by_cases hx : id = x
  · subst hx
    obtain rfl := Option.some.inj (hs.symm.trans ht)
    exact ⟨_, ha.self.session, by rw [ha.self.half_eq]; exact hself⟩
  · by_cases hx' : pid = x
    · subst hx'
      obtain rfl := Option.some.inj (hp.symm.trans ht)
      exact ⟨_, ha.peer.session, by rw [ha.peer.half_eq]; exact hpeer⟩
    · exact Retains.of_same hrefl (h.attended_elsewhere hs hp hk ha ht hx hx')

/-- As long as no session is destroyed, all of them stay, and what the handlers make of each half is
what an event has made of it. -/
theorem Handled.retains (hh : Handled w e false w') (h : w.Sound) (hrefl : ∀ a, R a a)
    (hpair : ∀ a b, a.Linked b → R a (Half.onEvent w.settings.maxOpsPerFd e a b).self
      ∧ R b (Half.onEvent w.settings.maxOpsPerFd e a b).peer)
    (hdrain : ∀ a, a.Draining → R a (Half.drain e a).2) : Retains R w w' := by
  cases hh with
  | alone hs hnone _ hd =>
    exact h.drained_retains hs hnone hd hrefl (hdrain _ (h.draining hs hnone))
  | @pair s p pid r _ hs hp hlink hr _ ha =>
    obtain ⟨-, -, hk⟩ := h.event_keeps hs hp hlink hr
    obtain ⟨-, -, hl⟩ := h.linked_peer hs hp hlink
    obtain ⟨hself, hpeer⟩ := hpair _ _ hl
    rw [← hr] at hself hpeer
    exact h.attended_retains hs hp hk ha hrefl hself hpeer

theorem Handled.alike (hh : Handled w e false w') (h : w.Sound) : Retains Half.Alike w w' := by
  refine hh.retains h Half.Alike.refl (fun a b hl => ?_) fun a hd => (Half.draining_drain e hd).1
  have hk := Half.keeps_onEvent w.settings.maxOpsPerFd e hl
  exact ⟨hk.self, hk.peer⟩

theorem Doomed.alike {target : SessionId} (hd : Doomed w e target w') (h : w.Sound) :
    Retains Half.Alike w w' := by
  cases hd with
  | alone hs hnone _ ht =>
    exact h.drained_retains hs hnone ht Half.Alike.refl
      (Half.draining_drain e (h.draining hs hnone)).1
  | pair hs hp hlink hr _ ha =>
    obtain ⟨-, -, hk⟩ := h.event_keeps hs hp hlink hr
    exact h.attended_retains hs hp hk ha Half.Alike.refl hk.self hk.peer

end

/-! ## What stays open -/

theorem Tends.used {a a' : Half} {i i' : Interest} (ht : Tends w w' id a' i') (ha : w.Holds id a i)
    (hfd : a'.session.fd = a.session.fd) (hu : a.file.Used a'.file) (fd : Descriptor) :
    (w.host.file fd).Used (w'.host.file fd) := by
  by_cases heq : fd = a.session.fd
  · have hfile := ht.holds.file
    rw [hfd] at hfile
    rw [heq, ha.file, hfile]
    exact hu
  · rw [ht.within.files fd (by rw [List.mem_singleton, hfd]; exact heq)]
    exact .refl _

theorem Serves.used {a a' b b' : Half} {i i' j j' : Interest} (hv : Serves w w' id pid a' b' i' j')
    (ha : w.Holds id a i) (hb : w.Holds pid b j) (hfd : a'.session.fd = a.session.fd)
    (hfd' : b'.session.fd = b.session.fd) (hu : a.file.Used a'.file) (hu' : b.file.Used b'.file)
    (fd : Descriptor) : (w.host.file fd).Used (w'.host.file fd) := by
  by_cases heq : fd = a.session.fd
  · have hfile := hv.self.file
    rw [hfd] at hfile
    rw [heq, ha.file, hfile]
    exact hu
  · by_cases heq' : fd = b.session.fd
    · have hfile := hv.peer.file
      rw [hfd'] at hfile
      rw [heq', hb.file, hfile]
      exact hu'
    · rw [hv.within.files fd (by rw [List.mem_pair, hfd, hfd', not_or]; exact ⟨heq, heq'⟩)]
      exact .refl _

theorem Retired.file_of_open (h : Retired w w' id s.fd)
    (hopen : (w'.host.file fd).isOpen = true) : w'.host.file fd = w.host.file fd := by
  rw [h.files] at hopen ⊢
  split at hopen
  · rw [File.isOpen_close] at hopen
    cases hopen
  · next hne => rw [if_neg hne]

/-- What destroying leaves open it has not touched: the only file operation of a cascade is
closing. -/
theorem Destroyed.file_of_open (hd : Destroyed w id w')
    (hopen : (w'.host.file fd).isOpen = true) : w'.host.file fd = w.host.file fd := by
  cases hd with
  | alone _ _ hr => exact hr.file_of_open hopen
  | both _ _ _ _ _ h₁ h₂ =>
    have h2 := h₂.file_of_open hopen
    exact h2.trans (h₁.file_of_open (h2 ▸ hopen))
  | @drained s p pid w₁ _ hs hp _ hne _ h₁ h₂ =>
    by_cases hfd : fd = p.fd
    · rw [hfd]
      exact h₂.holds.file
    · have h2 : w'.host.file fd = w₁.host.file fd :=
        h₂.within.files fd fun hm => hfd (List.mem_singleton.mp hm)
      exact h2.trans (h₁.file_of_open (h2 ▸ hopen))

theorem Handled.used (hh : Handled w e stop w') (h : w.Sound)
    (hopen : (w'.host.file fd).isOpen = true) : (w.host.file fd).Used (w'.host.file fd) := by
  have hdrain {s : Session} {w₁ : Worker} (hs : w.session? (Session.ofToken e.token) = some s)
      (hpeer : s.peer = none)
      (ht : Tends w w₁ (Session.ofToken e.token) (Half.drain e (w.half s)).2
        (Half.drain e (w.half s)).2.session.interest) :
      (w.host.file fd).Used (w₁.host.file fd) := by
    obtain ⟨hlike, -, -⟩ := Half.draining_drain e (h.draining hs hpeer)
    exact ht.used (h.held _ _ hs) hlike.fd hlike.used fd
  cases hh with
  | alone hs hpeer _ ht => exact hdrain hs hpeer ht
  | aloneDoomed hs hpeer _ ht hd =>
    rw [hd.file_of_open hopen]
    exact hdrain hs hpeer ht
  | pair hs hp hpeer hr _ ha =>
    obtain ⟨-, -, hk⟩ := h.event_keeps hs hp hpeer hr
    exact Serves.used ha (h.held _ _ hs) (h.held _ _ hp) hk.self.fd hk.peer.fd hk.self.used
      hk.peer.used fd
  | pairDoomed hs hp hpeer hr _ ha hd =>
    obtain ⟨-, -, hk⟩ := h.event_keeps hs hp hpeer hr
    rw [hd.file_of_open hopen]
    exact Serves.used ha (h.held _ _ hs) (h.held _ _ hp) hk.self.fd hk.peer.fd hk.self.used
      hk.peer.used fd

end Sluice.Worker
