import Sluice.Proofs.Worker.Teardown

/-!
# Events of sessions

What the event of a session makes of a worker that is in order (`Worker.Handled`): the halves it is
about go through their handlers, and one of them is destroyed if it is doomed. The worker stops only
when there is no such session (`leads_onSessionReady`), and otherwise is in order again
(`Sound.handled`).
-/

namespace Sluice.Worker

variable {w w' : Worker} {id pid : SessionId} {s p : Session} {e : Event} {stop : Bool}
  {E : Abort → Prop}

/-- What the event has made of the worker, and whether it destroyed a session. There is one case for
each end that an event can have; in each of them the halves are known from `Half.drain` or
`Half.onEvent`, and a session is destroyed only after that. -/
inductive Handled (w : Worker) (e : Event) : Bool → Worker → Prop
  | alone {s : Session} {w' : Worker} (hs : w.session? (Session.ofToken e.token) = some s)
      (hpeer : s.peer = none) (hr : (Half.drain e (w.half s)).1 = false)
      (ht : Tends w w' (Session.ofToken e.token) (Half.drain e (w.half s)).2
        (Half.drain e (w.half s)).2.session.interest) :
      Handled w e false w'
  | aloneDoomed {s : Session} {w₁ w' : Worker}
      (hs : w.session? (Session.ofToken e.token) = some s)
      (hpeer : s.peer = none) (hr : (Half.drain e (w.half s)).1 = true)
      (ht : Tends w w₁ (Session.ofToken e.token) (Half.drain e (w.half s)).2
        (Half.drain e (w.half s)).2.session.interest)
      (hd : Destroyed w₁ (Session.ofToken e.token) w') :
      Handled w e true w'
  | pair {s p : Session} {pid : SessionId} {r : Outcome} {w' : Worker}
      (hs : w.session? (Session.ofToken e.token) = some s) (hp : w.session? pid = some p)
      (hpeer : s.peer = some pid)
      (hr : r = Half.onEvent w.settings.maxOpsPerFd e (w.half s) (w.half p))
      (hd : r.doomed = none) (ha : Attends w w' (Session.ofToken e.token) pid r.self r.peer) :
      Handled w e false w'
  | pairDoomed {s p : Session} {pid target : SessionId} {r : Outcome} {w₁ w' : Worker}
      (hs : w.session? (Session.ofToken e.token) = some s) (hp : w.session? pid = some p)
      (hpeer : s.peer = some pid)
      (hr : r = Half.onEvent w.settings.maxOpsPerFd e (w.half s) (w.half p))
      (ht : r.target (Session.ofToken e.token) pid = some target)
      (ha : Attends w w₁ (Session.ofToken e.token) pid r.self r.peer)
      (hd : Destroyed w₁ target w') :
      Handled w e true w'

/-- The event of a linked session goes to both halves, and the doomed one of them is destroyed. -/
theorem Handled.of_pair {r : Outcome} (hh : Handled w e stop w')
    (hs : w.session? (Session.ofToken e.token) = some s) (hp : w.session? pid = some p)
    (hpeer : s.peer = some pid)
    (hr : r = Half.onEvent w.settings.maxOpsPerFd e (w.half s) (w.half p)) :
    r.doomed = none ∧ Attends w w' (Session.ofToken e.token) pid r.self r.peer
      ∨ ∃ target w₁, r.target (Session.ofToken e.token) pid = some target
        ∧ Attends w w₁ (Session.ofToken e.token) pid r.self r.peer ∧ Destroyed w₁ target w' := by
  cases hh with
  | alone hs' hnone | aloneDoomed hs' hnone =>
    obtain rfl := Option.some.inj (hs'.symm.trans hs)
    rw [hpeer] at hnone
    cases hnone
  | pair hs' hp' hpeer' hr' hd ha =>
    obtain rfl := Option.some.inj (hs'.symm.trans hs)
    obtain rfl := Option.some.inj (hpeer'.symm.trans hpeer)
    obtain rfl := Option.some.inj (hp'.symm.trans hp)
    rw [← hr] at hr'
    exact Or.inl ⟨hr' ▸ hd, hr' ▸ ha⟩
  | pairDoomed hs' hp' hpeer' hr' ht ha hd =>
    obtain rfl := Option.some.inj (hs'.symm.trans hs)
    obtain rfl := Option.some.inj (hpeer'.symm.trans hpeer)
    obtain rfl := Option.some.inj (hp'.symm.trans hp)
    rw [← hr] at hr'
    exact Or.inr ⟨_, _, hr' ▸ ht, hr' ▸ ha, hd⟩

theorem Handled.of_alone (hh : Handled w e stop w')
    (hs : w.session? (Session.ofToken e.token) = some s) (hpeer : s.peer = none) :
    ∃ w₁, Tends w w₁ (Session.ofToken e.token) (Half.drain e (w.half s)).2
        (Half.drain e (w.half s)).2.session.interest
      ∧ ((Half.drain e (w.half s)).1 = false ∧ w' = w₁
        ∨ (Half.drain e (w.half s)).1 = true ∧ Destroyed w₁ (Session.ofToken e.token) w') := by
  cases hh with
  | alone hs' _ hr ht =>
    obtain rfl := Option.some.inj (hs'.symm.trans hs)
    exact ⟨_, ht, Or.inl ⟨hr, rfl⟩⟩
  | aloneDoomed hs' _ hr ht hd =>
    obtain rfl := Option.some.inj (hs'.symm.trans hs)
    exact ⟨_, ht, Or.inr ⟨hr, hd⟩⟩
  | pair hs' _ hlink | pairDoomed hs' _ hlink =>
    obtain rfl := Option.some.inj (hs'.symm.trans hs)
    rw [hpeer] at hlink
    cases hlink

theorem SoundBut.linked {except : List SessionId} (h : SoundBut except w)
    (hs : w.session? id = some s) (hid : id ∉ except) (hpeer : s.peer = some pid) :
    ∃ p, w.session? pid = some p ∧ p.peer = some id ∧ (w.half s).Linked (w.half p)
      ∧ id ≠ pid ∧ Attends w w id pid (w.half s) (w.half p) := by
  have hset := h.settled id s hs hid
  rw [Settled, hpeer] at hset
  obtain ⟨p, hp, hback, hl⟩ := hset
  have hne : id ≠ pid := by
    rintro rfl
    obtain rfl := Option.some.inj (hs.symm.trans hp)
    exact hl.paired.there.role rfl
  exact ⟨p, hp, hback, hl, hne, h.held id s hs, h.held pid p hp, hne,
    h.enrolled.poller, .refl _ _ _⟩

/-- A session that is the peer of another one links back to it, and the halves of the two are
linked. -/
theorem Sound.linked_peer (h : w.Sound) (hs : w.session? id = some s) (hp : w.session? pid = some p)
    (hpeer : s.peer = some pid) : p.peer = some id ∧ id ≠ pid ∧ (w.half s).Linked (w.half p) := by
  obtain ⟨p', hp', hback, hl, hne, -⟩ := h.linked hs List.not_mem_nil hpeer
  obtain rfl := Option.some.inj (hp.symm.trans hp')
  exact ⟨hback, hne, hl⟩

theorem Sound.event_keeps (h : w.Sound) {r : Outcome} (hs : w.session? id = some s)
    (hp : w.session? pid = some p) (hpeer : s.peer = some pid)
    (hr : r = Half.onEvent w.settings.maxOpsPerFd e (w.half s) (w.half p)) :
    p.peer = some id ∧ id ≠ pid ∧ r.Keeps (w.half s) (w.half p) := by
  obtain ⟨hback, hne, hl⟩ := h.linked_peer hs hp hpeer
  exact ⟨hback, hne, hr ▸ Half.keeps_onEvent _ e hl⟩

/-- The worker after an event in which the pair `id` and `pid` came to the outcome `r`. Whether the
two are still linked is left open, because one of them may be going to be destroyed. -/
theorem Sound.attended (h : w.Sound) (hs : w.session? id = some s) (hp : w.session? pid = some p)
    (hpeer : s.peer = some pid) (hback : p.peer = some id) {r : Outcome}
    (hk : r.Keeps (w.half s) (w.half p)) (ha : Attends w w' id pid r.self r.peer) :
    SoundBut [id, pid] w' :=
  (h.mono (List.nil_subset _) : SoundBut [id, pid] w).serves (h.held id s hs) (h.held pid p hp) ha
    ⟨hk.self.fd, hk.self.length, hk.self.used⟩ ⟨hk.peer.fd, hk.peer.length, hk.peer.used⟩
    (by simp) (by simp) hpeer hback

theorem Sound.draining (h : w.Sound) (hs : w.session? id = some s) (hpeer : s.peer = none) :
    (w.half s).Draining := by
  have hset := h.settled _ s hs List.not_mem_nil
  rwa [Settled, hpeer] at hset

theorem Sound.drained (h : w.Sound) (hs : w.session? id = some s) (hpeer : s.peer = none)
    (ht : Tends w w' id (Half.drain e (w.half s)).2 (Half.drain e (w.half s)).2.session.interest) :
    SoundBut [id] w' ∧ (Half.drain e (w.half s)).2.session.peer = none := by
  obtain ⟨hlike, -, -⟩ := Half.draining_drain e (h.draining hs hpeer)
  have hbut : SoundBut [id] w := h.mono (List.nil_subset _)
  refine ⟨hbut.tends (h.held id s hs) ht ⟨hlike.fd, hlike.length, hlike.used⟩ (by simp) ?_,
    hlike.peer.trans hpeer⟩
  intro x hx
  have hx : s.peer = some x := hx
  rw [hpeer] at hx
  cases hx

/-- The event has doomed the session `target`, and nothing is destroyed yet. What the doomed session
has read and staged can still be seen here. -/
inductive Doomed (w : Worker) (e : Event) : SessionId → Worker → Prop
  | alone {s : Session} {w₁ : Worker} (hs : w.session? (Session.ofToken e.token) = some s)
      (hpeer : s.peer = none) (hr : (Half.drain e (w.half s)).1 = true)
      (ht : Tends w w₁ (Session.ofToken e.token) (Half.drain e (w.half s)).2
        (Half.drain e (w.half s)).2.session.interest) :
      Doomed w e (Session.ofToken e.token) w₁
  | pair {s p : Session} {pid target : SessionId} {r : Outcome} {w₁ : Worker}
      (hs : w.session? (Session.ofToken e.token) = some s) (hp : w.session? pid = some p)
      (hpeer : s.peer = some pid)
      (hr : r = Half.onEvent w.settings.maxOpsPerFd e (w.half s) (w.half p))
      (ht : r.target (Session.ofToken e.token) pid = some target)
      (ha : Attends w w₁ (Session.ofToken e.token) pid r.self r.peer) :
      Doomed w e target w₁

theorem Doomed.whom {target : SessionId} (hd : Doomed w e target w') :
    ∃ s, w.session? (Session.ofToken e.token) = some s
      ∧ (target = Session.ofToken e.token ∨ s.peer = some target) := by
  cases hd with
  | alone hs => exact ⟨_, hs, Or.inl rfl⟩
  | pair hs _ hpeer _ ht =>
    refine ⟨_, hs, ?_⟩
    rcases Outcome.target_cases ht with ⟨-, rfl⟩ | ⟨-, rfl⟩
    · exact Or.inl rfl
    · exact Or.inr hpeer

/-- What the event has made of the worker when nothing is destroyed yet. -/
def Verdict (w : Worker) (e : Event) (doomed : Option SessionId) (w₁ : Worker) : Prop :=
  match doomed with
  | some target => Doomed w e target w₁
  | none => Handled w e false w₁

theorem leads_findDoomed_verdict (h : w.Sound)
    (hs : w.session? (Session.ofToken e.token) = some s) :
    Leads (findDoomed (Session.ofToken e.token) e) w (Verdict w e) never := by
  cases hpeer : s.peer with
  | none =>
    refine (leads_findDoomed_alone e (h.held _ s hs) h.enrolled.poller (h.draining hs hpeer)).imp ?_
    rintro doomed w₁ ⟨rfl, ht⟩
    rw [← show _ = s.interest from Half.interest_drain e (w.half s)] at ht
    cases hr : (Half.drain e (w.half s)).1 with
    | false => exact Handled.alone hs hpeer hr ht
    | true => exact Doomed.alone hs hpeer hr ht
  | some pid =>
    obtain ⟨p, hp, hback, hl, hne, hatt⟩ := h.linked hs List.not_mem_nil hpeer
    refine (leads_findDoomed e hatt hpeer hl).imp ?_
    rintro doomed w₁ ⟨rfl, ha⟩
    cases ht : (Half.onEvent w.settings.maxOpsPerFd e (w.half s) (w.half p)).target
        (Session.ofToken e.token) pid with
    | none => exact Handled.pair hs hp hpeer rfl (Option.map_eq_none_iff.mp ht) ha
    | some target => exact Doomed.pair hs hp hpeer rfl ht ha

/-- Destroying the session that an event has doomed does not stop, and then the event is handled. It
is there to be destroyed, since no handler takes a session away. -/
theorem Doomed.leads_destroy {target : SessionId} (hd : Doomed w e target w₁) (h : w.Sound) :
    Leads (destroy target) w₁ (fun _ w' => Destroyed w₁ target w' ∧ Handled w e true w') never := by
  cases hd with
  | alone hs hpeer hr ht =>
    obtain ⟨h₁, hpeer₁⟩ := h.drained hs hpeer ht
    exact (leads_destroy_alone h₁ ht.holds.session hpeer₁).imp
      fun _ w' hd => ⟨hd, .aloneDoomed hs hpeer hr ht hd⟩
  | @pair s p pid _ r _ hs hp hpeer hr ht ha =>
    obtain ⟨hback, hne, hk⟩ := h.event_keeps hs hp hpeer hr
    have h₁ := h.attended hs hp hpeer hback hk ha
    have hpeer₁ : r.self.session.peer = some pid := hk.self.peer.trans hpeer
    have hback₁ : r.peer.session.peer = some (Session.ofToken e.token) := hk.peer.peer.trans hback
    rcases Outcome.target_cases ht with ⟨-, rfl⟩ | ⟨-, rfl⟩
    · exact (leads_destroy_pair h₁ ha.self.session ha.peer.session hpeer₁ hback₁ hne (by simp)
        (by simp)).imp fun _ w' hd => ⟨hd, .pairDoomed hs hp hpeer hr ht ha hd⟩
    · exact (leads_destroy_pair h₁ ha.peer.session ha.self.session hback₁ hpeer₁ hne.symm (by simp)
        (by simp)).imp fun _ w' hd => ⟨hd, .pairDoomed hs hp hpeer hr ht ha hd⟩

/-- The event of a session is handled; the worker stops only when there is no such session. With
that known, whoever asks about an event needs no more than the cases of `Handled`. -/
theorem leads_onSessionReady (h : w.Sound) (e : Event)
    (hE : w.session? (Session.ofToken e.token) = none →
      E (.fatal (.unknownEvent (Session.ofToken e.token)))) :
    Leads (onSessionReady e) w (Handled w e) E := by
  unfold onSessionReady
  rw [leads_bind, leads_get]
  dsimp only
  cases hs : w.session? (Session.ofToken e.token) with
  | none => exact hE hs
  | some s =>
    refine Leads.bind (leads_findDoomed_verdict h hs).of_never fun doomed w₁ hv => ?_
    cases doomed with
    | none => exact hv
    | some target => exact Leads.bind (hv.leads_destroy h).of_never fun _ w' hd => hd.2

/-- What the event of a session came to, if it has not stopped the worker. -/
theorem Sound.handled_of_ok (h : w.Sound) (hok : onSessionReady e w = .ok stop w') :
    Handled w e stop w' :=
  (leads_onSessionReady (E := anyhow) h e fun _ => trivial).of_ok hok

theorem Sound.exists_handled (h : w.Sound) (hs : w.session? (Session.ofToken e.token) = some s) :
    ∃ stop w', onSessionReady e w = .ok stop w' ∧ Handled w e stop w' := by
  refine (leads_onSessionReady (E := never) h e fun hgone => ?_).exists_ok
  rw [hs] at hgone
  cases hgone

theorem Sound.onSessionReady_pair {r : Outcome} (h : w.Sound)
    (hs : w.session? (Session.ofToken e.token) = some s) (hp : w.session? pid = some p)
    (hpeer : s.peer = some pid)
    (hr : r = Half.onEvent w.settings.maxOpsPerFd e (w.half s) (w.half p))
    (hnone : r.doomed = none) :
    ∃ w', onSessionReady e w = .ok false w'
      ∧ Attends w w' (Session.ofToken e.token) pid r.self r.peer := by
  obtain ⟨stop, w', hok, hh⟩ := h.exists_handled hs
  have hends := hh.of_pair hs hp hpeer hr
  have hnot (target : SessionId) : r.target (Session.ofToken e.token) pid ≠ some target := by
    simp [Outcome.target, hnone]
  have hgoes := hends.resolve_right (by
    rintro ⟨target, -, ht, -⟩
    exact hnot target ht)
  refine ⟨w', ?_, hgoes.2⟩
  cases hh with
  | alone | pair => exact hok
  | aloneDoomed hs' hlone =>
    obtain rfl := Option.some.inj (hs'.symm.trans hs)
    rw [hpeer] at hlone
    cases hlone
  | pairDoomed hs' hp' hpeer' hr' ht =>
    obtain rfl := Option.some.inj (hs'.symm.trans hs)
    obtain rfl := Option.some.inj (hpeer'.symm.trans hpeer)
    obtain rfl := Option.some.inj (hp'.symm.trans hp)
    exact absurd (hr.trans hr'.symm ▸ ht) (hnot _)

theorem Sound.onSessionReady_alone (h : w.Sound)
    (hs : w.session? (Session.ofToken e.token) = some s) (hpeer : s.peer = none)
    (hgoes : (Half.drain e (w.half s)).1 = false) :
    ∃ w', onSessionReady e w = .ok false w' ∧ Tends w w' (Session.ofToken e.token)
      (Half.drain e (w.half s)).2 (Half.drain e (w.half s)).2.session.interest := by
  obtain ⟨stop, w', hok, hh⟩ := h.exists_handled hs
  cases hh with
  | alone hs' _ _ ht =>
    obtain rfl := Option.some.inj (hs'.symm.trans hs)
    exact ⟨w', hok, ht⟩
  | aloneDoomed hs' _ hr =>
    obtain rfl := Option.some.inj (hs'.symm.trans hs)
    rw [hgoes] at hr
    cases hr
  | pair hs' _ hlink | pairDoomed hs' _ hlink =>
    obtain rfl := Option.some.inj (hs'.symm.trans hs)
    rw [hpeer] at hlink
    cases hlink

/-! ## The invariant after an event -/

theorem Sound.handled_alone (h : w.Sound) (hs : w.session? id = some s) (hpeer : s.peer = none)
    (hr : (Half.drain e (w.half s)).1 = false)
    (ht : Tends w w' id (Half.drain e (w.half s)).2 (Half.drain e (w.half s)).2.session.interest) :
    w'.Sound := by
  obtain ⟨-, -, hdrain⟩ := Half.draining_drain e (h.draining hs hpeer)
  obtain ⟨h', hpeer'⟩ := h.drained hs hpeer ht
  refine h'.shrink fun x t hx hmem => Or.inr ?_
  obtain rfl := List.mem_singleton.mp hmem
  obtain rfl := Option.some.inj (ht.holds.session.symm.trans hx)
  rw [Settled, hpeer', ht.holds.half_eq]
  exact hdrain hr

theorem Sound.handled_pair (h : w.Sound) (hs : w.session? id = some s)
    (hp : w.session? pid = some p)
    (hpeer : s.peer = some pid) (hback : p.peer = some id) {r : Outcome}
    (hk : r.Keeps (w.half s) (w.half p)) (hd : r.doomed = none)
    (ha : Attends w w' id pid r.self r.peer) : w'.Sound := by
  have hl := hk.linked_of_none hd
  refine (h.attended hs hp hpeer hback hk ha).shrink fun x t hx hmem => Or.inr ?_
  rcases List.mem_pair.mp hmem with rfl | rfl
  · obtain rfl := Option.some.inj (ha.self.session.symm.trans hx)
    rw [Settled, hk.self.peer.trans hpeer, ha.self.half_eq]
    exact ⟨_, ha.peer.session, hk.peer.peer.trans hback, by rw [ha.peer.half_eq]; exact hl⟩
  · obtain rfl := Option.some.inj (ha.peer.session.symm.trans hx)
    rw [Settled, hk.peer.peer.trans hback, ha.peer.half_eq]
    exact ⟨_, ha.self.session, hk.self.peer.trans hpeer, by rw [ha.self.half_eq]; exact hl.symm⟩

theorem Sound.handled_doomed (h : w.Sound) {w₁ : Worker} {target : SessionId}
    (hs : w.session? id = some s) (hp : w.session? pid = some p)
    (hpeer : s.peer = some pid) (hback : p.peer = some id) (hne : id ≠ pid) {r : Outcome}
    (hk : r.Keeps (w.half s) (w.half p)) (ht : r.target id pid = some target)
    (ha : Attends w w₁ id pid r.self r.peer) (hd : Destroyed w₁ target w') : w'.Sound := by
  have h₁ := h.attended hs hp hpeer hback hk ha
  have hpeer₁ : r.self.session.peer = some pid := hk.self.peer.trans hpeer
  have hback₁ : r.peer.session.peer = some id := hk.peer.peer.trans hback
  rcases Outcome.target_cases ht with ⟨hside, rfl⟩ | ⟨-, rfl⟩
  · have hl := hk.linked_of_self hside
    refine h₁.destroyed_pair (by simp) ha.self.session ha.peer.session hpeer₁ hback₁ hne ?_ hd
    rw [ha.peer.half_eq]
    exact hl.symm.fit
  · refine h₁.destroyed_pair (by simp [or_comm]) ha.peer.session ha.self.session hback₁ hpeer₁
      hne.symm ?_ hd
    rw [ha.self.half_eq]
    exact hk.fit

/-- After the event the worker is in order again. Where the pair was parted by a destruction, the
other half goes on alone, and it is fit for that. -/
theorem Sound.handled (h : w.Sound) (hh : Handled w e stop w') : w'.Sound := by
  cases hh with
  | alone hs hpeer hr ht => exact h.handled_alone hs hpeer hr ht
  | aloneDoomed hs hpeer hr ht hd =>
    obtain ⟨h₁, hpeer₁⟩ := h.drained hs hpeer ht
    exact h₁.destroyed_alone ht.holds.session hpeer₁ hd
  | pair hs hp hpeer hr hd ha =>
    obtain ⟨hback, -, hk⟩ := h.event_keeps hs hp hpeer hr
    exact h.handled_pair hs hp hpeer hback hk hd ha
  | pairDoomed hs hp hpeer hr ht ha hd =>
    obtain ⟨hback, hne, hk⟩ := h.event_keeps hs hp hpeer hr
    exact h.handled_doomed hs hp hpeer hback hne hk ht ha hd

/-! ## Destroying from outside -/

theorem leads_destroy (h : w.Sound) (hs : w.session? id = some s) :
    Leads (destroy id) w (fun _ w' => Destroyed w id w' ∧ w'.Sound) never := by
  cases hpeer : s.peer with
  | none =>
    refine (leads_destroy_alone h hs hpeer).imp fun _ w' hd => ⟨hd, ?_⟩
    exact (h.mono (List.nil_subset _) : SoundBut [id] w).destroyed_alone hs hpeer hd
  | some pid =>
    obtain ⟨p, hp, hback, hl, hne, -⟩ := h.linked hs List.not_mem_nil hpeer
    have hbut : SoundBut [id, pid] w := h.mono (List.nil_subset _)
    refine (leads_destroy_pair hbut hs hp hpeer hback hne (by simp) (by simp)).imp
      fun _ w' hd => ⟨hd, ?_⟩
    exact hbut.destroyed_pair (by simp) hs hp hpeer hback hne hl.symm.fit hd

theorem leads_destroy_unknown (hs : w.session? id = none) (Q : PUnit → Worker → Prop) :
    Leads (destroy id) w Q E ↔ E (.fatal (.destroyUnknown id)) := by
  rw [destroy, leads_bind, retire, leads_bind, leads_get, Arena.remove_eq_none_iff.mpr hs]
  rfl

end Sluice.Worker
