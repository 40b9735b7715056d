import Sluice.Proofs.Worker.Crews

/-!
# Two workers in step

An action that is started in two workers may go the same way in both (`Worker.Follows`): where the
first run returns, the second returns as well, with the same result. Taking clients in goes the same
way in workers that differ in some sessions and their files alone (`Worker.Abreast`), because a new
session takes a slot and files that are none of these. So what the control pipe brings does not
depend on the sessions that are there (`Worker.Sound.follows_onControl`).
-/

namespace Sluice.Worker

variable {α β : Type} {w w' v v' : Worker} {id : SessionId} {fd client remote : Descriptor}
  {ids : List SessionId} {fds clients given : List Descriptor} {unsent : List UInt8}

/-! ## Actions in step -/

/-- Where `x` returns from `w`, `y` returns the same from `v`, and the two workers are related by
`R` then. -/
def Follows (x : Act α) (w : Worker) (y : Act α) (v : Worker)
    (R : α → Worker → Worker → Prop) : Prop :=
  Leads x w (fun a w' => ∃ v', y v = .ok a v' ∧ R a w' v') anyhow

theorem follows_of_ok {x y : Act α} {a : α} {R : α → Worker → Worker → Prop} (hx : x w = .ok a w')
    (hy : y v = .ok a v') (hr : R a w' v') : Follows x w y v R :=
  (leads_of_ok hx _).mpr ⟨v', hy, hr⟩

theorem Follows.bind {x y : Act α} {f g : α → Act β} {R : α → Worker → Worker → Prop}
    {S : β → Worker → Worker → Prop} (hx : Follows x w y v R)
    (hf : ∀ a w' v', R a w' v' → Follows (f a) w' (g a) v' S) :
    Follows (x >>= f) w (y >>= g) v S := by
  refine Leads.bind hx ?_
  rintro a w₁ ⟨v₁, hy, hr⟩
  refine (hf a w₁ v₁ hr).imp ?_
  rintro b w₂ ⟨v₂, hg, hs⟩
  exact ⟨v₂, (bind_of_ok hy g).trans hg, hs⟩

theorem Follows.get_bind {f g : Worker → Act β} {S : β → Worker → Worker → Prop}
    (h : Follows (f w) w (g v) v S) : Follows (get >>= f) w (get >>= g) v S := h

theorem Follows.imp {x y : Act α} {R S : α → Worker → Worker → Prop} (h : Follows x w y v R)
    (hrs : ∀ a w' v', R a w' v' → S a w' v') : Follows x w y v S := by
  refine Leads.imp h ?_
  rintro a w₁ ⟨v₁, hy, hr⟩
  exact ⟨v₁, hy, hrs a w₁ v₁ hr⟩

/-! ## Workers abreast -/

/-- The two workers differ at most in the sessions `ids` and in the files and registrations of
`fds`, which are of no other session. -/
structure Abreast (ids : List SessionId) (fds : List Descriptor) (w v : Worker) : Prop where
  within : Within ids fds w v
  poller : w.poller.Sound
  poller' : v.poller.Sound
  there : ∀ x ∈ ids, w.session? x ≠ none
  apart : ∀ x s, x ∉ ids → w.session? x = some s → s.fd ∉ fds
  numbers : ∀ fd ∈ fds, fd < w.host.next

theorem Manned.abreast (hm : w.Manned ids fds) (h : w.Sound) (hv : v.Sound)
    (hwithin : Within ids fds w v) :
    Abreast ids fds w v where
  within := hwithin
  poller := h.enrolled.poller
  poller' := hv.enrolled.poller
  there := hm.there
  apart x s hx hs := hm.fd_not_mem h hs hx
  numbers fd hfd := by
    obtain ⟨x, -, t, ht, rfl⟩ := hm.owners fd hfd
    exact h.housed.next t.fd (h.held x t ht).isOpen

namespace Abreast

theorem say (h : Abreast ids fds w v) (log log' : List LogEntry) :
    Abreast ids fds { w with log } { v with log := log' } :=
  { h with within := { h.within with index := h.within.index } }

theorem sameBut (h : Abreast ids fds w v) : Host.SameBut fds w.host v.host :=
  ⟨h.within.files, h.within.next, h.within.network, h.within.exhausted⟩

theorem withHost (h : Abreast ids fds w v) {host host' : Host} (hh : Host.SameBut fds host host')
    (hnext : w.host.next ≤ host.next) : Abreast ids fds (w.withHost host) (v.withHost host') :=
  { h with
    within := { h.within with
      files := hh.files
      next := hh.next
      network := hh.network
      exhausted := hh.exhausted }
    numbers := fun fd hfd => Int.lt_of_lt_of_le (h.numbers fd hfd) hnext }

theorem withPool (h : Abreast ids fds w v) (pool : Pool) :
    Abreast ids fds { w with pool } { v with pool } :=
  { h with within := { h.within with pool := rfl } }

theorem withControl (h : Abreast ids fds w v) (control : Channel) :
    Abreast ids fds { w with control } { v with control } :=
  { h with within := { h.within with control := rfl } }

theorem withIncoming (h : Abreast ids fds w v) (incoming : List Descriptor) :
    Abreast ids fds { w with incoming } { v with incoming } :=
  { h with within := { h.within with incoming := rfl } }

theorem insert (h : Abreast ids fds w v) {s : Session} (hfd : s.fd ∉ fds) :
    (v.sessions.insert s).1 = (w.sessions.insert s).1 ∧ (w.sessions.insert s).1 ∉ ids
      ∧ Abreast ids fds { w with sessions := (w.sessions.insert s).2 }
        { v with sessions := (v.sessions.insert s).2 } := by
  obtain ⟨hslot, hfree, hslots⟩ := Arena.insert_congr h.within.free h.within.slots s
  have hvacant : w.session? (w.sessions.insert s).1 = none := w.sessions.get?_insert_fst s
  have hlook (u : Worker) (x : SessionId) :
      ({ u with sessions := (u.sessions.insert s).2 } : Worker).session? x
        = if x = (u.sessions.insert s).1 then some s else u.session? x := u.sessions.get?_insert s x
  have hsize : (v.sessions.insert s).2.size = (w.sessions.insert s).2.size := by
    rw [Arena.size_insert, Arena.size_insert, h.within.size]
  refine ⟨hslot, fun hmem => h.there _ hmem hvacant, { h with
    within := { h.within with
      sessions := fun x hx => ?_
      size := hsize
      slots := hslots
      free := hfree }
    there := fun x hx => ?_
    apart := fun x t hx ht => ?_ }⟩
  · rw [hlook, hlook, hslot, h.within.sessions x hx]
  · rw [hlook]
    split
    · exact Option.some_ne_none s
    · exact h.there x hx
  · rw [hlook] at ht
    split at ht
    · obtain rfl := Option.some.inj ht
      exact hfd
    · exact h.apart x t hx ht

theorem modify (h : Abreast ids fds w v) (id : SessionId) {f : Session → Session}
    (hf : ∀ s, (f s).fd = s.fd) : Abreast ids fds { w with sessions := w.sessions.modify id f }
      { v with sessions := v.sessions.modify id f } := by
  have hsize : (v.sessions.modify id f).size = (w.sessions.modify id f).size := by
    rw [Arena.size_modify, Arena.size_modify, h.within.size]
  have hslots : (v.sessions.modify id f).slots.size = (w.sessions.modify id f).slots.size := by
    rw [Arena.slots_size_modify, Arena.slots_size_modify, h.within.slots]
  refine { h with
    within := { h.within with
      sessions := fun x hx => ?_
      size := hsize
      slots := hslots }
    there := fun x hx => ?_
    apart := fun x t hx ht => ?_ }
  · rw [session?_modify, session?_modify, h.within.sessions x hx]
  · have hthere := h.there x hx
    rw [session?_modify]
    split
    · rw [ne_eq, Option.map_eq_none_iff]
      exact hthere
    · exact hthere
  · rw [session?_modify] at ht
    split at ht
    · obtain ⟨t', ht', rfl⟩ := Option.map_eq_some_iff.mp ht
      rw [hf]
      exact h.apart x t' hx ht'
    · exact h.apart x t hx ht

/-- What is registered in one can be registered in the other. The descriptor is none of those at
which the two differ, and a refusal would depend on nothing else. -/
theorem add (h : Abreast ids fds w v) (hfd : fd ∉ fds) {token : Token} {i : Interest} {p : Poller}
    (hadd : w.poller.add w.view fd token i = .ok p) : ∃ p', v.poller.add v.view fd token i = .ok p'
      ∧ Abreast ids fds { w with poller := p } { v with poller := p' } := by
  have hw := h.within
  obtain ⟨hsound, hbackend, hnone, hreg⟩ := Poller.add_ok h.poller hadd
  have hview : v.view.status fd = w.view.status fd := by
    simp only [view, viewWith, hw.control, hw.files fd hfd]
  have hadmits : v.poller.backend.Admits (v.view.status fd) := by
    rw [hw.backend, hview]
    exact Poller.admits_of_add hadd
  obtain ⟨p', hadd'⟩ :=
    Poller.add_succeeds token i h.poller' ((hw.watched fd hfd).trans hnone) hadmits
  obtain ⟨hsound', hbackend', -, hreg'⟩ := Poller.add_ok h.poller' hadd'
  have hwatched (fd' : Descriptor) (hfd' : fd' ∉ fds) :
      p'.registration? fd' = p.registration? fd' := by
    rw [hreg', hreg, hw.watched fd' hfd']
  exact ⟨p', hadd', { h with
    within := { hw with
      watched := hwatched
      backend := hbackend'.trans (hw.backend.trans hbackend.symm) }
    poller := hsound
    poller' := hsound' }⟩

end Abreast

/-! ## Actions of workers abreast -/

theorem follows_say (h : Abreast ids fds w v) (level : Level) (text : String) :
    Follows (say level text) w (say level text) v (fun _ => Abreast ids fds) :=
  follows_of_ok rfl rfl (h.say _ _)

theorem follows_modifyHost (h : Abreast ids fds w v) {f g : Host → Host}
    (hh : Host.SameBut fds (f w.host) (g v.host)) (hnext : w.host.next ≤ (f w.host).next) :
    Follows (modifyHost f) w (modifyHost g) v (fun _ => Abreast ids fds) :=
  follows_of_ok rfl rfl (h.withHost hh hnext)

theorem follows_close (h : Abreast ids fds w v) (fd : Descriptor) :
    Follows (modifyHost (·.close fd)) w (modifyHost (·.close fd)) v (fun _ => Abreast ids fds) :=
  follows_modifyHost h (h.sameBut.close fd) (Int.le_refl _)

theorem follows_acquireBuffer (h : Abreast ids fds w v) :
    Follows acquireBuffer w acquireBuffer v (fun _ => Abreast ids fds) := by
  refine Follows.get_bind ?_
  rw [h.within.pool]
  cases w.pool.acquire with
  | error stop => trivial
  | ok r => exact follows_of_ok rfl rfl (h.withPool r.2)

theorem follows_insertSession (h : Abreast ids fds w v) {s : Session} (hfd : s.fd ∉ fds) :
    Follows (insertSession s) w (insertSession s) v (fun id w' v' => id ∉ ids
      ∧ Abreast ids fds w' v') := by
  obtain ⟨hslot, hid, habreast⟩ := h.insert hfd
  refine follows_of_ok (a := (w.sessions.insert s).1) rfl ?_ ⟨hid, habreast⟩
  rw [← hslot]
  rfl

theorem follows_modifySession (h : Abreast ids fds w v) (id : SessionId) {f : Session → Session}
    (hf : ∀ s, (f s).fd = s.fd) :
    Follows (modifySession id f) w (modifySession id f) v (fun _ => Abreast ids fds) :=
  follows_of_ok rfl rfl (h.modify id hf)

theorem follows_register (h : Abreast ids fds w v) (hid : id ∉ ids) :
    Follows (register id) w (register id) v (fun _ => Abreast ids fds) := by
  cases hs : w.session? id with
  | none =>
    have hstop : Leads (session id) w (fun _ _ => False) anyhow := by
      rw [session, leads_bind, leads_get, hs]
      trivial
    exact Leads.bind hstop fun _ _ hf => hf.elim
  | some s =>
    have hs' : v.session? id = some s := (h.within.sessions id hid).trans hs
    refine Follows.bind (R := fun a w₁ v₁ => a = s ∧ w₁ = w ∧ v₁ = v)
      (follows_of_ok (session_ok hs) (session_ok hs') ⟨rfl, rfl, rfl⟩) ?_
    rintro _ _ _ ⟨rfl, rfl, rfl⟩
    refine leads_registered_cases _ (fun p hadd => ?_) fun _ _ => trivial
    obtain ⟨p', hadd', habreast⟩ := h.add (h.apart id _ hid hs) hadd
    exact ⟨_, registered_ok hadd', habreast⟩

/-! ## Taking clients in, in step -/

theorem follows_attachPair (h : Abreast ids fds w v) (hc : client ∉ fds) (hr : remote ∉ fds)
    (status : ConnectStatus) :
    Follows (attachPair client remote status) w (attachPair client remote status) v
      (fun _ => Abreast ids fds) := by
  unfold attachPair
  refine Follows.get_bind ?_
  rw [h.within.files client hc, h.within.files remote hr, h.within.settings]
  refine Follows.bind (follows_say h _ _) fun _ w₁ v₁ h₁ => ?_
  refine Follows.bind (follows_say h₁ _ _) fun _ w₂ v₂ h₂ => ?_
  refine Follows.bind (follows_acquireBuffer h₂) fun b w₃ v₃ h₃ => ?_
  refine Follows.bind (follows_acquireBuffer h₃) fun b' w₄ v₄ h₄ => ?_
  refine Follows.bind (follows_insertSession h₄ hc) fun id w₅ v₅ ⟨hid, h₅⟩ => ?_
  refine Follows.bind (follows_insertSession h₅ hr) fun id' w₆ v₆ ⟨hid', h₆⟩ => ?_
  refine Follows.bind (follows_modifySession h₆ id fun _ => rfl) fun _ w₇ v₇ h₇ => ?_
  refine Follows.bind (follows_modifySession h₇ id' fun _ => rfl) fun _ w₈ v₈ h₈ => ?_
  refine Follows.bind (follows_register h₈ hid) fun _ w₉ v₉ h₉ => ?_
  refine Follows.bind (follows_register h₉ hid') fun _ w' v' h' => ?_
  exact follows_of_ok rfl rfl h'

theorem follows_acceptClient (h : Abreast ids fds w v) (hfd : fd ∉ fds) :
    Follows (acceptClient fd) w (acceptClient fd) v (fun _ => Abreast ids fds) := by
  unfold acceptClient
  dsimp only
  split
  · trivial
  refine Follows.get_bind ?_
  rw [h.within.files fd hfd, h.within.settings]
  cases (w.host.file fd).prepareError? w.settings.noDelay with
  | some e =>
    exact Follows.bind (follows_say h _ _) fun _ w₁ v₁ h₁ => follows_close h₁ fd
  | none =>
    obtain ⟨hanswer, hhost⟩ := h.sameBut.connect w.settings.remote w.settings.noDelay
    have hdial := w.host.dialed_connect w.settings.remote w.settings.noDelay
    dsimp only
    rw [hanswer]
    generalize w.host.connect w.settings.remote w.settings.noDelay = r at hhost hdial ⊢
    cases hdial with
    | @failed e host _ hnext _ _ =>
      refine Follows.bind (follows_modifyHost h hhost (Int.le_of_eq hnext.symm))
        fun _ w₁ v₁ h₁ => ?_
      exact Follows.bind (follows_say h₁ _ _) fun _ w₂ v₂ h₂ => follows_close h₂ fd
    | @opened s a status host _ _ _ _ hnext _ _ =>
      -- the new socket has a number that was not given out before
      have hremote : w.host.next ∉ fds := fun hmem => Int.lt_irrefl _ (h.numbers _ hmem)
      refine Follows.bind (follows_modifyHost h hhost ?_) fun _ w₁ v₁ h₁ => ?_
      · rw [hnext]
        exact Int.le_of_lt (Int.lt_add_one_of_le (Int.le_refl _))
      · exact Follows.bind (follows_attachPair h₁ hfd hremote status) fun _ w₂ v₂ h₂ =>
          follows_of_ok rfl rfl h₂

theorem follows_acceptClients (h : Abreast ids fds w v) (hclients : ∀ fd ∈ clients, fd ∉ fds) :
    Follows (acceptClients clients) w (acceptClients clients) v (fun _ => Abreast ids fds) := by
  induction clients generalizing w v with
  | nil => exact follows_of_ok rfl rfl h
  | cons fd rest ih =>
    obtain ⟨hfd, hrest⟩ := List.forall_mem_cons.mp hclients
    exact Follows.bind (follows_acceptClient h hfd) fun _ w₁ v₁ h₁ => ih h₁ hrest

theorem follows_onControl_abreast (h : Abreast ids fds w v)
    (hclients : ∀ fd ∈ w.incoming ++ w.arrived, fd ∉ fds) :
    Follows onControl w onControl v (fun _ => Abreast ids fds) := by
  unfold onControl
  refine Follows.get_bind ?_
  rw [h.within.control, h.within.incoming]
  have h₁ := (h.withControl w.control.drain.2).withIncoming []
  refine Follows.bind (R := fun _ => Abreast ids fds) (follows_of_ok rfl rfl h₁) ?_
  intro _ w₁ v₁ h₁
  cases w.control.drain.1.error with
  | some e => trivial
  | none =>
    refine Follows.bind (follows_acceptClients h₁ hclients) fun left w₂ v₂ h₂ => ?_
    exact follows_of_ok rfl rfl (h₂.withIncoming left)

/-! ## The control pipe -/

/-- What the control pipe brings is taken in in the same way whatever the sessions `ids` have come
to. -/
theorem Sound.follows_onControl (h : w.Sound) (hsup : w.Supplied unsent given)
    (hm : w.Manned ids fds)
    (hv : v.Sound) (hwithin : Within ids fds w v) :
    Follows onControl w onControl v (fun _ => Within ids fds) := by
  refine (follows_onControl_abreast (hm.abreast h hv hwithin) fun fd hfd hmem => ?_).imp
    fun _ _ _ habreast => habreast.within
  obtain ⟨x, -, t, ht, heq⟩ := hm.owners fd hmem
  rw [hsup.1, List.nil_append] at hfd
  exact (hsup.arrived.loose fd hfd).2 ⟨x, t, ht, heq⟩

theorem Admitted.sameOn (ha : Admitted w w') (h : w.Sound) (h' : w'.Sound) (hm : w.Manned ids fds) :
    SameOn ids fds w w' := by
  have hsame (x : SessionId) (hx : x ∈ ids) : ∃ t, w.session? x = some t
      ∧ w'.session? x = some t := by
    obtain ⟨t, ht⟩ := Option.ne_none_iff_exists'.mp (hm.there x hx)
    exact ⟨t, ht, ha.sessions x t ht⟩
  refine ⟨fun x hx => ?_, fun fd hfd => ?_, fun fd hfd => ?_, ha.settings⟩
  · obtain ⟨t, ht, ht'⟩ := hsame x hx
    rw [ht, ht']
  · obtain ⟨x, -, t, ht, rfl⟩ := hm.owners fd hfd
    exact ha.files t.fd (h.owned_lt ⟨x, t, ht, rfl⟩) fun hl => hl.2 ⟨x, t, ht, rfl⟩
  · obtain ⟨x, -, t, ht, rfl⟩ := hm.owners fd hfd
    have hwatched := (h.held x t ht).watched
    have hwatched' := (h'.held x t (ha.sessions x t ht)).watched
    exact hwatched'.trans hwatched.symm

end Sluice.Worker
