import Sluice.Proofs.Pair.Independence
import Sluice.Proofs.Worker.Lockstep
import Sluice.Proofs.Worker.Rediscovery

/-!
# Events in another order

Two events one after the other that destroy nothing come to the same the other way round
(`Takes.swap`). Three cases make this up: an event that is confined to its crew goes with any event
elsewhere, on either side of it (`Takes.swap_after`, `Takes.swap_before`), and two events of one
pair go together because the handlers of its halves do (`Takes.swap_pair`). From swaps follows any
other order of a batch (`Passes.perm`), as long as the batch is as a poller reports it
(`Worker.Orderly`).
-/

namespace Sluice.Worker

variable {w w' w₁ w₂ v v' : Worker} {e f : Event} {events events' rest : List Event}
  {id : SessionId}
  {ids : List SessionId} {fds given : List Descriptor} {unsent : List UInt8}

/-! ## One event -/

inductive Takes (e : Event) (w w' : Worker) : Prop
  | control (hcontrol : e.token = .control) (hok : onControl w = .ok ⟨⟩ w')
  | session (hsession : e.token ≠ .control) (hok : onSessionReady e w = .ok false w')

theorem Takes.passes (ht : Takes e w w₁) (hp : Passes w₁ rest w') : Passes w (e :: rest) w' := by
  cases ht with
  | control hcontrol hok => exact .control hcontrol hok hp
  | session hsession hok => exact .session hsession hok hp

theorem passes_cons_iff : Passes w (e :: rest) w' ↔ ∃ w₁, Takes e w w₁ ∧ Passes w₁ rest w' := by
  constructor
  · intro hp
    cases hp with
    | control hcontrol hok hrest => exact ⟨_, .control hcontrol hok, hrest⟩
    | session hsession hok hrest => exact ⟨_, .session hsession hok, hrest⟩
  · rintro ⟨w₁, ht, hp⟩
    exact ht.passes hp

theorem Takes.alike (ht : Takes e w w') (h : w.Sound) (hsup : w.Supplied unsent given) :
    w'.Sound ∧ w'.Supplied unsent given ∧ Retains Half.Alike w w' :=
  (ht.passes (.nil w')).alike h hsup

theorem Crew.retained (hc : Crew w id ids fds) (hr : Retains Half.Alike w w') :
    Crew w' id ids fds := by
  cases hc with
  | @alone s hs hpeer =>
    obtain ⟨s', hs', hlike⟩ := hr id s hs
    have hfd : s'.fd = s.fd := hlike.fd
    rw [← hfd]
    exact .alone hs' (hlike.peer.trans hpeer)
  | @pair s p pid hs hp hpeer =>
    obtain ⟨s', hs', hlike⟩ := hr id s hs
    obtain ⟨p', hp', hlike'⟩ := hr pid p hp
    have hfd : s'.fd = s.fd := hlike.fd
    have hfd' : p'.fd = p.fd := hlike'.fd
    rw [← hfd, ← hfd']
    exact .pair hs' hp' (hlike.peer.trans hpeer)

/-! ## Events elsewhere -/

/-- The event is not one of the sessions `ids`. It may be one of the control pipe, which brings new
sessions but touches none of the old ones. -/
def Elsewhere (e : Event) (ids : List SessionId) : Prop :=
  e.token = .control ∨ Session.ofToken e.token ∉ ids

theorem Takes.sameOn (ht : Takes e w w') (h : w.Sound) (hsup : w.Supplied unsent given)
    (hm : w.Manned ids fds) (hout : Elsewhere e ids) : SameOn ids fds w w' := by
  cases ht with
  | control _ hok =>
    obtain ⟨h', -, hadm, -⟩ := (leads_onControl h hsup).of_ok hok
    exact hadm.sameOn h h' hm
  | session hsession hok =>
    obtain ⟨ids', fds', hc⟩ := h.exists_crew (h.served_there hok)
    obtain ⟨hids, hfds⟩ := hm.crew_outside h hc (hout.resolve_left hsession)
    exact (h.confined hc hok).within.sameOn hids hfds

/-- An event elsewhere goes the same way whatever the sessions have come to: it is confined to a
crew that is outside, or it brings clients that both workers put into the same slots. -/
theorem Takes.follows (ht : Takes e w w') (h : w.Sound) (hsup : w.Supplied unsent given)
    (hm : w.Manned ids fds) (hout : Elsewhere e ids) (hv : v.Sound) (hwithin : Within ids fds w v) :
    ∃ v', Takes e v v' ∧ Within ids fds w' v' := by
  cases ht with
  | control hcontrol hok =>
    obtain ⟨v', hok', hwithin'⟩ := (h.follows_onControl hsup hm hv hwithin).of_ok hok
    exact ⟨v', .control hcontrol hok', hwithin'⟩
  | session hsession hok =>
    obtain ⟨ids', fds', hc⟩ := h.exists_crew (h.served_there hok)
    obtain ⟨hids, hfds⟩ := hm.crew_outside h hc (hout.resolve_left hsession)
    have hsameOn : SameOn ids' fds' w v :=
      hwithin.sameOn (fun x hx hmem => hids x hmem hx) fun fd hfd hmem => hfds fd hmem hfd
    have hconfined := h.confined hc hok
    obtain ⟨v', hok', hsameOn'⟩ := hconfined.alike v hv hsameOn
    have hconfined' := hv.confined (hc.sameOn hsameOn) hok'
    exact ⟨v', .session hsession hok', hwithin.carry hconfined.within hconfined'.within hsameOn'⟩

/-! ## Two events -/

/-- An event that is confined to its crew, with one elsewhere behind it. The other one is moved in
front first, in which case it finds the crew as it was; the crew then does as it did. -/
theorem Takes.swap_after (h : w.Sound) (hsup : w.Supplied unsent given)
    (hsession : e.token ≠ .control)
    (he : onSessionReady e w = .ok false w₁) (hf : Takes f w₁ w₂)
    (hc : Crew w (Session.ofToken e.token) ids fds) (hout : Elsewhere f ids) :
    ∃ v₁ v₂, Takes f w v₁ ∧ Takes e v₁ v₂ ∧ Within [] [] w₂ v₂ := by
  have hm := hc.manned h
  have hconfined := h.confined hc he
  obtain ⟨h₁, hsup₁, hlike⟩ := Takes.alike (.session hsession he) h hsup
  have hm₁ := (hc.retained hlike).manned h₁
  -- `f` does in `w` what it does behind `e`
  obtain ⟨v₁, hf', hwithin⟩ := hf.follows h₁ hsup₁ hm₁ hout h hconfined.within.symm
  obtain ⟨hv₁, -, -⟩ := hf'.alike h hsup
  have hkept := hf'.sameOn h hsup hm hout
  -- and leaves the crew of `e` as it finds it, so that `e` does what it did
  obtain ⟨v₂, he', hsame⟩ := hconfined.alike v₁ hv₁ hkept
  have hconfined' := hv₁.confined (hc.sameOn hkept) he'
  refine ⟨v₁, v₂, hf', .session hsession he', (hwithin.trans hconfined'.within).close ?_⟩
  exact (hf.sameOn h₁ hsup₁ hm₁ hout).symm.trans hsame

/-- An event that is confined to its crew, with one elsewhere in front of it. -/
theorem Takes.swap_before (h : w.Sound) (hsup : w.Supplied unsent given) (he : Takes e w w₁)
    (hsession : f.token ≠ .control) (hf : onSessionReady f w₁ = .ok false w₂)
    (hc : Crew w (Session.ofToken f.token) ids fds) (hout : Elsewhere e ids) :
    ∃ v₁ v₂, Takes f w v₁ ∧ Takes e v₁ v₂ ∧ Within [] [] w₂ v₂ := by
  have hm := hc.manned h
  obtain ⟨h₁, -, -⟩ := he.alike h hsup
  have hkept := he.sameOn h hsup hm hout
  have hconfined := h₁.confined (hc.sameOn hkept) hf
  -- `e` leaves the crew of `f` as it finds it, so that `f` does the same without it
  obtain ⟨v₁, hf', hsame⟩ := hconfined.alike w h hkept.symm
  have hconfined' := h.confined hc hf'
  obtain ⟨hv₁, hsup₁, hlike⟩ := Takes.alike (.session hsession hf') h hsup
  -- and `e` does behind `f` what it does in `w`
  obtain ⟨v₂, he', hwithin⟩ := he.follows h hsup hm hout hv₁ hconfined'.within
  refine ⟨v₁, v₂, .session hsession hf', he', (hconfined.within.symm.trans hwithin).close ?_⟩
  exact hsame.trans (he'.sameOn hv₁ hsup₁ ((hc.retained hlike).manned hv₁) hout)

theorem Sound.served_both {s p : Session} (h : w.Sound) (he : onSessionReady e w = .ok false w₁)
    (hf : onSessionReady f w₁ = .ok false w₂) (hs : w.session? (Session.ofToken e.token) = some s)
    (hp : w.session? (Session.ofToken f.token) = some p)
    (hpeer : s.peer = some (Session.ofToken f.token)) :
    ∃ a₁ b₁ a₂ b₂, Half.onEvent w.settings.maxOpsPerFd e (w.half s) (w.half p) = ⟨none, a₁, b₁⟩
      ∧ Half.onEvent w.settings.maxOpsPerFd f b₁ a₁ = ⟨none, b₂, a₂⟩
      ∧ Attends w w₂ (Session.ofToken e.token) (Session.ofToken f.token) a₂ b₂ := by
  have h₁ := h.handled (h.handled_of_ok he)
  obtain ⟨a₁, b₁, hr, hatt⟩ := h.served_pair he hs hp hpeer
  obtain ⟨hback, -, hk⟩ := h.event_keeps hs hp hpeer hr.symm
  have hpeer₁ : b₁.session.peer = some (Session.ofToken e.token) := hk.peer.peer.trans hback
  obtain ⟨b₂, a₂, hr₂, hatt₂⟩ := h₁.served_pair hf hatt.peer.session hatt.self.session hpeer₁
  obtain ⟨-, -, hk₂⟩ := h₁.event_keeps hatt.peer.session hatt.self.session hpeer₁ hr₂.symm
  rw [hatt.within.settings, hatt.self.half_eq, hatt.peer.half_eq] at hr₂
  exact ⟨a₁, b₁, a₂, b₂, hr, hr₂, hatt.trans hatt₂.symm hk₂.peer.fd hk₂.self.fd⟩

/-- If neither of the two dooms a half, that is what is made of the sessions. It is the converse of
`Sound.served_both`, with the events the other way round. -/
theorem Sound.serve_both {s p : Session} {a₁ b₁ a₂ b₂ : Half} (h : w.Sound)
    (hs : w.session? (Session.ofToken e.token) = some s)
    (hp : w.session? (Session.ofToken f.token) = some p)
    (hpeer : s.peer = some (Session.ofToken f.token))
    (hr : Half.onEvent w.settings.maxOpsPerFd e (w.half s) (w.half p) = ⟨none, a₁, b₁⟩)
    (hr₂ : Half.onEvent w.settings.maxOpsPerFd f b₁ a₁ = ⟨none, b₂, a₂⟩) :
    ∃ w₁ w₂, onSessionReady e w = .ok false w₁ ∧ onSessionReady f w₁ = .ok false w₂
      ∧ Attends w w₂ (Session.ofToken e.token) (Session.ofToken f.token) a₂ b₂ := by
  obtain ⟨w₁, he, hatt⟩ : ∃ w₁, onSessionReady e w = .ok false w₁
      ∧ Attends w w₁ (Session.ofToken e.token) (Session.ofToken f.token) a₁ b₁ :=
    h.onSessionReady_pair hs hp hpeer hr.symm rfl
  have h₁ := h.handled (h.handled_of_ok he)
  obtain ⟨hback, -, hk⟩ := h.event_keeps hs hp hpeer hr.symm
  have hpeer₁ : b₁.session.peer = some (Session.ofToken e.token) := hk.peer.peer.trans hback
  rw [← hatt.within.settings, ← hatt.self.half_eq, ← hatt.peer.half_eq] at hr₂
  obtain ⟨w₂, hf, hatt₂⟩ :=
    h₁.onSessionReady_pair hatt.peer.session hatt.self.session hpeer₁ hr₂.symm rfl
  obtain ⟨-, -, hk₂⟩ := h₁.event_keeps hatt.peer.session hatt.self.session hpeer₁ hr₂.symm
  exact ⟨w₁, w₂, he, hf, hatt.trans hatt₂.symm hk₂.peer.fd hk₂.self.fd⟩

/-- Two events of one pair. They are not confined to different crews, and it is `Half.onEvent_comm`
that makes them change places. -/
theorem Takes.swap_pair {s p : Session} (h : w.Sound) (hesession : e.token ≠ .control)
    (hfsession : f.token ≠ .control) (he : onSessionReady e w = .ok false w₁)
    (hf : onSessionReady f w₁ = .ok false w₂) (hs : w.session? (Session.ofToken e.token) = some s)
    (hp : w.session? (Session.ofToken f.token) = some p)
    (hpeer : s.peer = some (Session.ofToken f.token))
    (hef : e.readable = true → f.writable = false) (hfe : f.readable = true → e.writable = false) :
    ∃ v₁ v₂, Takes f w v₁ ∧ Takes e v₁ v₂ ∧ Within [] [] w₂ v₂ := by
  obtain ⟨hback, -, -⟩ := h.linked_peer hs hp hpeer
  obtain ⟨a₁, b₁, a₂, b₂, hr, hr₂, hatt⟩ := h.served_both he hf hs hp hpeer
  obtain ⟨a', b', hr', hr₂'⟩ := Half.onEvent_comm hef hfe hr hr₂
  obtain ⟨v₁, v₂, hf', he', hatt'⟩ := h.serve_both hp hs hback hr' hr₂'
  refine ⟨v₁, v₂, .session hfsession hf', .session hesession he', ?_⟩
  -- nothing but the pair has changed either way, and of the pair the same was made
  have hwithin := hatt.within.symm.trans hatt'.symm.within
  exact hwithin.close ((hatt.self.sameOn hatt'.peer hwithin.settings).cons
    (hatt.peer.sameOn hatt'.self hwithin.settings))

/-! ## Batches -/

/-- The events are as a poller reports them: one at most of each, of the control pipe and of
sessions that are there, and none of a session that can be read if there is one of its peer that can
be written. -/
structure Orderly (w : Worker) (events : List Event) : Prop where
  known : w.Known events
  nodup : (events.map (·.token)).Nodup
  exclusive : ∀ e ∈ events, ∀ f ∈ events, ∀ s, w.session? (Session.ofToken e.token) = some s →
    s.peer = some (Session.ofToken f.token) → e.readable = true → f.writable = false

theorem Orderly.perm (ho : w.Orderly events) (hperm : events.Perm events') : w.Orderly events' where
  known e he := ho.known e (hperm.mem_iff.mpr he)
  nodup := (hperm.map (·.token)).nodup_iff.mp ho.nodup
  exclusive e he f hf := ho.exclusive e (hperm.mem_iff.mpr he) f (hperm.mem_iff.mpr hf)

theorem Orderly.tail (ho : w.Orderly (e :: events)) (h' : w'.Sound) (hr : Retains Half.Alike w w') :
    w'.Orderly events where
  known := ho.known.tail fun _ => hr.stays
  nodup := (List.nodup_cons.mp ho.nodup).2
  exclusive x hx f hf s' hs' hpeer := by
    rcases ho.known x (List.mem_cons_of_mem e hx) with hcontrol | hthere
    · rw [hcontrol] at hs'
      exact absurd rfl (h'.stocked.token_ne_control hs')
    · obtain ⟨s, hs⟩ := Option.ne_none_iff_exists'.mp hthere
      obtain ⟨s'', hs'', hlike⟩ := hr _ s hs
      obtain rfl := Option.some.inj (hs''.symm.trans hs')
      exact ho.exclusive x (List.mem_cons_of_mem e hx) f (List.mem_cons_of_mem e hf) s hs
        (hlike.peer.symm.trans hpeer)

theorem Sound.half_reported_of_wait {s : Session} {ready : ReadyList}
    {poller : Poller} (h : w.Sound)
    (hwait : w.poller.wait w.view = .ok (some ready, poller)) (he : e ∈ ready.events)
    (hs : w.session? (Session.ofToken e.token) = some s) : (w.half s).Reported e := by
  rcases h.reported_of_wait hwait he with ⟨hcontrol, -⟩ | ⟨s', hs', hreport⟩
  · rw [hcontrol] at hs
    exact absurd rfl (h.stocked.token_ne_control hs)
  · obtain rfl := Option.some.inj (hs'.symm.trans hs)
    exact hreport

/-- What a wait finds is orderly: a session is asked for bytes only while its peer is connected and
has none to write. -/
theorem Sound.orderly_of_wait {ready : ReadyList} {poller : Poller} (h : w.Sound)
    (hwait : w.poller.wait w.view = .ok (some ready, poller)) :
    ({ w with poller } : Worker).Orderly ready.events where
  known := h.known_of_wait hwait
  nodup := h.nodup_tokens hwait
  exclusive e he f hf s hs hpeer hr := by
    obtain ⟨p, hp, -, hl, -⟩ := h.linked hs List.not_mem_nil hpeer
    obtain ⟨hreadable, -, -⟩ := (h.half_reported_of_wait hwait he hs).fields
    obtain ⟨-, hwritable, -⟩ := (h.half_reported_of_wait hwait hf hp).fields
    rw [hreadable, Bool.and_eq_true] at hr
    obtain ⟨-, hconnected, hunblocked⟩ := hl.paired.there.reading_iff.mp hr.2
    rw [hwritable, hconnected, hunblocked, Bool.or_false, Bool.and_false]

/-- Two events one after the other, the other way round: of one pair, of two crews, or one of them
of the control pipe. -/
theorem Takes.swap (he : Takes e w w₁) (hf : Takes f w₁ w₂) (h : w.Sound)
    (hsup : w.Supplied unsent given)
    (ho : w.Orderly (e :: f :: rest)) :
    ∃ v₁ v₂, Takes f w v₁ ∧ Takes e v₁ v₂ ∧ Within [] [] w₂ v₂ := by
  have hne : e.token ≠ f.token := fun heq => (List.nodup_cons.mp ho.nodup).1 (by simp [heq])
  have hid : Session.ofToken f.token ≠ Session.ofToken e.token :=
    fun heq => hne (congrArg Token.mk heq.symm)
  have hthere (hsession : f.token ≠ .control) : w.session? (Session.ofToken f.token) ≠ none :=
    (ho.known f (by simp)).resolve_left hsession
  cases he with
  | control hcontrol hok =>
    cases hf with
    | control hcontrol' => exact absurd (hcontrol.trans hcontrol'.symm) hne
    | session hsession hok' =>
      obtain ⟨ids, fds, hc⟩ := h.exists_crew (hthere hsession)
      exact Takes.swap_before h hsup (.control hcontrol hok) hsession hok' hc (.inl hcontrol)
  | session hsession hok =>
    obtain ⟨ids, fds, hc⟩ := h.exists_crew (h.served_there hok)
    by_cases hout : Elsewhere f ids
    · exact Takes.swap_after h hsup hsession hok hf hc hout
    obtain ⟨hsession', hmem⟩ := not_or.mp hout
    rw [not_not] at hmem
    -- `f` is of the crew of `e`, and so of its peer
    cases hc with
    | alone hs hpeer => exact absurd (List.mem_singleton.mp hmem) hid
    | @pair s p pid hs hp hpeer =>
      obtain rfl := (List.mem_pair.mp hmem).resolve_left hid
      obtain ⟨hback, -, -⟩ := h.linked_peer hs hp hpeer
      cases hf with
      | control hcontrol => exact absurd hcontrol hsession'
      | session _ hok' =>
        exact Takes.swap_pair h hsession hsession' hok hok' hs hp hpeer
          (ho.exclusive e (by simp) f (by simp) s hs hpeer)
            (ho.exclusive f (by simp) e (by simp) p hp hback)

theorem Supplied.within (hsup : w.Supplied unsent given) (hwithin : Within [] [] w v) :
    v.Supplied unsent given := by
  refine hsup.keep hwithin.incoming (by rw [hwithin.control]) fun fd _ hl => ⟨?_, ?_⟩
  · rw [hwithin.files fd List.not_mem_nil]
    exact hl.1
  · rintro ⟨id, s, hs, hfd⟩
    exact hl.2 ⟨id, s, (hwithin.sessions id List.not_mem_nil).symm.trans hs, hfd⟩

/-- Events pass in the same way in workers that do not differ. -/
theorem Passes.congr (hp : Passes w events w') (h : w.Sound) (hsup : w.Supplied unsent given)
    (hv : v.Sound)
    (hwithin : Within [] [] w v) : ∃ v', Passes v events v' ∧ Within [] [] w' v' := by
  induction events generalizing w v with
  | nil =>
    cases hp
    exact ⟨v, .nil v, hwithin⟩
  | cons e rest ih =>
    obtain ⟨w₁, ht, hrest⟩ := passes_cons_iff.mp hp
    obtain ⟨h₁, hsup₁, -⟩ := ht.alike h hsup
    obtain ⟨v₁, ht', hwithin₁⟩ :=
      ht.follows h hsup (manned_nil w) (.inr List.not_mem_nil) hv hwithin
    obtain ⟨hv₁, -, -⟩ := ht'.alike hv (hsup.within hwithin)
    obtain ⟨v', hrest', hwithin'⟩ := ih hrest h₁ hsup₁ hv₁ hwithin₁
    exact ⟨v', ht'.passes hrest', hwithin'⟩

/-- A batch that passes passes in any other order, and comes to the same. The induction is on the
permutation, and each of its steps is one swap of neighbours. -/
theorem Passes.perm (hp : Passes w events w') (hperm : events.Perm events') (h : w.Sound)
    (hsup : w.Supplied unsent given) (ho : w.Orderly events) :
    ∃ v', Passes w events' v' ∧ Within [] [] w' v' := by
  induction hperm generalizing w w' with
  | nil => exact ⟨w', hp, .refl _ _ _⟩
  | @cons e events events' _ ih =>
    obtain ⟨w₁, ht, hrest⟩ := passes_cons_iff.mp hp
    obtain ⟨h₁, hsup₁, hlike⟩ := ht.alike h hsup
    obtain ⟨v', hrest', hwithin⟩ := ih hrest h₁ hsup₁ (ho.tail h₁ hlike)
    exact ⟨v', ht.passes hrest', hwithin⟩
  | swap f e rest =>
    obtain ⟨w₁, he, hp₁⟩ := passes_cons_iff.mp hp
    obtain ⟨w₂, hf, hrest⟩ := passes_cons_iff.mp hp₁
    obtain ⟨h₁, hsup₁, -⟩ := he.alike h hsup
    obtain ⟨h₂, hsup₂, -⟩ := hf.alike h₁ hsup₁
    obtain ⟨v₁, v₂, hf', he', hwithin₂⟩ := he.swap hf h hsup ho
    obtain ⟨hv₁, hsupv₁, -⟩ := hf'.alike h hsup
    obtain ⟨hv₂, -, -⟩ := he'.alike hv₁ hsupv₁
    obtain ⟨v', hrest', hwithin⟩ := hrest.congr h₂ hsup₂ hv₂ hwithin₂
    exact ⟨v', hf'.passes (he'.passes hrest'), hwithin⟩
  | trans hperm _ ih ih' =>
    obtain ⟨v₁, hp₁, hwithin₁⟩ := ih hp h hsup ho
    obtain ⟨v', hp', hwithin'⟩ := ih' hp₁ h hsup (ho.perm hperm)
    exact ⟨v', hp', hwithin₁.trans hwithin'⟩

/-- A batch that breaks off destroys a session that was there before. So a batch in which nothing is
destroyed is known from its beginning and its end. -/
theorem BreaksOff.loses {before : List Event} {target : SessionId}
    (hb : BreaksOff w before e target w')
    (h : w.Sound) (hsup : w.Supplied unsent given)
    (hthere : w.session? (Session.ofToken e.token) ≠ none) :
    w.session? target ≠ none ∧ w'.session? target = none := by
  obtain ⟨w₁, w₂, hpasses, -, -, hdoomed, hdestroyed, -⟩ := hb.unfolds h hsup
  refine ⟨?_, hdestroyed.absent⟩
  obtain ⟨s, hs⟩ := Option.ne_none_iff_exists'.mp hthere
  obtain ⟨s₁, hs₁, hwhom⟩ := hdoomed.whom
  obtain ⟨s', hs', hlike⟩ := (hpasses.alike h hsup).2.2 _ s hs
  obtain rfl := Option.some.inj (hs'.symm.trans hs₁)
  rcases hwhom with rfl | hpeer
  · exact hthere
  · obtain ⟨p, hp, -⟩ := h.linked hs List.not_mem_nil (hlike.peer.symm.trans hpeer)
    rw [hp]
    exact Option.some_ne_none p

/-- A batch that leaves all sessions there passes. -/
theorem Known.passes (hknown : w.Known events) (h : w.Sound) (hsup : w.Supplied unsent given)
    (hok : handleBatch events w = .ok ⟨⟩ w')
    (hstays : ∀ id, w.session? id ≠ none → w'.session? id ≠ none) : Passes w events w' := by
  refine (of_handleBatch hok).resolve_right ?_
  rintro ⟨before, e, rest, target, rfl, hbreaks⟩
  have hthere := (hknown e (by simp)).resolve_left hbreaks.session
  obtain ⟨hwas, hgone⟩ := hbreaks.loses h hsup hthere
  exact hstays target hwas hgone

theorem Passes.handleBatch_eq (hp : Passes w events w') : handleBatch events w = .ok ⟨⟩ w' := by
  have happend := hp.handleBatch_append []
  rwa [List.append_nil] at happend

end Sluice.Worker
