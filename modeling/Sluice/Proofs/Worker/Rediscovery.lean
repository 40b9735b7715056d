import Sluice.Proofs.Pair.Heeds
import Sluice.Proofs.Worker.Batches
import Sluice.Proofs.Worker.Spinning

/-!
# What the next wait finds

A wait finds every report that there is to make (`Sound.mem_of_reported`), and none of two events
under the same token (`Sound.nodup_tokens`). Where a batch breaks off, the events behind are
dropped; but nothing has happened to their sessions in the meantime, except what an event of the
peer does. So the next wait reports them again, and no condition is missing from the reports
(`BreaksOff.rediscovers`).
-/

namespace Sluice.Worker

variable {w w' w₁ : Worker} {x target : SessionId} {s t : Session} {e e' : Event}
  {ready : ReadyList}
  {poller : Poller} {events before rest : List Event} {given : List Descriptor}
  {unsent : List UInt8}

/-! ## What a wait finds -/

/-- A report that there is to make is found: a wait looks at all that is registered, and there is
room for every report. -/
theorem Sound.mem_of_reported (h : w.Sound)
    (hwait : w.poller.wait w.view = .ok (some ready, poller))
    (hreport : w.Reported e) : e ∈ ready.events := by
  rw [(Poller.wait_found h.enrolled.poller hwait).2 fun m => h.admits, List.mem_filterMap]
  rcases hreport with ⟨-, hreport⟩ | ⟨s, hs, hreport⟩
  · refine ⟨_, h.mem_registrations.mpr (Or.inl rfl), ?_⟩
    have hview : w.view.status w.control.readFd = .live w.control.conditions := if_pos rfl
    rw [Registration.report?, hview]
    exact hreport
  · refine ⟨_, h.mem_registrations.mpr (Or.inr ⟨_, s, hs, rfl⟩), ?_⟩
    rw [Registration.report?, h.scanned_status hs]
    exact hreport

theorem Sound.fd_of_token {m m' : Registration} (h : w.Sound) (hm : m ∈ w.poller.registrations)
    (hm' : m' ∈ w.poller.registrations) (htoken : m.token = m'.token) : m.fd = m'.fd := by
  rcases h.mem_registrations.mp hm with rfl | ⟨id, s, hs, rfl⟩
  · rcases h.mem_registrations.mp hm' with rfl | ⟨id', s', hs', rfl⟩
    · rfl
    · exact absurd htoken.symm (h.stocked.token_ne_control hs')
  · rcases h.mem_registrations.mp hm' with rfl | ⟨id', s', hs', rfl⟩
    · exact absurd htoken (h.stocked.token_ne_control hs)
    · obtain rfl : id = id' := congrArg Session.ofToken htoken
      rw [Option.some.inj (hs.symm.trans hs')]

/-- No two of the events that a wait finds have the same token. -/
theorem Sound.nodup_tokens (h : w.Sound) (hwait : w.poller.wait w.view = .ok (some ready, poller)) :
    (ready.events.map (·.token)).Nodup := by
  rw [(Poller.wait_found h.enrolled.poller hwait).2 fun m => h.admits, List.Nodup,
    List.pairwise_map]
  have hfds := Poller.nodup_registrations h.enrolled.poller
  rw [List.Nodup, List.pairwise_map] at hfds
  have htokens := hfds.imp_of_mem fun hm hm' hne htoken => hne (h.fd_of_token hm hm' htoken)
  refine htokens.filterMap _ fun m m' hne e he e' he' htoken => hne ?_
  rw [← Conditions.token_of_event? he, ← Conditions.token_of_event? he', htoken]

/-! ## What events leave of a session -/

/-- Session `x` is there after as before, with a half that is as ready and asks for no less. Then a
report of it that was not dealt with is not lost. -/
def Heeds (x : SessionId) (w w' : Worker) : Prop :=
  ∀ t, w.session? x = some t → ∃ t', w'.session? x = some t' ∧ (w.half t).Heeds (w'.half t')

theorem Heeds.trans (h : Heeds x w w₁) (h' : Heeds x w₁ w') : Heeds x w w' := by
  intro t ht
  obtain ⟨t₁, ht₁, hheeds⟩ := h t ht
  obtain ⟨t', ht', hheeds'⟩ := h' t₁ ht₁
  exact ⟨t', ht', hheeds.trans hheeds'⟩

theorem Heeds.reported (h : Heeds (Session.ofToken e.token) w w')
    (hs : w.session? (Session.ofToken e.token) = some s) (hreport : (w.half s).Reported e) :
    ∃ e', e'.Covers e ∧ w'.Reported e' := by
  obtain ⟨s', hs', hheeds⟩ := h s hs
  obtain ⟨e', hcovers, hreport'⟩ := hheeds.reported hreport
  exact ⟨e', hcovers, Or.inr ⟨s', by rw [hcovers.token, hs'], hreport'⟩⟩

theorem Handled.heeds (hh : Handled w e false w') (h : w.Sound) (hx : Session.ofToken e.token ≠ x) :
    Heeds x w w' := by
  intro t ht
  cases hh with
  | alone hs hnone _ hd =>
    exact Retains.of_same Half.Heeds.refl (h.drained_elsewhere hs hnone hd ht hx)
  | @pair s p pid r _ hs hp hlink hr _ ha =>
    obtain ⟨-, -, hk⟩ := h.event_keeps hs hp hlink hr
    by_cases hpid : pid = x
    · subst hpid
      obtain rfl := Option.some.inj (hp.symm.trans ht)
      refine ⟨_, ha.peer.session, ?_⟩
      rw [ha.peer.half_eq, hr]
      exact Half.heeds_onEvent _ e _ _
    · exact Retains.of_same Half.Heeds.refl (h.attended_elsewhere hs hp hk ha ht hx hpid)

/-- Events of other sessions, and of the control pipe, that destroy nothing. The peer of `x` is one
of those others; what it does to `x` is to write to it, and to let it read. -/
theorem Passes.heeds (hp : Passes w events w') (h : w.Sound) (hsup : w.Supplied unsent given)
    (hx : ∀ e ∈ events, e.token ≠ Session.token x) : Heeds x w w' := by
  refine (hp.induct (R := Heeds x) h hsup (fun w t ht => ⟨t, ht, .refl _⟩) Heeds.trans
    (fun _ _ h hsup hok => ?_) fun he _ h hh => hh.heeds h fun hid => hx _ he ?_).2.2
  · obtain ⟨-, -, hadm, -⟩ := (leads_onControl h hsup).of_ok hok
    exact hadm.retains h Half.Heeds.refl x
  · rw [← hid]
    rfl

theorem Passes.control_eq (hp : Passes w events w') (h : w.Sound) (hsup : w.Supplied unsent given)
    (hsessions : ∀ e ∈ events, e.token ≠ .control) : w'.control = w.control :=
  (hp.induct (R := fun w w' => w'.control = w.control) h hsup (fun _ => rfl)
    (fun hr hr' => hr'.trans hr) (fun he hcontrol => absurd hcontrol (hsessions _ he))
    fun _ _ h hh => (Spares.of_handled h hh).control).2.2

theorem Passes.lasts (hp : Passes w events w') (h : w.Sound) (hsup : w.Supplied unsent given) :
    Lasts w w' := by
  refine (hp.induct h hsup Lasts.refl Lasts.trans (fun _ _ h hsup hok => ?_)
    fun _ _ h hh => .of_handled h hh).2.2
  obtain ⟨-, -, -, hlasts, -⟩ := (leads_onControl h hsup).of_ok hok
  exact hlasts

/-! ## Where a batch breaks off -/

/-- A session that outlives the destruction of another one, and is not its peer, has nothing to do
with the event that led to it. -/
theorem Doomed.survivor (hd : Doomed w e target w₁) (h : w.Sound)
    (hdestroyed : Destroyed w₁ target w')
    (ht : w.session? x = some t) (hlives : w'.session? x ≠ none) (hpeer : t.peer ≠ some target) :
    t.peer ≠ some (Session.ofToken e.token) := by
  intro hback
  obtain ⟨s, hs, rfl | hlink⟩ := hd.whom
  · exact hpeer hback
  · obtain rfl := Option.some.inj (hlink.symm.trans (h.linked_peer ht hs hback).1)
    exact hlives hdestroyed.absent

theorem BreaksOff.lasts (hb : BreaksOff w before e target w') (h : w.Sound)
    (hsup : w.Supplied unsent given) : w'.Sound ∧ Lasts w w' := by
  obtain ⟨w₁, w₂, hpasses, h₁, -, -, -, hh⟩ := hb.unfolds h hsup
  exact ⟨h₁.handled hh, (hpasses.lasts h hsup).trans (Lasts.of_handled h₁ hh)⟩

theorem BreaksOff.control_eq (hb : BreaksOff w before e target w') (h : w.Sound)
    (hsup : w.Supplied unsent given) (hsessions : ∀ b ∈ before, b.token ≠ .control) :
    w'.control = w.control := by
  obtain ⟨w₁, w₂, hpasses, h₁, -, -, -, hh⟩ := hb.unfolds h hsup
  exact (Spares.of_handled h₁ hh).control.trans (hpasses.control_eq h hsup hsessions)

/-- A session that stays is as heedful as it was, if none of its events came before. That its peer
was not destroyed is needed: a session that is left alone stops reading. -/
theorem BreaksOff.heeds (hb : BreaksOff w before e target w') (h : w.Sound)
    (hsup : w.Supplied unsent given) (hbefore : ∀ b ∈ before, b.token ≠ Session.token x)
    (hlast : e.token ≠ Session.token x) (hs : w.session? x = some s) (hpeer : s.peer ≠ some target)
    (hlives : w'.session? x ≠ none) : Heeds x w w' := by
  obtain ⟨w₁, w₂, hpasses, h₁, -, hdoomed, hdestroyed, hh⟩ := hb.unfolds h hsup
  refine (hpasses.heeds h hsup hbefore).trans fun t ht => Retains.of_same Half.Heeds.refl ?_
  obtain ⟨s₁, hs₁, hlike⟩ := (hpasses.alike h hsup).2.2 x s hs
  obtain rfl := Option.some.inj (hs₁.symm.trans ht)
  have hpeer₁ : s₁.peer ≠ some target := hlike.peer.symm ▸ hpeer
  refine hh.elsewhere h₁ hs₁ (fun hid => hlast ?_)
    (hdoomed.survivor h₁ hdestroyed hs₁ hlives hpeer₁)
  rw [← hid]
  rfl

/-! ## The next wait -/

/-- Waiting succeeds again, as long as the system's allowance is what it was. The control pipe is
registered in any case, so that there is something to wait for. -/
theorem Lasts.waits (hl : Lasts w w') (h' : w'.Sound)
    (hallowed : w.poller.backend = .poll → w.host.exhausted = false) :
    ∃ ready poller, w'.poller.wait w'.view = .ok (some ready, poller) := by
  have hallowed' : w'.poller.backend = .poll → w'.view.exhausted = false := fun hscan =>
    hl.exhausted.trans (hallowed (hl.backend.symm.trans hscan))
  obtain ⟨found, poller, hwait⟩ := w'.poller.wait_succeeds hallowed'
  obtain ⟨ready, rfl⟩ := Option.ne_none_iff_exists'.mp (h'.wait_ne_none hwait)
  exact ⟨ready, poller, hwait⟩

/-- In a batch that a wait has found, in any order, the tokens of other events are other tokens. -/
theorem Sound.tokens_ne (h : w.Sound) (hwait : w.poller.wait w.view = .ok (some ready, poller))
    (hbatch : (before ++ e :: rest).Perm ready.events) (he' : e' ∈ rest) :
    e.token ≠ e'.token ∧ ∀ b ∈ before, b.token ≠ e'.token := by
  have htokens := (hbatch.map (·.token)).nodup_iff.mpr (h.nodup_tokens hwait)
  rw [List.map_append, List.map_cons, List.nodup_append, List.nodup_cons] at htokens
  obtain ⟨-, ⟨hlater, -⟩, hearlier⟩ := htokens
  have hmem : e'.token ∈ rest.map (·.token) := List.mem_map_of_mem he'
  exact ⟨fun heq => hlater (heq ▸ hmem), fun b hb =>
    hearlier _ (List.mem_map_of_mem hb) _ (List.mem_cons_of_mem _ hmem)⟩

/-- When a batch breaks off, the next wait reports each event of the rest again: one of the control
pipe as it is, one of a session that stays, and whose peer was not destroyed, with no condition
missing. -/
theorem BreaksOff.rediscovers (hb : BreaksOff { w with poller } before e target w') (h : w.Sound)
    (hsup : w.Supplied unsent given) (hwait : w.poller.wait w.view = .ok (some ready, poller))
    (hbatch : (before ++ e :: rest).Perm ready.events) :
    ∃ ready' poller', w'.poller.wait w'.view = .ok (some ready', poller') ∧ ∀ e' ∈ rest,
      e'.token = .control ∧ e' ∈ ready'.events
      ∨ ∃ s, w.session? (Session.ofToken e'.token) = some s
        ∧ (w'.session? (Session.ofToken e'.token) ≠ none → s.peer ≠ some target →
          ∃ e'' ∈ ready'.events, e''.Covers e') := by
  have hfound := h.waited hwait
  have hsup' : ({ w with poller } : Worker).Supplied unsent given := hsup.waited rfl rfl rfl rfl
  obtain ⟨h', hlasts⟩ := hb.lasts hfound hsup'
  have hbackend := (Poller.wait_ok h.enrolled.poller hwait).2.1
  obtain ⟨ready', poller', hwait'⟩ := hlasts.waits h' fun hscan =>
    Poller.exhausted_of_wait hwait (hbackend.symm.trans hscan)
  refine ⟨ready', poller', hwait', fun e' he' => ?_⟩
  obtain ⟨hlast, hbefore⟩ := h.tokens_ne hwait hbatch he'
  have hfound' : e' ∈ ready.events := hbatch.mem_iff.mp (by simp [he'])
  rcases h.reported_of_wait hwait hfound' with ⟨hcontrol, hreport⟩ | ⟨s, hs, hreport⟩
  · refine Or.inl ⟨hcontrol, h'.mem_of_reported hwait' (Or.inl ⟨hcontrol, ?_⟩)⟩
    rw [hb.control_eq hfound hsup' (hcontrol ▸ hbefore)]
    exact hreport
  · refine Or.inr ⟨s, hs, fun hlives hpeer => ?_⟩
    have hheeds := hb.heeds hfound hsup' hbefore hlast hs hpeer hlives
    obtain ⟨e'', hcovers, hreport'⟩ := hheeds.reported hs hreport
    exact ⟨e'', h'.mem_of_reported hwait' hreport', hcovers⟩

end Sluice.Worker
