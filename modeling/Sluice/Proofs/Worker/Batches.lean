import Sluice.Proofs.Worker.Turns

/-!
# Batches, event by event

A batch is handled in order until an event destroys a session. `Passes w events w'` says that the
events were handled and none destroyed a session, `BreaksOff` that an event behind them did. One of
the two is what handling a batch comes to (`of_handleBatch`), and in the second case the rest of the
batch is not looked at (`BreaksOff.handleBatch_eq`).

Whatever relates the worker before and after each event that destroys nothing relates it before and
after all of them (`Passes.induct`). Above all, every session stays what it is (`Passes.alike`).
-/

namespace Sluice.Worker

variable {w w' w₁ w₂ : Worker} {e : Event} {events before rest : List Event} {target : SessionId}
  {given : List Descriptor} {unsent : List UInt8}

/-! ## What handling a batch comes to -/

/-- All the events are handled, one after the other, and none of them destroys a session. Then the
batch goes on to its end, and each event finds what those before it have left. -/
inductive Passes : Worker → List Event → Worker → Prop
  | nil (w : Worker) : Passes w [] w
  | control {w w₁ w' : Worker} {e : Event} {rest : List Event} (hcontrol : e.token = .control)
      (hok : onControl w = .ok ⟨⟩ w₁) (hrest : Passes w₁ rest w') : Passes w (e :: rest) w'
  | session {w w₁ w' : Worker} {e : Event} {rest : List Event} (hsession : e.token ≠ .control)
      (hok : onSessionReady e w = .ok false w₁) (hrest : Passes w₁ rest w') :
      Passes w (e :: rest) w'

/-- The events `before` are handled, and then the event `e` of a session dooms the session `target`,
which is destroyed. -/
structure BreaksOff (w : Worker) (before : List Event) (e : Event) (target : SessionId)
    (w' : Worker) : Prop where
  session : e.token ≠ .control
  stages : ∃ w₁ w₂, Passes w before w₁ ∧ w₁.session? (Session.ofToken e.token) ≠ none
    ∧ findDoomed (Session.ofToken e.token) e w₁ = .ok (some target) w₂
    ∧ destroy target w₂ = .ok ⟨⟩ w'

theorem Passes.handleBatch_append (h : Passes w before w₁) (rest : List Event) :
    handleBatch (before ++ rest) w = handleBatch rest w₁ := by
  induction h with
  | nil => rfl
  | control hcontrol hok _ ih =>
    rw [List.cons_append, handleBatch, if_pos hcontrol, bind_of_ok hok, ih]
  | session hsession hok _ ih =>
    rw [List.cons_append, handleBatch, if_neg hsession, bind_of_ok hok, if_neg (by simp), ih]

/-- What destroys a session ends the batch, whatever is left of it. The events behind are not even
looked at, so that they may belong to sessions that are gone. -/
theorem BreaksOff.handleBatch_eq (h : BreaksOff w before e target w') (rest : List Event) :
    handleBatch (before ++ e :: rest) w = .ok ⟨⟩ w' := by
  obtain ⟨w₁, w₂, hpasses, hsome, hdoomed, hdestroy⟩ := h.stages
  have hget : (get : Act Worker) w₁ = .ok w₁ w₁ := rfl
  have hready : onSessionReady e w₁ = .ok true w' := by
    obtain ⟨s, hs⟩ := Option.ne_none_iff_exists'.mp hsome
    rw [onSessionReady, bind_of_ok hget, hs, if_neg (by simp)]
    exact (bind_of_ok hdoomed _).trans (bind_of_ok hdestroy _)
  rw [hpasses.handleBatch_append, handleBatch, if_neg h.session, bind_of_ok hready]
  rfl

theorem leads_onSessionReady_stages (e : Event) :
    Leads (onSessionReady e) w (fun stop w' => stop = true →
      w.session? (Session.ofToken e.token) ≠ none ∧ ∃ target w₂,
        findDoomed (Session.ofToken e.token) e w = .ok (some target) w₂
          ∧ destroy target w₂ = .ok ⟨⟩ w') anyhow := by
  unfold onSessionReady
  rw [leads_bind, leads_get]
  dsimp only
  rw [leads_ite]
  refine ⟨fun _ => trivial, fun hsome => ?_⟩
  refine Leads.bind (leads_self _) fun doomed w₂ hdoomed => ?_
  cases doomed with
  | none => exact nofun
  | some target =>
    refine Leads.bind (leads_self _) fun _ w' hdestroy => ?_
    intro _
    exact ⟨by simpa using hsome, target, w₂, hdoomed, hdestroy⟩

theorem leads_handleBatch_stages (events : List Event) :
    Leads (handleBatch events) w (fun _ w' => Passes w events w'
      ∨ ∃ before e rest target, events = before ++ e :: rest ∧ BreaksOff w before e target w')
      anyhow := by
  induction events generalizing w with
  | nil => exact .inl (.nil w)
  | cons e rest ih =>
    rw [handleBatch, leads_ite]
    constructor
    · intro hcontrol
      refine Leads.bind (leads_self _) fun _ w₁ hok => (ih (w := w₁)).imp fun _ w' hrest => ?_
      rcases hrest with hpasses | ⟨before, e', rest', target, rfl, hbreaks⟩
      · exact .inl (.control hcontrol hok hpasses)
      · obtain ⟨w₂, w₃, hpasses, hstages⟩ := hbreaks.stages
        exact .inr ⟨e :: before, e', rest', target, rfl, hbreaks.session, w₂, w₃,
          .control hcontrol hok hpasses, hstages⟩
    · intro hsession
      refine Leads.bind (leads_self _) fun stop w₁ hok => ?_
      rw [leads_ite]
      constructor
      · rintro rfl
        obtain ⟨hsome, target, w₂, hstages⟩ := (leads_onSessionReady_stages e).of_ok hok rfl
        exact .inr ⟨[], e, rest, target, rfl, hsession, w, w₂, .nil w, hsome, hstages⟩
      · intro hgoes
        rw [Bool.not_eq_true] at hgoes
        subst hgoes
        refine (ih (w := w₁)).imp fun _ w' hrest => ?_
        rcases hrest with hpasses | ⟨before, e', rest', target, rfl, hbreaks⟩
        · exact .inl (.session hsession hok hpasses)
        · obtain ⟨w₂, w₃, hpasses, hstages⟩ := hbreaks.stages
          exact .inr ⟨e :: before, e', rest', target, rfl, hbreaks.session, w₂, w₃,
            .session hsession hok hpasses, hstages⟩

/-- A batch that is handled without a stop passes, or breaks off at one of its events. All that is
said of batches is said of these two kinds. -/
theorem of_handleBatch (h : handleBatch events w = .ok ⟨⟩ w') : Passes w events w'
    ∨ ∃ before e rest target, events = before ++ e :: rest ∧ BreaksOff w before e target w' :=
  (leads_handleBatch_stages events).of_ok h

/-! ## What events keep that destroy nothing -/

/-- What each event keeps that destroys nothing, all of them keep. The relation is between the
worker at the beginning and at the end, so that it has to be reflexive and transitive. -/
theorem Passes.induct {R : Worker → Worker → Prop} (hp : Passes w events w') (h : w.Sound)
    (hsup : w.Supplied unsent given) (hrefl : ∀ w, R w w)
    (htrans : ∀ {w w₁ w'}, R w w₁ → R w₁ w' → R w w')
    (hcontrol : ∀ {w w₁ e}, e ∈ events → e.token = .control → w.Sound → w.Supplied unsent given →
      onControl w = .ok ⟨⟩ w₁ → R w w₁)
    (hhandled : ∀ {w w₁ e}, e ∈ events → e.token ≠ .control → w.Sound →
      Handled w e false w₁ → R w w₁) :
    w'.Sound ∧ w'.Supplied unsent given ∧ R w w' := by
  induction hp with
  | nil w => exact ⟨h, hsup, hrefl w⟩
  | @control w w₁ w' e rest htoken hok _ ih =>
    obtain ⟨h₁, hsup₁, -⟩ := (leads_onControl h hsup).of_ok hok
    obtain ⟨h', hsup', hr⟩ := ih h₁ hsup₁ (fun he => hcontrol (List.mem_cons_of_mem e he))
      fun he => hhandled (List.mem_cons_of_mem e he)
    exact ⟨h', hsup', htrans (hcontrol (List.mem_cons_self ..) htoken h hsup hok) hr⟩
  | @session w w₁ w' e rest htoken hok _ ih =>
    have hh := h.handled_of_ok hok
    obtain ⟨h', hsup', hr⟩ := ih (h.handled hh) (hsup.spared (Spares.of_handled h hh))
      (fun he => hcontrol (List.mem_cons_of_mem e he)) fun he =>
        hhandled (List.mem_cons_of_mem e he)
    exact ⟨h', hsup', htrans (hhandled (List.mem_cons_self ..) htoken h hh) hr⟩

theorem Passes.alike (hp : Passes w events w') (h : w.Sound) (hsup : w.Supplied unsent given) :
    w'.Sound ∧ w'.Supplied unsent given ∧ Retains Half.Alike w w' := by
  refine hp.induct h hsup (fun w x t ht => ⟨t, ht, .refl _⟩)
    (fun hr hr' => hr.trans (fun _ _ _ => Half.Alike.trans) hr')
    (fun _ _ h hsup hok => ?_) fun _ _ h hh => hh.alike h
  obtain ⟨-, -, hadm, -⟩ := (leads_onControl h hsup).of_ok hok
  exact hadm.retains h Half.Alike.refl

/-! ## Where a batch breaks off -/

/-- Up to the event that breaks the batch off all sessions stay what they are; that event dooms a
session, and destroying it is all that is left to do. -/
theorem BreaksOff.unfolds (hb : BreaksOff w before e target w') (h : w.Sound)
    (hsup : w.Supplied unsent given) : ∃ w₁ w₂, Passes w before w₁ ∧ w₁.Sound
      ∧ Retains Half.Alike w w₂ ∧ Doomed w₁ e target w₂ ∧ Destroyed w₂ target w'
      ∧ Handled w₁ e true w' := by
  obtain ⟨w₁, w₂, hpasses, hsome, hdoomed, hdestroy⟩ := hb.stages
  obtain ⟨h₁, -, hlike⟩ := hpasses.alike h hsup
  obtain ⟨s, hs⟩ := Option.ne_none_iff_exists'.mp hsome
  have hd : Doomed w₁ e target w₂ := (leads_findDoomed_verdict h₁ hs).of_ok hdoomed
  obtain ⟨hdestroyed, hhandled⟩ := (hd.leads_destroy h₁).of_ok hdestroy
  exact ⟨w₁, w₂, hpasses, h₁, hlike.trans (fun _ _ _ => Half.Alike.trans) (hd.alike h₁), hd,
    hdestroyed, hhandled⟩

end Sluice.Worker
