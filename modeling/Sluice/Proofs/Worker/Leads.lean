import Sluice.Worker.Turn

/-!
# Where an action leads

`Leads x w Q E` says how the action `x` ends when it starts in the worker `w`: with a result and a
worker that meet `Q`, or with a stop that `E` allows. With `E` nowhere true it says that `x` does
not stop, with `E` everywhere true it only speaks of runs that return.

One rule for each way to put actions together (`leads_pure`, `leads_bind`, ...) and one for each
small action of a worker turn a statement about a handler into one about its last state.
-/

namespace Sluice.Worker

variable {α β : Type} {w w' : Worker} {E : Abort → Prop}

/-- Started in `w`, the action returns with `Q` or stops for a reason in `E`. Which stops are
possible is said along with the result, so that none can be forgotten where actions are put
together. -/
def Leads (x : Act α) (w : Worker) (Q : α → Worker → Prop) (E : Abort → Prop) : Prop :=
  match x w with
  | .ok a w' => Q a w'
  | .error e _ => E e

/-- The stops of an action that never stops. -/
def never : Abort → Prop := fun _ => False

/-- The stops of an action of which nothing is said unless it returns. -/
def anyhow : Abort → Prop := fun _ => True

/-! ## Actions put together -/

@[simp] theorem leads_pure (a : α) (Q : α → Worker → Prop) :
    Leads (pure a) w Q E ↔ Q a w := Iff.rfl

@[simp] theorem leads_bind (x : Act α) (f : α → Act β) (Q : β → Worker → Prop) :
    Leads (x >>= f) w Q E ↔ Leads x w (fun a w' => Leads (f a) w' Q E) E := by
  show (match EStateM.bind x f w with | .ok a w' => Q a w' | .error e _ => E e) ↔ _
  unfold EStateM.bind Leads
  cases x w <;> rfl

@[simp] theorem leads_get (Q : Worker → Worker → Prop) :
    Leads get w Q E ↔ Q w w := Iff.rfl

@[simp] theorem leads_set (Q : PUnit → Worker → Prop) :
    Leads (set w') w Q E ↔ Q ⟨⟩ w' := Iff.rfl

@[simp] theorem leads_modify (f : Worker → Worker) (Q : PUnit → Worker → Prop) :
    Leads (modify f) w Q E ↔ Q ⟨⟩ (f w) := Iff.rfl

@[simp] theorem leads_throw (e : Abort) (Q : α → Worker → Prop) :
    Leads (throw e) w Q E ↔ E e := Iff.rfl

@[simp] theorem leads_ite {c : Prop} [Decidable c] (x y : Act α) (Q : α → Worker → Prop) :
    Leads (if c then x else y) w Q E ↔ (c → Leads x w Q E) ∧ (¬c → Leads y w Q E) := by
  by_cases h : c <;> simp [h]

theorem Leads.mono {x : Act α} {Q Q' : α → Worker → Prop} {E' : Abort → Prop}
    (h : Leads x w Q E) (hQ : ∀ a w', Q a w' → Q' a w') (hE : ∀ e, E e → E' e) :
    Leads x w Q' E' := by
  unfold Leads at h ⊢
  cases hx : x w with
  | ok a w' => rw [hx] at h; exact hQ a w' h
  | error e w' => rw [hx] at h; exact hE e h

theorem Leads.imp {x : Act α} {Q Q' : α → Worker → Prop} (h : Leads x w Q E)
    (hQ : ∀ a w', Q a w' → Q' a w') : Leads x w Q' E :=
  h.mono hQ fun _ he => he

theorem Leads.of_never {x : Act α} {Q : α → Worker → Prop} (h : Leads x w Q never) :
    Leads x w Q E :=
  h.mono (fun _ _ hq => hq) fun _ he => he.elim

theorem leads_self (x : Act α) : Leads x w (fun a w' => x w = .ok a w') anyhow := by
  unfold Leads
  cases x w <;> trivial

/-- The rule for a sequence whose first action is known by what it leads to. Nothing of the first
action but `P` is left for the second one. -/
theorem Leads.bind {x : Act α} {f : α → Act β} {P : α → Worker → Prop} {Q : β → Worker → Prop}
    (hx : Leads x w P E) (hf : ∀ a w', P a w' → Leads (f a) w' Q E) :
    Leads (x >>= f) w Q E :=
  (leads_bind x f Q).mpr (hx.imp hf)

theorem Leads.of_ok {x : Act α} {Q : α → Worker → Prop} {a : α} (h : Leads x w Q E)
    (hx : x w = .ok a w') : Q a w' := by
  unfold Leads at h
  rwa [hx] at h

theorem Leads.exists_ok {x : Act α} {Q : α → Worker → Prop} (h : Leads x w Q never) :
    ∃ a w', x w = .ok a w' ∧ Q a w' := by
  unfold Leads at h
  cases hx : x w with
  | ok a w' =>
    rw [hx] at h
    exact ⟨a, w', rfl, h⟩
  | error e w' =>
    rw [hx] at h
    exact h.elim

theorem bind_of_ok {x : Act α} {a : α} (hx : x w = .ok a w') (f : α → Act β) :
    (x >>= f) w = f a w' := by
  show EStateM.bind x f w = f a w'
  rw [EStateM.bind, hx]

theorem leads_of_ok {x : Act α} {a : α} (hx : x w = .ok a w') (Q : α → Worker → Prop) :
    Leads x w Q E ↔ Q a w' := by
  unfold Leads
  rw [hx]

/-! ## Small actions -/

section

variable (Q : PUnit → Worker → Prop)

@[simp] theorem leads_fatal (cause : FatalCause) (Q : α → Worker → Prop) :
    Leads (fatal cause) w Q E ↔ E (.fatal cause) := Iff.rfl

@[simp] theorem leads_panic (cause : PanicCause) (Q : α → Worker → Prop) :
    Leads (panic cause) w Q E ↔ E (.panic cause) := Iff.rfl

@[simp] theorem leads_say (level : Level) (text : String) :
    Leads (say level text) w Q E ↔ Q ⟨⟩ { w with log := ⟨level, text⟩ :: w.log } := Iff.rfl

@[simp] theorem leads_modifyHost (f : Host → Host) :
    Leads (modifyHost f) w Q E ↔ Q ⟨⟩ { w with host := f w.host } := Iff.rfl

@[simp] theorem leads_modifySession (id : SessionId) (f : Session → Session) :
    Leads (modifySession id f) w Q E ↔ Q ⟨⟩ { w with sessions := w.sessions.modify id f } :=
  Iff.rfl

theorem session_ok {id : SessionId} {s : Session} (h : w.session? id = some s) :
    session id w = .ok s w := by
  have hget : (get : Act Worker) w = .ok w w := rfl
  refine (bind_of_ok hget _).trans ?_
  rw [h]
  rfl

theorem registered_ok {change : Worker → Except PollError Poller} {p : Poller}
    (h : change w = .ok p) : registered change w = .ok ⟨⟩ { w with poller := p } := by
  have hget : (get : Act Worker) w = .ok w w := rfl
  refine (bind_of_ok hget _).trans ?_
  rw [h]
  rfl

theorem leads_session {id : SessionId} {s : Session} (h : w.session? id = some s)
    (Q : Session → Worker → Prop) : Leads (session id) w Q E ↔ Q s w :=
  leads_of_ok (session_ok h) Q

theorem leads_registered {change : Worker → Except PollError Poller} {p : Poller}
    (h : change w = .ok p) : Leads (registered change) w Q E ↔ Q ⟨⟩ { w with poller := p } :=
  leads_of_ok (registered_ok h) Q

theorem leads_registered_error {change : Worker → Except PollError Poller} {e : PollError}
    (h : change w = .error e) :
    Leads (registered change) w Q E ↔ E (.fatal (.registration e)) := by
  simp only [registered, leads_bind, leads_get, h, leads_fatal]

/-- Registering goes well or stops; a stop has to be allowed by `E`, whatever the poller says. -/
theorem leads_registered_cases {change : Worker → Except PollError Poller}
    (hok : ∀ p, change w = .ok p → Q ⟨⟩ { w with poller := p })
    (hstop : ∀ e, change w = .error e → E (.fatal (.registration e))) :
    Leads (registered change) w Q E := by
  cases h : change w with
  | ok p => exact (leads_registered Q h).mpr (hok p h)
  | error e => exact (leads_registered_error Q h).mpr (hstop e h)

theorem leads_insertSession (s : Session) (Q : SessionId → Worker → Prop) :
    Leads (insertSession s) w Q E ↔
      Q (w.sessions.insert s).1 { w with sessions := (w.sessions.insert s).2 } := Iff.rfl

end

end Sluice.Worker
