import Sluice.Proofs.Pair.Linked
import Sluice.Proofs.Worker.Frame

/-!
# The handlers of a worker

The handlers of a session's event do in the worker what the handlers of halves do to the two halves
that it holds, and nothing else (`leads_findDoomed`). None of them stops: the sessions they look up
are there, and the poller knows the descriptors that they update. For a session without a peer there
is `leads_findDoomed_alone`.
-/

namespace Sluice.Worker

variable {w w₀ w₁ : Worker} {id pid : SessionId} {a b : Half} {i : Interest} {r : Outcome}

/-! ## Actions on one half -/

theorem takeError_ok (h : w.Holds id a i) (hs : w.poller.Sound) :
    ∃ w', takeError a.session.fd w = .ok a.takeError.1 w' ∧ Tends w w' id a.takeError.2 i := by
  refine ⟨_, ?_, (h.tends hs).putFile a.file.takeError_reads.used⟩
  rw [Half.takeError, ← h.file]
  rfl

theorem flushSession_ok (h : w.Holds id a i) (hs : w.poller.Sound) (staging : Staging) :
    ∃ w', flushSession id { a.session with staging } w
        = .ok (Half.flush { a with session := { a.session with staging } }).1 w'
      ∧ Tends w w' id (Half.flush { a with session := { a.session with staging } }).2 i := by
  obtain ⟨data, hw, -, -⟩ := staging.flush_writes a.file
  refine ⟨_, ?_, ((h.tends hs).putFile hw.used).modify
    (f := fun s => { s with staging := (staging.flush a.file).2.1 }) rfl rfl⟩
  rw [Half.flush, ← h.file]
  rfl

theorem updateRegistration_ok (h : w.Holds id a i) (hs : w.poller.Sound) :
    ∃ w', updateRegistration id w = .ok ⟨⟩ w' ∧ Tends w w' id a a.session.interest := by
  obtain ⟨p, hp, ht⟩ := (h.tends hs).update
  refine ⟨_, ?_, ht⟩
  rw [updateRegistration, bind_of_ok (session_ok h.session)]
  exact registered_ok hp

/-- Changing flags and having the poller watch for what they ask. The two are one step here, since
every handler does the one right after the other. -/
theorem setFlags_ok (h : w.Holds id a i) (hs : w.poller.Sound) (f : Session → Session)
    (hfd : (f a.session).fd = a.session.fd) :
    ∃ w', updateRegistration id { w with sessions := w.sessions.modify id f } = .ok ⟨⟩ w'
      ∧ Tends w w' id (a.set f) (f a.session).interest := by
  have h1 := (h.tends hs).modify (f := f) rfl hfd
  obtain ⟨w', hw', ht⟩ := updateRegistration_ok h1.holds h1.sound
  exact ⟨w', hw', h1.trans ht rfl⟩

theorem resumePeer_ok (h : w.Holds pid b i) (hs : w.poller.Sound) (id : SessionId) :
    ∃ w', resumePeer id (some pid) w = .ok ⟨⟩ w'
      ∧ Tends w w' pid b.resume b.resume.session.interest := by
  obtain ⟨w', hw', ht⟩ := setFlags_ok h hs (fun s => { s with awaitingReadable := true }) rfl
  refine ⟨w', ?_, ht⟩
  exact (bind_of_ok (session_ok h.session) _).trans hw'

/-! ## Actions on a pair -/

/-- From `w₀` to `w` the two halves have changed at most, and both are watched for what their flags
ask. -/
def Attends (w₀ w : Worker) (id pid : SessionId) (a b : Half) : Prop :=
  Serves w₀ w id pid a b a.session.interest b.session.interest

theorem Attends.say (h : Attends w₀ w id pid a b) (log : List LogEntry) :
    Attends w₀ { w with log } id pid a b :=
  Serves.tend h ((h.self.tends h.sound).say log) rfl

def Meets (w₀ : Worker) (id pid : SessionId) (r : Outcome) (doomed : Option SessionId)
    (w : Worker) : Prop :=
  doomed = r.target id pid ∧ Attends w₀ w id pid r.self r.peer

theorem leads_onError (h : Attends w₀ w id pid a b) :
    Leads (onError id) w (Meets w₀ id pid (Half.onError a b)) never := by
  obtain ⟨w₁, hw₁, ht⟩ := takeError_ok h.self h.sound
  have h1 : Attends w₀ w₁ id pid a.takeError.2 b := Serves.tend h ht rfl
  rw [onError, leads_bind, leads_session h.self.session, leads_bind, leads_of_ok hw₁]
  cases he : a.takeError.1 with
  | none => exact ⟨by simp [Half.onError, he, Outcome.target], h1⟩
  | some e => exact ⟨by simp [Half.onError, he, Outcome.target], h1.say _⟩

theorem Attends.read (h : Attends w₀ w id pid a b) {o : ReadOutcome} {file : File} {n : Nat}
    (hr : readSome (w.host.file a.session.fd) n = (o, file)) :
    Attends w₀ { w with host := w.host.put a.session.fd file } id pid (a.withFile file) b := by
  have hsome := File.readSome_reads a.file n
  rw [h.self.file] at hr
  rw [hr] at hsome
  exact Serves.tend h ((h.self.tends h.sound).putFile hsome.used) rfl

theorem leads_block {j : Interest} (h : Serves w₀ w id pid a b i j) :
    Leads (do
        modifySession pid fun p => { p with awaitingWritable := true }
        modifySession id fun s => { s with awaitingReadable := false }
        updateRegistration pid
        updateRegistration id
        return none) w
      (Meets w₀ id pid ⟨none, a.set fun s => { s with awaitingReadable := false },
        b.set fun s => { s with awaitingWritable := true }⟩) never := by
  have h1 := Serves.tend h.symm ((h.peer.tends h.sound).modify
    (f := fun p => { p with awaitingWritable := true }) rfl rfl) rfl
  have h2 := Serves.tend h1.symm ((h1.peer.tends h1.sound).modify
    (f := fun s => { s with awaitingReadable := false }) rfl rfl) rfl
  obtain ⟨w₃, hw₃, ht₃⟩ := updateRegistration_ok h2.peer h2.sound
  have h3 := Serves.tend h2.symm ht₃ rfl
  obtain ⟨w₄, hw₄, ht₄⟩ := updateRegistration_ok h3.peer h3.sound
  rw [leads_bind, leads_modifySession, leads_bind, leads_modifySession, leads_bind,
    leads_of_ok hw₃, leads_bind, leads_of_ok hw₄]
  exact ⟨rfl, Serves.tend h3.symm ht₄ rfl⟩

theorem leads_relayFrom (rounds : Nat) (h : Attends w₀ w id pid a b) :
    Leads (relayFrom id pid rounds) w (Meets w₀ id pid (Half.relay a b rounds)) never := by
  induction rounds generalizing w a b with
  | zero => exact ⟨rfl, h⟩
  | succ rounds ih =>
    rw [relayFrom, leads_bind, leads_get]
    simp only [h.self.session, h.peer.session]
    split
    · next file hr =>
      rw [Half.relay_succ a b rounds (h.self.file ▸ hr)]
      exact ⟨rfl, h.read hr⟩
    · next file hr =>
      rw [Half.relay_succ a b rounds (h.self.file ▸ hr)]
      exact ⟨rfl, h.read hr⟩
    · next e file hr =>
      rw [Half.relay_succ a b rounds (h.self.file ▸ hr)]
      exact ⟨rfl, (h.read hr).say _⟩
    · next data file hr =>
      rw [Half.relay_succ a b rounds (h.self.file ▸ hr)]
      have fits := length_readSome_le _ _ hr
      have h1 := h.read hr
      obtain ⟨w₁, hw₁, ht⟩ := flushSession_ok h1.peer h1.sound (b.session.staging.stage data fits)
      have h2 := (Serves.tend h1.symm ht rfl).symm
      rw [leads_bind, leads_modifyHost, leads_bind, leads_of_ok hw₁]
      have hstage : (Half.flush { b with session :=
          { b.session with staging := b.session.staging.stage data fits } })
          = (b.stage data fits).flush := rfl
      rw [hstage] at h2 ⊢
      dsimp only
      cases hfl : (b.stage data fits).flush.1 with
      | complete => exact ih h2
      | wouldBlock => exact leads_block h2
      | failed e => exact ⟨rfl, Attends.say h2 _⟩

theorem leads_onReadable (h : Attends w₀ w id pid a b) (hpeer : a.session.peer = some pid) :
    Leads (onReadable id) w
      (Meets w₀ id pid (Half.onReadable w.settings.maxOpsPerFd a b)) never := by
  rw [onReadable, leads_bind, leads_session h.self.session, leads_ite, Half.onReadable]
  constructor
  · intro hread
    rw [if_pos hread, hpeer, leads_bind, leads_get]
    exact leads_relayFrom _ h
  · intro hread
    rw [if_neg hread]
    exact ⟨rfl, h⟩

/-! ## Writing -/

theorem leads_onConnected (h : Attends w₀ w id pid a b) (hpeer : a.session.peer = some pid) :
    Leads (onConnected id a.session) w (Meets w₀ id pid (Half.onConnected a b)) never := by
  obtain ⟨w₁, hw₁, ht₁⟩ := takeError_ok h.self h.sound
  have h1 : Attends w₀ w₁ id pid a.takeError.2 b := Serves.tend h ht₁ rfl
  rw [onConnected, leads_bind, leads_of_ok hw₁, Half.onConnected]
  cases he : a.takeError.1 with
  | none =>
    have h2 := h1.say (⟨.info, "connect complete " ++ a.session.text⟩ :: w₁.log)
    obtain ⟨w₃, hw₃, ht₃⟩ := setFlags_ok h2.self h2.sound
      (fun s => { s with awaitingConnect := false, awaitingReadable := true }) rfl
    have h3 := Serves.tend h2 ht₃ rfl
    obtain ⟨w₄, hw₄, ht₄⟩ := resumePeer_ok h3.peer h3.sound id
    rw [hpeer, leads_bind, leads_say, leads_bind, leads_modifySession, leads_bind,
      leads_of_ok hw₃, leads_bind, leads_of_ok hw₄]
    exact ⟨rfl, (Serves.tend h3.symm ht₄ rfl).symm⟩
  | some e =>
    dsimp only
    rw [leads_ite]
    constructor
    · intro hprog
      rw [if_pos hprog]
      exact ⟨rfl, h1⟩
    · intro hprog
      rw [if_neg hprog]
      exact ⟨rfl, h1.say _⟩

theorem leads_onUnblocked (h : Attends w₀ w id pid a b) (hpeer : a.session.peer = some pid) :
    Leads (onUnblocked id a.session) w (Meets w₀ id pid (Half.onUnblocked a b)) never := by
  obtain ⟨w₁, hw₁, ht₁⟩ := flushSession_ok h.self h.sound a.session.staging
  have h1 : Attends w₀ w₁ id pid a.flush.2 b := Serves.tend h ht₁ rfl
  rw [onUnblocked, leads_bind, Half.onUnblocked]
  rw [show ({ a.session with staging := a.session.staging } : Session) = a.session from rfl] at hw₁
  rw [leads_of_ok hw₁]
  cases hfl : a.flush.1 with
  | wouldBlock => exact ⟨rfl, h1⟩
  | failed e => exact ⟨rfl, h1.say _⟩
  | complete =>
    dsimp only
    rw [leads_ite]
    constructor
    · intro hclose
      rw [if_pos hclose]
      exact ⟨rfl, h1⟩
    · intro hclose
      obtain ⟨w₂, hw₂, ht₂⟩ := setFlags_ok h1.self h1.sound
        (fun s => { s with staging := s.staging.clear, awaitingWritable := false }) rfl
      have h2 := Serves.tend h1 ht₂ rfl
      obtain ⟨w₃, hw₃, ht₃⟩ := resumePeer_ok h2.peer h2.sound id
      rw [if_neg hclose, hpeer, leads_bind, leads_modifySession, leads_bind, leads_of_ok hw₂,
        leads_bind, leads_of_ok hw₃]
      exact ⟨rfl, (Serves.tend h2.symm ht₃ rfl).symm⟩

theorem leads_onWritable (h : Attends w₀ w id pid a b) (hpeer : a.session.peer = some pid) :
    Leads (onWritable id) w (Meets w₀ id pid (Half.onWritable a b)) never := by
  rw [onWritable, leads_bind, leads_session h.self.session, leads_ite, Half.onWritable]
  constructor
  · intro hc
    rw [if_pos hc]
    exact leads_onConnected h hpeer
  · intro hc
    rw [if_neg hc, leads_ite]
    refine ⟨fun hw => ?_, fun hw => ?_⟩
    · rw [if_pos hw]
      exact leads_onUnblocked h hpeer
    · rw [if_neg hw]
      exact ⟨rfl, h⟩

/-! ## A whole event -/

/-- An action that continues an outcome as `handler` does, if it is called for. Each handler of an
event is one such action, and comes after those before it have doomed nothing. -/
theorem leads_next {x : Act (Option SessionId)} {handler : Half → Half → Outcome}
    {doomed : Option SessionId} (called : Bool)
    (h : Meets w₀ id pid r doomed w)
    (hx : called = true → r.doomed = none → Attends w₀ w id pid r.self r.peer →
      Leads x w (Meets w₀ id pid (handler r.self r.peer)) never) :
    Leads (if doomed.isNone && called then x else pure doomed) w
      (Meets w₀ id pid (r.next called handler)) never := by
  obtain ⟨rfl, hatt⟩ := h
  have hnone : (r.target id pid).isNone = r.doomed.isNone := by
    rw [Outcome.target, Option.isNone_map]
  rw [leads_ite, hnone, Outcome.next]
  constructor
  · intro hcond
    rw [if_pos hcond]
    rw [Bool.and_eq_true, Option.isNone_iff_eq_none] at hcond
    exact hx hcond.2 hcond.1 hatt
  · intro hcond
    rw [if_neg hcond]
    exact ⟨rfl, hatt⟩

theorem findDoomed_eq (id : SessionId) (e : Event) :
    findDoomed id e =
      ((if (none : Option SessionId).isNone && e.error then onError id else pure none) >>= fun d =>
        (if d.isNone && e.readable then onReadable id else pure d) >>= fun d =>
          if d.isNone && e.writable then onWritable id else pure d) := by
  have hread (d : Option SessionId) :
      (if d.isNone && e.readable then
          onReadable id >>= fun d => if d.isNone && e.writable then onWritable id else pure d
        else pure d >>= fun d => if d.isNone && e.writable then onWritable id else pure d)
      = (if d.isNone && e.readable then onReadable id else pure d) >>= fun d =>
          if d.isNone && e.writable then onWritable id else pure d := by
    split <;> rfl
  simp only [findDoomed, hread]
  cases e.error <;> rfl

/-- The handlers of an event make of the worker what they make of the two halves. From here on,
events of pairs are a matter of `Half.onEvent`. -/
theorem leads_findDoomed (e : Event) (h : Attends w₀ w id pid a b)
    (hpeer : a.session.peer = some pid) (hl : a.Linked b) :
    Leads (findDoomed id e) w
      (Meets w₀ id pid (Half.onEvent w₀.settings.maxOpsPerFd e a b)) never := by
  have hk₀ : (⟨none, a, b⟩ : Outcome).Keeps a b := .of_linked (.refl a) (.refl b) hl
  have hk₁ := hk₀.next e.error fun _ _ => Half.keeps_onError
  have hk₂ := hk₁.next e.readable fun _ _ => Half.keeps_onReadable w₀.settings.maxOpsPerFd
  rw [findDoomed_eq]
  refine Leads.bind (P := Meets w₀ id pid ((⟨none, a, b⟩ : Outcome).next e.error Half.onError))
    ?_ fun d₁ w₁ h₁ => ?_
  · have h0 : Meets w₀ id pid ⟨none, a, b⟩ none w := ⟨rfl, h⟩
    exact leads_next e.error h0 fun _ _ hatt => leads_onError hatt
  refine Leads.bind (P := Meets w₀ id pid (((⟨none, a, b⟩ : Outcome).next e.error
    Half.onError).next e.readable (Half.onReadable w₀.settings.maxOpsPerFd))) ?_ fun d₂ w₂ h₂ => ?_
  · refine leads_next e.readable h₁ ?_
    intro _ _ hatt
    rw [← hatt.within.settings]
    exact leads_onReadable hatt (hk₁.self.peer.trans hpeer)
  · exact leads_next e.writable h₂ fun _ _ hatt =>
      leads_onWritable hatt (hk₂.self.peer.trans hpeer)

/-! ## A session without a peer -/

theorem leads_onError_alone (h : w.Holds id a i) (hs : w.poller.Sound) :
    Leads (onError id) w (fun doomed w' =>
      doomed = a.takeError.1.map (fun _ => id) ∧ Tends w w' id a.takeError.2 i) never := by
  obtain ⟨w₁, hw₁, ht⟩ := takeError_ok h hs
  rw [onError, leads_bind, leads_session h.session, leads_bind, leads_of_ok hw₁]
  cases a.takeError.1 with
  | none => exact ⟨rfl, ht⟩
  | some e => exact ⟨rfl, ht.say _⟩

/-- A draining session does not read, so that the handlers leave it alone in this too. -/
theorem leads_onReadable_alone (h : w.Holds id a i) (hd : a.Draining) :
    Leads (onReadable id) w (fun doomed w' => doomed = none ∧ w' = w) never := by
  rw [onReadable, leads_bind, leads_session h.session, hd.session.paused]
  exact ⟨rfl, rfl⟩

theorem leads_onWritable_alone (h : w.Holds id a i) (hs : w.poller.Sound) (hd : a.Draining) :
    Leads (onWritable id) w (fun doomed w' =>
      doomed = (if a.flush.1 = .wouldBlock then none else some id) ∧ Tends w w' id a.flush.2 i)
      never := by
  obtain ⟨w₁, hw₁, ht⟩ := flushSession_ok h hs a.session.staging
  rw [onWritable, leads_bind, leads_session h.session, hd.session.connected, leads_ite]
  refine ⟨nofun, ?_⟩
  intro _
  rw [hd.session.blocked, if_pos rfl, onUnblocked, leads_bind]
  rw [show ({ a.session with staging := a.session.staging } : Session) = a.session from rfl] at hw₁
  rw [leads_of_ok hw₁]
  cases hfl : a.flush.1 with
  | wouldBlock => exact ⟨rfl, ht⟩
  | failed e => exact ⟨rfl, ht.say _⟩
  | complete =>
    dsimp only
    rw [hd.session.closing, if_pos rfl]
    exact ⟨rfl, ht⟩

/-- The handlers of an event make of the worker what they make of the half. -/
theorem leads_findDoomed_alone (e : Event) (h : w.Holds id a i) (hs : w.poller.Sound)
    (hd : a.Draining) :
    Leads (findDoomed id e) w (fun doomed w' =>
      doomed = (if (Half.drain e a).1 then some id else none)
        ∧ Tends w w' id (Half.drain e a).2 i) never := by
  have hstart := h.tends hs
  rw [findDoomed_eq]
  obtain ⟨r, hr⟩ : ∃ r, r = if e.error then a.takeError else (none, a) := ⟨_, rfl⟩
  have hdr : r.2.Draining := by
    rw [hr]
    split
    · exact hd.takeError
    · exact hd
  refine Leads.bind (P := fun d w' => d = r.1.map (fun _ => id) ∧ Tends w w' id r.2 i)
    ?_ fun d₁ w₁ h₁ => ?_
  · rw [leads_ite]
    constructor
    · intro he
      simp only [Option.isNone_none, Bool.true_and] at he
      rw [hr, if_pos he]
      exact leads_onError_alone h hs
    · intro he
      simp only [Option.isNone_none, Bool.true_and] at he
      rw [hr, if_neg he]
      exact ⟨rfl, hstart⟩
  obtain ⟨rfl, ht₁⟩ := h₁
  refine Leads.bind (P := fun d w' => d = r.1.map (fun _ => id) ∧ w' = w₁)
    ?_ fun d₂ w₂ h₂ => ?_
  · rw [leads_ite]
    refine ⟨?_, fun _ => ⟨rfl, rfl⟩⟩
    intro hcond
    have hnone : r.1.map (fun _ => id) = none := by simp_all
    rw [hnone]
    exact leads_onReadable_alone ht₁.holds hdr
  obtain ⟨rfl, rfl⟩ := h₂
  rw [leads_ite, Half.drain, ← hr]
  cases hsome : r.1 with
  | some err =>
    refine ⟨fun hcond => by simp at hcond, fun _ => ⟨rfl, ht₁⟩⟩
  | none =>
    constructor
    · intro hcond
      have hwr : e.writable = true := by simpa using hcond
      rw [hwr]
      refine (leads_onWritable_alone ht₁.holds ht₁.sound hdr).imp ?_
      rintro d w' ⟨rfl, ht₂⟩
      refine ⟨?_, ht₁.trans ht₂ (Half.alike_flush r.2).fd⟩
      simp
    · intro hcond
      have hwr : e.writable = false := by simpa using hcond
      rw [hwr]
      exact ⟨rfl, ht₁⟩

end Sluice.Worker
