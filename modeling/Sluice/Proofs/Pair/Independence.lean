import Sluice.Proofs.Pair.Progress
import Sluice.Proofs.Socket.Directions

/-!
# Events of the two halves of a pair

A half that is read from changes in its inlet (`Half.Inlet`), one that is written to in its outlet,
and a relay that is given other outlets to read from and other inlets to write to makes the same of
the rest (`Half.relay_set`). So two events of a pair that ask for the same handler, each for its own
half, can come in either order; and a poller does not find one half readable and the other writable.
Together: two events of a pair that doom nothing come to the same in either order
(`Half.onEvent_comm`).
-/

namespace Sluice.Half

variable {a a' a'' b b' : Half} {e f : Event} {rounds : Nat}

/-! ## Inlets and outlets -/

/-- What reading from a half may change of it. That a connection is waited for belongs here, since
it is decided by a pending error, which comes in. -/
structure Inlet where
  file : Sluice.Inlet
  awaitingReadable : Bool
  awaitingConnect : Bool

/-- What writing to a half may change of it. Between them, inlet and outlet have no field in common,
and what is in neither no handler changes. -/
structure Outlet where
  file : Sluice.Outlet
  staging : Staging
  awaitingWritable : Bool

def inlet (a : Half) : Inlet where
  file := a.file.inlet
  awaitingReadable := a.session.awaitingReadable
  awaitingConnect := a.session.awaitingConnect

def outlet (a : Half) : Outlet where
  file := a.file.outlet
  staging := a.session.staging
  awaitingWritable := a.session.awaitingWritable

def setInlet (a : Half) (i : Inlet) : Half where
  session :=
    { a.session with awaitingReadable := i.awaitingReadable, awaitingConnect := i.awaitingConnect }
  file := a.file.setInlet i.file

def setOutlet (a : Half) (o : Outlet) : Half where
  session := { a.session with staging := o.staging, awaitingWritable := o.awaitingWritable }
  file := a.file.setOutlet o.file

@[simp] theorem setInlet_inlet (a : Half) : a.setInlet a.inlet = a := by
  rw [setInlet, inlet, File.setInlet_inlet]

@[simp] theorem setOutlet_outlet (a : Half) : a.setOutlet a.outlet = a := by
  rw [setOutlet, outlet, File.setOutlet_outlet]

@[simp] theorem setInlet_setInlet (a : Half) (i j : Inlet) :
    (a.setInlet i).setInlet j = a.setInlet j := by
  simp only [setInlet, File.setInlet_setInlet]

@[simp] theorem setOutlet_setOutlet (a : Half) (o o' : Outlet) :
    (a.setOutlet o).setOutlet o' = a.setOutlet o' := by
  simp only [setOutlet, File.setOutlet_setOutlet]

theorem setOutlet_setInlet (a : Half) (i : Inlet) (o : Outlet) :
    (a.setInlet i).setOutlet o = (a.setOutlet o).setInlet i := by
  simp only [setInlet, setOutlet, File.setOutlet_setInlet]

def Draws (a a' : Half) : Prop :=
  a' = a.setInlet a'.inlet

def Fills (a a' : Half) : Prop :=
  a' = a.setOutlet a'.outlet

theorem Draws.refl (a : Half) : Draws a a :=
  (setInlet_inlet a).symm

theorem Draws.trans (h : Draws a a') (h' : Draws a' a'') : Draws a a'' := by
  rw [Draws] at h h' ⊢
  rw [h, setInlet_setInlet] at h'
  exact h'

theorem Fills.refl (a : Half) : Fills a a :=
  (setOutlet_outlet a).symm

theorem Fills.trans (h : Fills a a') (h' : Fills a' a'') : Fills a a'' := by
  rw [Fills] at h h' ⊢
  rw [h, setOutlet_setOutlet] at h'
  exact h'

/-- Changes of the inlet and of the outlet go together in either order. A relay in one direction
draws from `a` and fills `b`, and one in the other direction does the opposite, so that this is why
the two do not meet. -/
theorem merge (h : Draws a a') (h' : Fills a a'') :
    a'.setOutlet a''.outlet = a''.setInlet a'.inlet := by
  rw [Draws] at h
  rw [Fills] at h'
  rw [h, setOutlet_setInlet, ← h', ← h]

/-! ## Reading and flushing -/

theorem draws_withFile {file : File} {data : List UInt8} (hr : a.file.Reads data file) :
    Draws a (a.withFile file) := by
  rw [Draws, setInlet, inlet]
  exact congrArg a.withFile hr.eq_setInlet

theorem fills_stage (b : Half) (data : List UInt8)
    (fits : data.length ≤ b.session.staging.buffer.length) : Fills b (b.stage data fits) := by
  rw [Fills, setOutlet, outlet]
  exact congrArg (b.stage data fits).withFile (File.setOutlet_outlet b.file).symm

theorem fills_flush (b : Half) : Fills b b.flush.2 := by
  obtain ⟨data, hw, -, -⟩ := b.session.staging.flush_writes b.file
  rw [Fills, setOutlet, outlet]
  exact congrArg b.flush.2.withFile hw.eq_setOutlet

theorem flush_setInlet (b : Half) (i : Inlet) :
    (b.setInlet i).flush = (b.flush.1, b.flush.2.setInlet i) := by
  have hflush := File.flush_setInlet b.session.staging b.file i.file
  rw [flush, show (b.setInlet i).session.staging.flush (b.setInlet i).file = _ from hflush]
  rfl

/-! ## Relays -/

theorem relay_sides (rounds : Nat) (a b : Half) :
    Draws a (relay a b rounds).self ∧ Fills b (relay a b rounds).peer := by
  induction rounds generalizing a b with
  | zero => exact ⟨.refl a, .refl b⟩
  | succ rounds ih =>
    have hsome := File.readSome_reads a.file b.session.staging.buffer.length
    cases hr : readSome a.file b.session.staging.buffer.length with
    | mk o file =>
      rw [hr] at hsome
      have hself : Draws a (a.withFile file) := draws_withFile hsome
      rw [relay_succ a b rounds hr]
      cases o with
      | wouldBlock | endOfStream | failed => exact ⟨hself, .refl b⟩
      | done data =>
        have hpeer := (fills_stage b data (length_readSome_le _ _ hr)).trans (fills_flush _)
        dsimp only
        split
        · exact ⟨hself.trans (ih _ _).1, hpeer.trans (ih _ _).2⟩
        · exact ⟨hself.trans (setInlet_inlet _).symm, hpeer.trans (setOutlet_outlet _).symm⟩
        · exact ⟨hself, hpeer⟩

/-- What a relay does to the rest of the two halves does not depend on what it is not about. The
induction is on the rounds; the outlet of `a` and the inlet of `b` are carried along as they are. -/
theorem relay_set (rounds : Nat) (a b : Half) (o : Outlet) (i : Inlet) :
    relay (a.setOutlet o) (b.setInlet i) rounds = ⟨(relay a b rounds).doomed,
      (relay a b rounds).self.setOutlet o, (relay a b rounds).peer.setInlet i⟩ := by
  induction rounds generalizing a b with
  | zero => rfl
  | succ rounds ih =>
    cases hr : readSome a.file b.session.staging.buffer.length with
    | mk read file =>
      have hr' : readSome (a.setOutlet o).file (b.setInlet i).session.staging.buffer.length
          = (read, file.setOutlet o.file) := by
        have hset := File.readSome_setOutlet a.file o.file b.session.staging.buffer.length
        rw [hr] at hset
        exact hset
      rw [relay_succ _ _ rounds hr', relay_succ a b rounds hr]
      cases read with
      | wouldBlock | endOfStream | failed => rfl
      | done data =>
        have fits := length_readSome_le _ _ hr
        have hflush : ((b.setInlet i).stage data fits).flush
            = ((b.stage data fits).flush.1, (b.stage data fits).flush.2.setInlet i) :=
          flush_setInlet (b.stage data fits) i
        dsimp only
        rw [hflush]
        cases (b.stage data fits).flush.1 with
        | complete => exact ih (a.withFile file) (b.stage data fits).flush.2
        | wouldBlock | failed => rfl

theorem onReadable_sides (rounds : Nat) (a b : Half) :
    Draws a (onReadable rounds a b).self ∧ Fills b (onReadable rounds a b).peer := by
  unfold onReadable
  split
  · exact relay_sides rounds a b
  · exact ⟨.refl a, .refl b⟩

theorem onReadable_set (rounds : Nat) (a b : Half) (o : Outlet) (i : Inlet) :
    onReadable rounds (a.setOutlet o) (b.setInlet i) = ⟨(onReadable rounds a b).doomed,
      (onReadable rounds a b).self.setOutlet o, (onReadable rounds a b).peer.setInlet i⟩ := by
  have hreading : (a.setOutlet o).session.awaitingReadable = a.session.awaitingReadable := rfl
  rw [onReadable, onReadable, hreading]
  split
  · exact relay_set rounds a b o i
  · rfl

theorem onReadable_after (rounds : Nat) (a b : Half) :
    onReadable rounds (onReadable rounds a b).peer (onReadable rounds a b).self
      = ⟨(onReadable rounds b a).doomed,
        (onReadable rounds b a).self.setOutlet (onReadable rounds a b).peer.outlet,
        (onReadable rounds b a).peer.setInlet (onReadable rounds a b).self.inlet⟩ := by
  obtain ⟨hself, hpeer⟩ := onReadable_sides rounds a b
  rw [Draws] at hself
  rw [Fills] at hpeer
  rw [← onReadable_set, ← hself, ← hpeer]

/-- Two halves that read from each other can do so in either order. Reading at one half draws from
it and fills the other, and the other is drawn from in what is not filled. -/
theorem onReadable_comm {a₁ b₁ a₂ b₂ : Half} (ha : onReadable rounds a b = ⟨none, a₁, b₁⟩)
    (hb : onReadable rounds b₁ a₁ = ⟨none, b₂, a₂⟩) :
    ∃ a' b', onReadable rounds b a = ⟨none, b', a'⟩ ∧ onReadable rounds a' b' = ⟨none, a₂, b₂⟩ := by
  obtain ⟨hself, hpeer⟩ := onReadable_sides rounds a b
  obtain ⟨hself', hpeer'⟩ := onReadable_sides rounds b a
  have hthere := onReadable_after rounds a b
  have hback := onReadable_after rounds b a
  rw [ha] at hself hpeer hthere hback
  cases hr : onReadable rounds b a with
  | mk doomed b' a' =>
    rw [hr] at hself' hpeer' hthere hback
    obtain ⟨rfl, rfl, rfl⟩ := Outcome.mk.injEq .. |>.mp (hthere.symm.trans hb)
    refine ⟨a', b', rfl, ?_⟩
    rw [hback, merge hself hpeer', merge hself' hpeer]

/-! ## Writing -/

/-- A connecting half whose socket is writable makes the same of itself whoever its peer is and
whether or not it reads, and all that it does to its peer is to let it read. -/
theorem onConnected_parts (a : Half) : ∃ (doomed : Option Side) (a' : Half) (resumes : Bool),
    ∀ b, onConnected a b = ⟨doomed, a', if resumes then b.resume else b⟩
      ∧ onConnected a.resume b = ⟨doomed, a'.resume, if resumes then b.resume else b⟩ := by
  have herror : a.resume.takeError = (a.takeError.1, a.takeError.2.resume) := rfl
  unfold onConnected
  rw [herror]
  dsimp only
  cases a.takeError.1 with
  | none => exact ⟨none, _, true, fun b => ⟨rfl, rfl⟩⟩
  | some e =>
    exact ⟨if e = .os .inProgress then none else some .self, _, false, fun b => ⟨rfl, rfl⟩⟩

theorem onUnblocked_parts (a : Half) : ∃ (doomed : Option Side) (a' : Half) (resumes : Bool),
    ∀ b, onUnblocked a b = ⟨doomed, a', if resumes then b.resume else b⟩
      ∧ onUnblocked a.resume b = ⟨doomed, a'.resume, if resumes then b.resume else b⟩ := by
  have hflush : a.resume.flush = (a.flush.1, a.flush.2.resume) := rfl
  have hcloses : a.resume.session.closeAfterFlush = a.session.closeAfterFlush := rfl
  unfold onUnblocked
  rw [hflush, hcloses]
  dsimp only
  cases a.flush.1 with
  | wouldBlock => exact ⟨none, _, false, fun b => ⟨rfl, rfl⟩⟩
  | failed e => exact ⟨some .self, _, false, fun b => ⟨rfl, rfl⟩⟩
  | complete =>
    cases a.session.closeAfterFlush with
    | true => exact ⟨some .self, _, false, fun b => ⟨rfl, rfl⟩⟩
    | false => exact ⟨none, _, true, fun b => ⟨rfl, rfl⟩⟩

theorem onWritable_parts (a : Half) : ∃ (doomed : Option Side) (a' : Half) (resumes : Bool),
    ∀ b, onWritable a b = ⟨doomed, a', if resumes then b.resume else b⟩
      ∧ onWritable a.resume b = ⟨doomed, a'.resume, if resumes then b.resume else b⟩ := by
  have hconnect : a.resume.session.awaitingConnect = a.session.awaitingConnect := rfl
  have hblocked : a.resume.session.awaitingWritable = a.session.awaitingWritable := rfl
  unfold onWritable
  rw [hconnect, hblocked]
  cases a.session.awaitingConnect with
  | true => exact onConnected_parts a
  | false =>
    cases a.session.awaitingWritable with
    | true => exact onUnblocked_parts a
    | false => exact ⟨none, a, false, fun b => ⟨rfl, rfl⟩⟩

/-- Whether the peer has written before makes no difference but that it may have let the half
read. -/
theorem onWritable_comm {a₁ b₁ a₂ b₂ : Half} (ha : onWritable a b = ⟨none, a₁, b₁⟩)
    (hb : onWritable b₁ a₁ = ⟨none, b₂, a₂⟩) :
    ∃ a' b', onWritable b a = ⟨none, b', a'⟩ ∧ onWritable a' b' = ⟨none, a₂, b₂⟩ := by
  obtain ⟨doomed, a', resumes, hself⟩ := onWritable_parts a
  obtain ⟨doomed', b', resumes', hpeer⟩ := onWritable_parts b
  obtain ⟨rfl, rfl, rfl⟩ := Outcome.mk.injEq .. |>.mp ((hself b).1.symm.trans ha)
  have hb' : onWritable (if resumes then b.resume else b) a'
      = ⟨doomed', if resumes then b'.resume else b', if resumes' then a'.resume else a'⟩ := by
    cases resumes with
    | true => exact (hpeer a').2
    | false => exact (hpeer a').1
  obtain ⟨rfl, rfl, rfl⟩ := Outcome.mk.injEq .. |>.mp (hb'.symm.trans hb)
  refine ⟨_, _, (hpeer a).1, ?_⟩
  cases resumes' with
  | true => exact (hself b').2
  | false => exact (hself b').1

/-! ## Whole events -/

/-- What an event calls for apart from the pending error. -/
def serve (rounds : Nat) (e : Event) (a b : Half) : Outcome :=
  ((⟨none, a, b⟩ : Outcome).next e.readable (onReadable rounds)).next e.writable onWritable

theorem serve_of_quiet (hr : e.readable = false) (hw : e.writable = false) (a b : Half) :
    serve rounds e a b = ⟨none, a, b⟩ := by
  rw [serve, hr, hw]
  rfl

theorem serve_of_readable (hr : e.readable = true) (hw : e.writable = false) (a b : Half) :
    serve rounds e a b = onReadable rounds a b := by
  rw [serve, hr, hw]
  cases h : (onReadable rounds a b).doomed <;> simp [Outcome.next, h]

theorem serve_of_writable (hr : e.readable = false) (hw : e.writable = true) (a b : Half) :
    serve rounds e a b = onWritable a b := by
  rw [serve, hr, hw]
  rfl

/-- An event that dooms nothing has met no error. Asking for an error that is not there changes
nothing, so that the rest of the event is served by the halves as they were. -/
theorem onEvent_eq_iff {r : Outcome} (hr : r.doomed = none) : onEvent rounds e a b = r
    ↔ (e.error = true → a.file.takeError.1 = none) ∧ serve rounds e a b = r := by
  have hserve (hnone : e.error = true → a.file.takeError.1 = none) :
      onEvent rounds e a b = serve rounds e a b := by
    rw [onEvent, next_onError_of_none hnone, serve]
  constructor
  · intro h
    by_cases hnone : e.error = true → a.file.takeError.1 = none
    · exact ⟨hnone, (hserve hnone).symm.trans h⟩
    · -- a pending error dooms the half, and no other handler is called then
      obtain ⟨he, hsome⟩ := Classical.not_imp.mp hnone
      have hsome : a.takeError.1.isSome = true := Option.isSome_iff_ne_none.mpr hsome
      rw [← h, onEvent, he] at hr
      simp [Outcome.next, onError, hsome] at hr
  · rintro ⟨hnone, h⟩
    exact (hserve hnone).trans h

theorem next_fault {r : Outcome} {handler : Half → Half → Outcome} (called : Bool)
    (hh : ∀ a b, (handler a b).peer.file.takeError.1 = b.file.takeError.1)
    (h : r.peer.file.takeError.1 = b.file.takeError.1) :
    (r.next called handler).peer.file.takeError.1 = b.file.takeError.1 := by
  unfold Outcome.next
  split
  · exact (hh _ _).trans h
  · exact h

theorem serve_fault (rounds : Nat) (e : Event) (a b : Half) :
    (serve rounds e a b).peer.file.takeError.1 = b.file.takeError.1 := by
  refine next_fault _ (fun a b => ?_) (next_fault _ (fun a b => ?_) rfl)
  · obtain ⟨doomed, a', resumes, hparts⟩ := onWritable_parts a
    rw [(hparts b).1]
    cases resumes <;> rfl
  · have hpeer : (onReadable rounds a b).peer = b.setOutlet _ := (onReadable_sides rounds a b).2
    rw [hpeer, setOutlet, File.takeError_setOutlet]

/-- Two halves of which neither is readable while the other is writable can be served in either
order. -/
theorem serve_comm {a₁ b₁ a₂ b₂ : Half} (hef : e.readable = true → f.writable = false)
    (hfe : f.readable = true → e.writable = false) (he : serve rounds e a b = ⟨none, a₁, b₁⟩)
    (hf : serve rounds f b₁ a₁ = ⟨none, b₂, a₂⟩) :
    ∃ a' b', serve rounds f b a = ⟨none, b', a'⟩ ∧ serve rounds e a' b' = ⟨none, a₂, b₂⟩ := by
  cases her : e.readable with
  | true =>
    have hfw := hef her
    cases hfr : f.readable with
    | true =>
      have hew := hfe hfr
      simp only [serve_of_readable her hew, serve_of_readable hfr hfw] at he hf ⊢
      exact onReadable_comm he hf
    | false =>
      simp only [serve_of_quiet hfr hfw] at hf ⊢
      obtain ⟨-, rfl, rfl⟩ := Outcome.mk.injEq .. |>.mp hf
      exact ⟨a, b, rfl, he⟩
  | false =>
    cases hew : e.writable with
    | false =>
      simp only [serve_of_quiet her hew] at he ⊢
      obtain ⟨-, rfl, rfl⟩ := Outcome.mk.injEq .. |>.mp he
      exact ⟨a₂, b₂, hf, rfl⟩
    | true =>
      have hfr : f.readable = false := by
        by_contra hfr
        rw [hfe (Bool.not_eq_false _ ▸ hfr)] at hew
        cases hew
      cases hfw : f.writable with
      | false =>
        simp only [serve_of_quiet hfr hfw] at hf ⊢
        obtain ⟨-, rfl, rfl⟩ := Outcome.mk.injEq .. |>.mp hf
        exact ⟨a, b, rfl, he⟩
      | true =>
        simp only [serve_of_writable her hew, serve_of_writable hfr hfw] at he hf ⊢
        exact onWritable_comm he hf

/-- Two events of a pair that doom nothing come to the same in either order, if neither finds its
half readable while the other finds its own writable. -/
theorem onEvent_comm {a₁ b₁ a₂ b₂ : Half} (hef : e.readable = true → f.writable = false)
    (hfe : f.readable = true → e.writable = false) (he : onEvent rounds e a b = ⟨none, a₁, b₁⟩)
    (hf : onEvent rounds f b₁ a₁ = ⟨none, b₂, a₂⟩) :
    ∃ a' b', onEvent rounds f b a = ⟨none, b', a'⟩ ∧ onEvent rounds e a' b' = ⟨none, a₂, b₂⟩ := by
  obtain ⟨heerror, heserve⟩ := (onEvent_eq_iff rfl).mp he
  obtain ⟨hferror, hfserve⟩ := (onEvent_eq_iff rfl).mp hf
  obtain ⟨a', b', hf', he'⟩ := serve_comm hef hfe heserve hfserve
  -- the error that one asks for is not touched by the other
  have hb : b₁.file.takeError.1 = b.file.takeError.1 := by
    have hfault := serve_fault rounds e a b
    rwa [heserve] at hfault
  have ha : a'.file.takeError.1 = a.file.takeError.1 := by
    have hfault := serve_fault rounds f b a
    rwa [hf'] at hfault
  refine ⟨a', b', (onEvent_eq_iff rfl).mpr ⟨?_, hf'⟩, (onEvent_eq_iff rfl).mpr ⟨?_, he'⟩⟩
  · rw [← hb]
    exact hferror
  · rw [ha]
    exact heerror

end Sluice.Half
