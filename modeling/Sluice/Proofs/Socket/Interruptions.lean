import Sluice.Session.Staging
import Sluice.Socket.Script
import Sluice.Socket.Stream

/-!
# Interruptions go unseen

An interrupted call is made again, so whoever reads, writes and flushes does not see whether calls
were interrupted. Two streams are compared, of which the second is the first with interruptions put
in: each of its calls is interrupted and leaves it behind the first as before, or is answered as the
first answers it (`Stutters`). Transfers and flushes then come to the same on both
(`Stutters.readSome`, `Stutters.writeSome`, `Stutters.flush`), and so does any number of them in a
row (`Stutters.performAll`).

Scripts are such streams, with interruptions anywhere in the list of their steps
(`Script.interruptions_unseen`), and so are the sockets of a worker, with interruptions anywhere in
what they hold in store (`Stream.errands_alike`).
-/

namespace Sluice

/-! ## Lists with elements put in -/

section

variable {α : Type}

/-- The second list is the first with so many elements more, put in anywhere, of which `p` holds.
The same list may be padded in several ways, and nothing here depends on which one it was. -/
inductive Padded (p : α → Prop) : Nat → List α → List α → Prop
  | nil : Padded p 0 [] []
  | keep (x : α) {k : Nat} {xs ys : List α} (h : Padded p k xs ys) : Padded p k (x :: xs) (x :: ys)
  | insert {y : α} (hy : p y) {k : Nat} {xs ys : List α} (h : Padded p k xs ys) :
      Padded p (k + 1) xs (y :: ys)

end

/-! ## Calls that are made again -/

section

variable {σ τ α β : Type} [ByteStream σ] [ByteStream τ] {R : σ → τ → Prop} {s : σ} {t : τ}
variable {call : σ → Except IoError α × σ} {call' : τ → Except IoError α × τ}
variable {judge : Except IoError α → β} {loop : σ → β × σ} {loop' : τ → β × τ}

/-- The loop makes a call, makes it again while it is interrupted, and judges the first other
answer. -/
structure Retries (call : σ → Except IoError α × σ) (judge : Except IoError α → β)
    (loop : σ → β × σ) : Prop where
  again : ∀ s, interruptedCall (call s).1 = true → loop s = loop (call s).2
  answered : ∀ s, ¬ interruptedCall (call s).1 = true → loop s = (judge (call s).1, (call s).2)
  fewer : ∀ s, interruptedCall (call s).1 = true →
    ByteStream.interruptions (call s).2 < ByteStream.interruptions s

theorem retries_read (n : Nat) :
    Retries (fun s : σ => ByteStream.read s n) ReadOutcome.ofAnswer (fun s => readSome s n) where
  again s h := by
    rw [readSome]
    simp [h]
  answered s h := by
    rw [readSome]
    simp [h]
  fewer s h := by
    obtain ⟨e, he, hkind⟩ := interruptedCall_iff.mp h
    exact ByteStream.interruptions_read s n e he hkind

theorem retries_write (data : List UInt8) (hdata : data ≠ []) :
    Retries (fun s : σ => ByteStream.write s data) WriteOutcome.ofAnswer
      (fun s => writeSome s data hdata) where
  again s h := by
    rw [writeSome]
    simp [h]
  answered s h := by
    rw [writeSome]
    simp [h]
  fewer s h := by
    obtain ⟨e, he, hkind⟩ := interruptedCall_iff.mp h
    exact ByteStream.interruptions_write s data e he hkind

/-- Each call on the second stream is interrupted, and it stays behind the first as it was, or it is
answered as on the first, and both go on. -/
def Lags (R : σ → τ → Prop) (call : σ → Except IoError α × σ)
    (call' : τ → Except IoError α × τ) : Prop :=
  ∀ s t, R s t → (interruptedCall (call' t).1 = true ∧ R s (call' t).2)
    ∨ ((call' t).1 = (call s).1 ∧ R (call s).2 (call' t).2)

/-- The loop does not see whether a call lags. The induction is on the interruptions that the second
stream has in store; the first stream makes a call with it unless the interruption was put in. -/
theorem Retries.unseen (h : Retries call judge loop) (h' : Retries call' judge loop')
    (hlags : Lags R call call')
    (hr : R s t) : (loop' t).1 = (loop s).1 ∧ R (loop s).2 (loop' t).2 := by
  induction hstore : ByteStream.interruptions t using Nat.strongRecOn generalizing s t with
  | ind store ih =>
    subst hstore
    by_cases hinterrupted : interruptedCall (call' t).1 = true
    · have hless := h'.fewer t hinterrupted
      rw [h'.again t hinterrupted]
      rcases hlags s t hr with ⟨-, hr'⟩ | ⟨hsame, hr'⟩
      · exact ih _ hless hr' rfl
      · rw [h.again s (hsame ▸ hinterrupted)]
        exact ih _ hless hr' rfl
    · rcases hlags s t hr with ⟨hinserted, -⟩ | ⟨hsame, hr'⟩
      · exact absurd hinserted hinterrupted
      · rw [h'.answered t hinterrupted, h.answered s (hsame ▸ hinterrupted)]
        exact ⟨congrArg judge hsame, hr'⟩

end

/-! ## Streams that stutter -/

/-- What a session can be asked to do with its stream. Bytes that do not fit into its buffer are not
staged. -/
inductive Errand where
  | read (n : Nat)
  | write (data : List UInt8) (nonempty : data ≠ [])
  | stage (data : List UInt8)
  | flush

inductive Errand.Outcome where
  | read (o : ReadOutcome)
  | write (o : WriteOutcome)
  | staged (pending : Nat)
  | flushed (o : Flush)
  deriving DecidableEq, Repr

section

variable {σ τ : Type} [ByteStream σ] [ByteStream τ] {R : σ → τ → Prop} {s : σ} {t : τ}

def Errand.perform (st : Staging) (s : σ) : Errand → Errand.Outcome × Staging × σ
  | .read n => let r := readSome s n; (.read r.1, st, r.2)
  | .write data nonempty => let r := writeSome s data nonempty; (.write r.1, st, r.2)
  | .stage data =>
    let st := if fits : data.length ≤ st.buffer.length then st.stage data fits else st
    (.staged st.pending, st, s)
  | .flush => let r := st.flush s; (.flushed r.1, r.2.1, r.2.2)

def Errand.performAll (st : Staging) (s : σ) : List Errand → List Errand.Outcome × Staging × σ
  | [] => ([], st, s)
  | e :: rest =>
    let r := e.perform st s
    let all := performAll r.2.1 r.2.2 rest
    (r.1 :: all.1, all.2)

/-- The second stream is the first with interruptions put in, as far as calls show. It is enough to
know this of single calls; the loops around them are made to go over interruptions. -/
structure Stutters (R : σ → τ → Prop) : Prop where
  read : ∀ n, Lags R (fun s => ByteStream.read s n) (fun t => ByteStream.read t n)
  write : ∀ data, Lags R (fun s => ByteStream.write s data) (fun t => ByteStream.write t data)

namespace Stutters

theorem readSome (h : Stutters R) (hr : R s t) (n : Nat) :
    (readSome t n).1 = (readSome s n).1 ∧ R (readSome s n).2 (readSome t n).2 :=
  (retries_read n).unseen (retries_read n) (h.read n) hr

theorem writeSome (h : Stutters R) (hr : R s t) (data : List UInt8) (hdata : data ≠ []) :
    (writeSome t data hdata).1 = (writeSome s data hdata).1
      ∧ R (writeSome s data hdata).2 (writeSome t data hdata).2 :=
  (retries_write data hdata).unseen (retries_write data hdata) (h.write data) hr

theorem writeSome_eq (h : Stutters R) (hr : R s t) {data : List UInt8} (hdata : data ≠ [])
    {o : WriteOutcome}
    {s' : σ} (hwrite : Sluice.writeSome s data hdata = (o, s')) :
    ∃ t', Sluice.writeSome t data hdata = (o, t') ∧ R s' t' := by
  obtain ⟨hsame, hr'⟩ := h.writeSome hr data hdata
  rw [hwrite] at hsame hr'
  exact ⟨_, Prod.ext hsame rfl, hr'⟩

/-- A flush sees no interruption between its writes either. The induction is on what is left of the
window, which both flushes have in common. -/
theorem flush (h : Stutters R) (hr : R s t) (st : Staging) :
    (st.flush t).1 = (st.flush s).1 ∧ (st.flush t).2.1 = (st.flush s).2.1
      ∧ R (st.flush s).2.2 (st.flush t).2.2 := by
  fun_induction Staging.flush st s generalizing t with
  | case1 st s hopen n hpos s' hwrite ih =>
    obtain ⟨t', hwrite', hr'⟩ := h.writeSome_eq hr (Staging.window_ne_nil hopen) hwrite
    rw [Staging.flush, dif_pos hopen, hwrite']
    exact ih hr'
  | case2 st s hopen s' hwrite =>
    obtain ⟨t', hwrite', hr'⟩ := h.writeSome_eq hr (Staging.window_ne_nil hopen) hwrite
    rw [Staging.flush, dif_pos hopen, hwrite']
    exact ⟨rfl, rfl, hr'⟩
  | case3 st s hopen e s' hwrite =>
    obtain ⟨t', hwrite', hr'⟩ := h.writeSome_eq hr (Staging.window_ne_nil hopen) hwrite
    rw [Staging.flush, dif_pos hopen, hwrite']
    exact ⟨rfl, rfl, hr'⟩
  | case4 st s hclosed =>
    rw [Staging.flush, dif_neg hclosed]
    exact ⟨rfl, rfl, hr⟩

theorem perform (h : Stutters R) (hr : R s t) (st : Staging) (e : Errand) :
    (e.perform st t).1 = (e.perform st s).1 ∧ (e.perform st t).2.1 = (e.perform st s).2.1
      ∧ R (e.perform st s).2.2 (e.perform st t).2.2 := by
  cases e with
  | read n =>
    obtain ⟨hsame, hr'⟩ := h.readSome hr n
    exact ⟨congrArg _ hsame, rfl, hr'⟩
  | write data nonempty =>
    obtain ⟨hsame, hr'⟩ := h.writeSome hr data nonempty
    exact ⟨congrArg _ hsame, rfl, hr'⟩
  | stage data => exact ⟨rfl, rfl, hr⟩
  | flush =>
    obtain ⟨hsame, hstaging, hr'⟩ := h.flush hr st
    exact ⟨congrArg _ hsame, hstaging, hr'⟩

theorem performAll (h : Stutters R) (hr : R s t) (st : Staging) (es : List Errand) :
    (Errand.performAll st t es).1 = (Errand.performAll st s es).1
      ∧ (Errand.performAll st t es).2.1 = (Errand.performAll st s es).2.1
      ∧ R (Errand.performAll st s es).2.2 (Errand.performAll st t es).2.2 := by
  induction es generalizing s t st with
  | nil => exact ⟨rfl, rfl, hr⟩
  | cons e es ih =>
    obtain ⟨hsame, hstaging, hr'⟩ := h.perform hr st e
    simp only [Errand.performAll, hsame, hstaging]
    obtain ⟨hrest, hafter⟩ := ih hr' (e.perform st s).2.1
    exact ⟨congrArg _ hrest, hafter⟩

end Stutters

end

/-! ## Scripts -/

namespace Script

variable {total left spent : Nat} {s t : Script}

def Interrupts (step : ScriptStep) : Prop :=
  ∃ e, step = .fails e ∧ e.kind = .interrupted

/-- The second script came with `total` interruptions more than the first. Some are left, and each
of the others was spent on a call. -/
def Trails (total : Nat) (s t : Script) : Prop :=
  ∃ left spent, left + spent = total ∧ Padded Interrupts left s.steps t.steps
    ∧ t.written = s.written
    ∧ t.calls = s.calls + spent

theorem stutters (total : Nat) : Stutters (Trails total) where
  read n := by
    rintro ⟨steps, calls, written⟩ ⟨steps', calls', written'⟩ ⟨left, spent, rfl, hpadded,
      hwritten, hcalls⟩
    obtain rfl : written' = written := hwritten
    obtain rfl : calls' = calls + spent := hcalls
    cases hpadded with
    | nil => exact Or.inr ⟨rfl, 0, spent, rfl, .nil, rfl, Nat.add_right_comm ..⟩
    | keep step h =>
      right
      cases step <;> exact ⟨rfl, left, spent, rfl, h, rfl, Nat.add_right_comm ..⟩
    | @insert _ hy left _ _ h =>
      obtain ⟨e, rfl, hkind⟩ := hy
      exact Or.inl ⟨interruptedCall_iff.mpr ⟨e, rfl, hkind⟩, left, spent + 1, by omega, h, rfl, rfl⟩
  write data := by
    rintro ⟨steps, calls, written⟩ ⟨steps', calls', written'⟩ ⟨left, spent, rfl, hpadded,
      hwritten, hcalls⟩
    obtain rfl : written' = written := hwritten
    obtain rfl : calls' = calls + spent := hcalls
    cases hpadded with
    | nil => exact Or.inr ⟨rfl, 0, spent, rfl, .nil, rfl, Nat.add_right_comm ..⟩
    | keep step h =>
      right
      cases step <;> exact ⟨rfl, left, spent, rfl, h, rfl, Nat.add_right_comm ..⟩
    | @insert _ hy left _ _ h =>
      obtain ⟨e, rfl, hkind⟩ := hy
      exact Or.inl ⟨interruptedCall_iff.mpr ⟨e, rfl, hkind⟩, left, spent + 1, by omega, h, rfl, rfl⟩

/-- Any number of reads, writes and flushes come to the same on a script and on the same script with
interruptions put in anywhere: the same outcomes with the same bytes, the same window left, the same
bytes written. There are as many calls more as interruptions were spent; the others are left in the
script. -/
theorem interruptions_unseen {k : Nat} {steps : List ScriptStep}
    (h : Padded Interrupts k s.steps steps)
    (st : Staging) (es : List Errand) :
    let plain := Errand.performAll st s es
    let padded := Errand.performAll st { s with steps } es
    padded.1 = plain.1 ∧ padded.2.1 = plain.2.1 ∧ padded.2.2.written = plain.2.2.written
      ∧ ∃ left spent, left + spent = k ∧ Padded Interrupts left plain.2.2.steps padded.2.2.steps
        ∧ padded.2.2.calls = plain.2.2.calls + spent := by
  intro plain padded
  have htrails : Trails k s { s with steps } := ⟨k, 0, rfl, h, rfl, rfl⟩
  obtain ⟨hsame, hstaging, left, spent, hk, hleft, hwritten, hcalls⟩ :=
    (stutters k).performAll htrails st es
  exact ⟨hsame, hstaging, hwritten, left, spent, hk, hleft, hcalls⟩

/-- Five staged bytes, and three interruptions: before the first write, between the writes of the
second flush and before a read. -/
theorem interruptions_unseen_three :
    ∃ (s : Script) (steps : List ScriptStep), Padded Interrupts 3 s.steps steps
      ∧ (Errand.performAll (.empty (.blank 8)) { s with steps }
          [.stage [10, 11, 12, 13, 14], .flush, .flush, .read 4]).1
        = [.staged 5, .flushed .wouldBlock, .flushed .complete, .read (.done [1])]
      ∧ (Errand.performAll (.empty (.blank 8)) { s with steps }
          [.stage [10, 11, 12, 13, 14], .flush, .flush, .read 4]).2.2.written
            = [10, 11, 12, 13, 14] := by
  let s : Script :=
    { steps := [.accepts 2, .fails (.os .tryAgain), .accepts 1, .accepts 8, .delivers [1]] }
  have hinterrupts : Interrupts (.fails (.os .interrupted)) := ⟨_, rfl, rfl⟩
  have hpadded : Padded Interrupts 3 s.steps
      [.fails (.os .interrupted), .accepts 2, .fails (.os .tryAgain), .accepts 1,
        .fails (.os .interrupted), .accepts 8, .fails (.os .interrupted), .delivers [1]] :=
    .insert hinterrupts <| .keep _ <| .keep _ <| .keep _ <| .insert hinterrupts <| .keep _ <|
      .insert hinterrupts <| .keep _ .nil
  obtain ⟨hsame, -, hwritten, -⟩ := interruptions_unseen hpadded (.empty (.blank 8))
    [.stage [10, 11, 12, 13, 14], .flush, .flush, .read 4]
  refine ⟨s, _, hpadded, ?_, ?_⟩
  · rw [hsame]
    decide +kernel
  · rw [hwritten]
    decide +kernel

end Script

/-! ## Sockets -/

namespace Stream

variable {rs rs' ws ws' : List Disturbance} {j k : Nat}

def withStore (s : Stream) (rs ws : List Disturbance) : Stream :=
  { s with reads := rs, writes := ws }

theorem readFreely_withStore (s : Stream) (rs ws : List Disturbance) (n : Nat) :
    (s.withStore rs ws).readFreely n
      = ((s.readFreely n).1, (s.readFreely n).2.withStore rs ws) := by
  have hobstacle : (s.withStore rs ws).obstacle? = s.obstacle? := rfl
  have hinbound : (s.withStore rs ws).inbound = s.inbound := rfl
  have hfault : (s.withStore rs ws).nearFault = s.nearFault := rfl
  rw [readFreely, readFreely, hobstacle, hinbound, hfault]
  cases s.obstacle? with
  | some e => rfl
  | none =>
    cases s.inbound.isEmpty with
    | true => cases s.nearFault <;> cases s.inbound.shut <;> rfl
    | false => rfl

theorem writeFreely_withStore (s : Stream) (rs ws : List Disturbance) (data : List UInt8) :
    (s.withStore rs ws).writeFreely data
      = ((s.writeFreely data).1, (s.writeFreely data).2.withStore rs ws) := by
  have hobstacle : (s.withStore rs ws).obstacle? = s.obstacle? := rfl
  have houtbound : (s.withStore rs ws).outbound = s.outbound := rfl
  have hjammed : (s.withStore rs ws).jammed = s.jammed := rfl
  rw [writeFreely, writeFreely, hobstacle, houtbound, hjammed]
  cases s.obstacle? with
  | some e => rfl
  | none => cases s.outbound.shut <;> cases s.jammed <;> rfl

/-- The second stream has interruptions in store that the first has not. -/
inductive Trails : Stream → Stream → Prop
  | intro (s : Stream) {j k : Nat} {rs rs' ws ws' : List Disturbance}
      (hreads : Padded (· = .interrupted) j rs rs') (hwrites : Padded (· = .interrupted) k ws ws') :
      Trails (s.withStore rs ws) (s.withStore rs' ws')

theorem trails_readFreely (s : Stream) (n : Nat) (hreads : Padded (· = .interrupted) j rs rs')
    (hwrites : Padded (· = .interrupted) k ws ws') :
    ((s.withStore rs' ws').readFreely n).1 = ((s.withStore rs ws).readFreely n).1
      ∧ Trails ((s.withStore rs ws).readFreely n).2 ((s.withStore rs' ws').readFreely n).2 := by
  rw [readFreely_withStore, readFreely_withStore]
  exact ⟨rfl, _, hreads, hwrites⟩

theorem trails_writeFreely (s : Stream) (data : List UInt8)
    (hreads : Padded (· = .interrupted) j rs rs')
    (hwrites : Padded (· = .interrupted) k ws ws') :
    ((s.withStore rs' ws').writeFreely data).1 = ((s.withStore rs ws).writeFreely data).1
      ∧ Trails ((s.withStore rs ws).writeFreely data).2
        ((s.withStore rs' ws').writeFreely data).2 := by
  rw [writeFreely_withStore, writeFreely_withStore]
  exact ⟨rfl, _, hreads, hwrites⟩

theorem stutters : Stutters Trails where
  read n := by
    rintro _ _ ⟨s, hreads, hwrites⟩
    cases hreads with
    | nil => exact Or.inr (trails_readFreely s n .nil hwrites)
    | keep d h =>
      right
      cases d with
      | interrupted => exact ⟨rfl, s, h, hwrites⟩
      | wouldBlock => exact ⟨rfl, s, h, hwrites⟩
      | failed e => exact ⟨rfl, s, h, hwrites⟩
      | short limit => exact trails_readFreely s (min n (limit + 1)) h hwrites
    | insert hd h =>
      subst hd
      exact Or.inl ⟨rfl, s, h, hwrites⟩
  write data := by
    rintro _ _ ⟨s, hreads, hwrites⟩
    cases hwrites with
    | nil => exact Or.inr (trails_writeFreely s data hreads .nil)
    | keep d h =>
      right
      cases d with
      | interrupted => exact ⟨rfl, s, hreads, h⟩
      | wouldBlock => exact ⟨rfl, s, hreads, h⟩
      | failed e => exact ⟨rfl, s, hreads, h⟩
      | short limit => exact trails_writeFreely s (data.take (limit + 1)) hreads h
    | insert hd h =>
      subst hd
      exact Or.inl ⟨rfl, s, hreads, h⟩

/-- Nor does a session see interruptions of its socket. The stream is one of those that relayed
sessions have, with everything else about it as it is: bytes, errors and a far end that may be
gone. -/
theorem errands_alike (s : Stream) (hreads : Padded (· = .interrupted) j rs rs')
    (hwrites : Padded (· = .interrupted) k ws ws') (st : Staging) (es : List Errand) :
    let plain := Errand.performAll st (s.withStore rs ws) es
    let padded := Errand.performAll st (s.withStore rs' ws') es
    padded.1 = plain.1 ∧ padded.2.1 = plain.2.1 ∧ Trails plain.2.2 padded.2.2 :=
  stutters.performAll (.intro s hreads hwrites) st es

end Stream

end Sluice
