import Sluice.Proofs.Pair.Delivery
import Sluice.Proofs.Socket.Promptness

/-!
# What an event moves

Each half counts its strides: the bytes read from its file, the bytes written to it, and its
connection being made. No handler takes a stride back (`onward_onEvent`). An event that finds its
half ready dooms a half or makes a stride (`onEvent_advances`), unless it is bare: the half is
neither readable nor writable for what it waits for, and no error is pending (`Half.Bare`). A bare
event changes nothing (`onEvent_of_bare`).
-/

namespace Sluice

namespace Half

variable {a a' a'' b b' : Half} {e : Event} {file : File} {data : List UInt8}

/-! ## Strides -/

/-- The bytes that have passed the file, and one more when the connection is made. An event that
leaves this number as it is for both halves has done nothing that could not be done for ever. -/
def strides (a : Half) : Nat :=
  a.file.received.length + a.file.sent.length + if a.session.awaitingConnect then 0 else 1

/-- The half has gone on, or stands where it stood. -/
structure Onward (a a' : Half) : Prop where
  alike : a.Alike a'
  strides : a.strides ≤ a'.strides

theorem Onward.refl (a : Half) : Onward a a :=
  ⟨.refl a, Nat.le_refl _⟩

theorem Onward.trans (h : Onward a a') (h' : Onward a' a'') : Onward a a'' :=
  ⟨h.alike.trans h'.alike, Nat.le_trans h.strides h'.strides⟩

theorem strides_read (hs : a.file.Sound) (hr : a.file.Reads data file) :
    (a.withFile file).strides = a.strides + data.length := by
  obtain ⟨-, hreceived⟩ := hr.received hs
  have hsent := hr.sent
  have hconnect : (a.withFile file).session = a.session := rfl
  have hfile : (a.withFile file).file = file := rfl
  rw [strides, strides, hconnect, hfile, hreceived, hsent, List.length_append]
  omega

theorem strides_takeError (hs : a.file.Sound) : a.takeError.2.strides = a.strides :=
  strides_read hs a.file.takeError_reads

theorem strides_flush (a : Half) :
    a.flush.2.strides + a.file.sent.length = a.strides + a.flush.2.file.sent.length := by
  obtain ⟨data, hw, -, -⟩ := a.session.staging.flush_writes a.file
  have hreceived : a.flush.2.file.received = a.file.received := hw.received
  have hconnect : a.flush.2.session.awaitingConnect = a.session.awaitingConnect := rfl
  simp only [strides, hreceived, hconnect]
  omega

theorem strides_flush_le (a : Half) : a.strides ≤ a.flush.2.strides := by
  obtain ⟨data, hw, -, -⟩ := a.session.staging.flush_writes a.file
  have hstrides := strides_flush a
  have hsent : a.flush.2.file.sent = a.file.sent ++ data := hw.sent
  rw [hsent, List.length_append] at hstrides
  omega

end Half

namespace Outcome

open Half

structure Onward (a b : Half) (r : Outcome) : Prop where
  self : a.strides ≤ r.self.strides
  peer : b.strides ≤ r.peer.strides

theorem Onward.of_eq {a b : Half} {r : Outcome} (hself : r.self.strides = a.strides)
    (hpeer : r.peer.strides = b.strides) : r.Onward a b :=
  ⟨Nat.le_of_eq hself.symm, Nat.le_of_eq hpeer.symm⟩

theorem Onward.trans {a b : Half} {r r' : Outcome} (h : r.Onward a b)
    (h' : r'.Onward r.self r.peer) : r'.Onward a b :=
  ⟨Nat.le_trans h.self h'.self, Nat.le_trans h.peer h'.peer⟩

theorem Onward.next {a b : Half} {r : Outcome} (hon : r.Onward a b) (hk : r.Keeps a b)
    (called : Bool)
    {handler : Half → Half → Outcome} (hh : ∀ a b, Linked a b → (handler a b).Onward a b) :
    (r.next called handler).Onward a b := by
  unfold Outcome.next
  split
  · next hcond =>
    simp only [Bool.and_eq_true, Option.isNone_iff_eq_none] at hcond
    exact hon.trans (hh _ _ (hk.linked_of_none hcond.1))
  · exact hon

/-- A half is doomed, or one of them has made a stride. -/
def Advances (a b : Half) (r : Outcome) : Prop :=
  r.doomed ≠ none ∨ a.strides < r.self.strides ∨ b.strides < r.peer.strides

/-- Handlers that come later make strides at most. They are only asked for when nothing is doomed
yet, and the one that has advanced is not undone by them. -/
theorem Advances.next {a b : Half} {r : Outcome} (h : r.Advances a b) (called : Bool)
    {handler : Half → Half → Outcome}
    (hh : r.doomed = none → (handler r.self r.peer).Onward r.self r.peer) :
    (r.next called handler).Advances a b := by
  unfold Outcome.next
  split
  · next hcond =>
    simp only [Bool.and_eq_true, Option.isNone_iff_eq_none] at hcond
    have hon := hh hcond.1
    rcases h with hdoomed | hself | hpeer
    · exact absurd hcond.1 hdoomed
    · exact Or.inr (Or.inl (Nat.lt_of_lt_of_le hself hon.self))
    · exact Or.inr (Or.inr (Nat.lt_of_lt_of_le hpeer hon.peer))
  · exact h

end Outcome

namespace Half

variable {a b : Half} {e : Event} {file : File} {data : List UInt8}

/-! ## No handler goes back -/

theorem onward_onError (h : Linked a b) : (onError a b).Onward a b :=
  .of_eq (strides_takeError h.there.sound) rfl

theorem onward_relay (rounds : Nat) (h : Linked a b) (hread : a.session.awaitingReadable = true) :
    (relay a b rounds).Onward a b := by
  induction rounds generalizing a b with
  | zero => exact .of_eq rfl rfl
  | succ rounds ih =>
    have hsome := File.readSome_reads a.file b.session.staging.buffer.length
    rw [relay]
    split
    · next file hr =>
      rw [hr] at hsome
      exact .of_eq (strides_read h.there.sound hsome) rfl
    · next file hr =>
      rw [hr] at hsome
      exact .of_eq (strides_read h.there.sound hsome) rfl
    · next e file hr =>
      rw [hr] at hsome
      exact .of_eq (strides_read h.there.sound hsome) rfl
    · next data file hr =>
      rw [hr] at hsome
      have fits := length_readSome_le _ _ hr
      have hself : a.strides ≤ (a.withFile file).strides := by
        rw [strides_read h.there.sound hsome]
        exact Nat.le_add_right ..
      have hpeer : b.strides ≤ (b.stage data fits).flush.2.strides :=
        strides_flush_le (b.stage data fits)
      dsimp only
      split
      · next hfl =>
        have hrest := ih (h.relayed hread hsome fits hfl) hread
        exact ⟨Nat.le_trans hself hrest.self, Nat.le_trans hpeer hrest.peer⟩
      · exact ⟨hself, hpeer⟩
      · exact ⟨hself, hpeer⟩

theorem onward_onReadable (rounds : Nat) (h : Linked a b) : (onReadable rounds a b).Onward a b := by
  unfold onReadable
  split
  · next hread => exact onward_relay rounds h hread
  · exact .of_eq rfl rfl

theorem onward_onConnected (h : Linked a b) : (onConnected a b).Onward a b := by
  have herror := strides_takeError h.there.sound
  unfold onConnected
  dsimp only
  split
  · refine ⟨?_, Nat.le_refl _⟩
    rw [← herror]
    simp only [strides, set]
    split <;> simp
  · exact .of_eq herror rfl

theorem onward_onUnblocked (a b : Half) : (onUnblocked a b).Onward a b := by
  have hflush := strides_flush_le a
  unfold onUnblocked
  dsimp only
  split
  · exact ⟨hflush, Nat.le_refl _⟩
  · exact ⟨hflush, Nat.le_refl _⟩
  · split
    · exact ⟨hflush, Nat.le_refl _⟩
    · exact ⟨hflush, Nat.le_refl _⟩

theorem onward_onWritable (h : Linked a b) : (onWritable a b).Onward a b := by
  unfold onWritable
  split
  · exact onward_onConnected h
  · split
    · exact onward_onUnblocked a b
    · exact .of_eq rfl rfl

/-- No event takes a stride back, whether it dooms a half or not. The connecting flag goes down once
and never up again, and the bytes that have passed a file only become more. -/
theorem onward_onEvent (rounds : Nat) (e : Event) (h : Linked a b) :
    (onEvent rounds e a b).Onward a b := by
  have hk₀ : (⟨none, a, b⟩ : Outcome).Keeps a b := .of_linked (.refl a) (.refl b) h
  have hk₁ := hk₀.next e.error fun _ _ => keeps_onError
  have hk₂ := hk₁.next e.readable fun _ _ => keeps_onReadable rounds
  have hon₀ : (⟨none, a, b⟩ : Outcome).Onward a b := .of_eq rfl rfl
  have hon₁ := hon₀.next hk₀ e.error fun _ _ => onward_onError
  have hon₂ := hon₁.next hk₁ e.readable fun _ _ => onward_onReadable rounds
  exact hon₂.next hk₂ e.writable fun _ _ => onward_onWritable

theorem onEvent_onward (rounds : Nat) (e : Event) (h : Linked a b) :
    Onward a (onEvent rounds e a b).self ∧ Onward b (onEvent rounds e a b).peer := by
  have hk := keeps_onEvent rounds e h
  have hon := onward_onEvent rounds e h
  exact ⟨⟨hk.self, hon.self⟩, ⟨hk.peer, hon.peer⟩⟩

/-! ## Handlers that find their half ready -/

/-- A relay that is not told to wait reads something, or dooms a half. It needs only its first round
for that; the others do not take the stride back. -/
theorem relay_advances (rounds : Nat) (h : Linked a b) (hread : a.session.awaitingReadable = true)
    (hsome : (readSome a.file b.session.staging.buffer.length).1 ≠ .wouldBlock) :
    (relay a b (rounds + 1)).Advances a b := by
  have hreads := File.readSome_reads a.file b.session.staging.buffer.length
  rw [relay]
  split
  · next file hr => exact absurd (congrArg Prod.fst hr) hsome
  · exact Or.inl (Option.some_ne_none _)
  · exact Or.inl (Option.some_ne_none _)
  · next data file hr =>
    have hne : data ≠ [] := readSome_ne_nil (congrArg Prod.fst hr)
    rw [hr] at hreads
    have fits := length_readSome_le _ _ hr
    have hself : a.strides < (a.withFile file).strides := by
      have hlen := List.length_pos_iff.mpr hne
      have hstrides : (a.withFile file).strides = a.strides + data.length :=
        strides_read h.there.sound hreads
      omega
    dsimp only
    split
    · next hfl =>
      have hrest := onward_relay rounds (h.relayed hread hreads fits hfl) hread
      exact Or.inr (Or.inl (Nat.lt_of_lt_of_le hself hrest.self))
    · exact Or.inr (Or.inl hself)
    · exact Or.inl (Option.some_ne_none _)

theorem onConnected_advances (h : Linked a b) (hc : a.session.awaitingConnect = true)
    (hfault : a.file.fault? = none) : (onConnected a b).Advances a b := by
  have herror := strides_takeError h.there.sound
  have hnot : a.takeError.1 ≠ some (.os .inProgress) := File.takeError_ne_inProgress hfault
  have hc' : a.takeError.2.session.awaitingConnect = true := hc
  unfold onConnected
  dsimp only
  split
  · refine Or.inr (Or.inl ?_)
    rw [← herror]
    simp only [strides, set, hc']
    simp
  · next err he =>
    rw [he] at hnot
    rw [if_neg fun heq => hnot (congrArg some heq)]
    exact Or.inl (Option.some_ne_none _)

/-- A flush to a file that is writable writes something, or fails. That a writable file takes at
least one byte is what makes it prompt. -/
theorem flush_advances (hp : a.file.Prompt) (hready : a.file.ready.writable = true)
    (hpos : 0 < a.session.pending) :
    (∃ e, a.flush.1 = .failed e) ∨ a.strides < a.flush.2.strides := by
  refine (a.file.flush_prompt a.session.staging hp hready hpos).imp_right fun hsent => ?_
  have hsent : a.file.sent.length < a.flush.2.file.sent.length := hsent
  have hstrides := strides_flush a
  omega

theorem onUnblocked_advances (hp : a.file.Prompt) (hready : a.file.ready.writable = true)
    (hpos : 0 < a.session.pending) (b : Half) : (onUnblocked a b).Advances a b := by
  have hstride (hok : ∀ e, a.flush.1 ≠ .failed e) : a.strides < a.flush.2.strides :=
    (flush_advances hp hready hpos).resolve_left fun ⟨e, he⟩ => hok e he
  unfold onUnblocked
  dsimp only
  split
  · next hfl => exact Or.inr (Or.inl (hstride (by rw [hfl]; exact nofun)))
  · exact Or.inl (Option.some_ne_none _)
  · next hfl =>
    split
    · exact Or.inl (Option.some_ne_none _)
    · exact Or.inr (Or.inl (hstride (by rw [hfl]; exact nofun)))

/-! ## Events that find their half ready -/

/-- The event is what a poller reports of the half. -/
def Reported (e : Event) (a : Half) : Prop :=
  a.file.ready.event? e.token a.session.interest = some e

/-- The event says that the half is neither readable nor writable for what it waits for, and no
error is pending. -/
structure Bare (e : Event) (a : Half) : Prop where
  readable : e.readable = false
  writable : e.writable = false
  error : a.file.takeError.1 = none

theorem Reported.fields (h : Reported e a) :
    e.readable = (a.file.ready.readable && a.session.awaitingReadable)
      ∧ e.writable
        = (a.file.ready.writable && (a.session.awaitingConnect || a.session.awaitingWritable))
      ∧ e.error = a.file.ready.error := by
  grind [Reported, Conditions.event?, Session.interest]

/-- An event that is not bare tells of a pending error, or of a half that is ready without one. -/
theorem Reported.cases (h : Reported e a) (hbare : ¬ Bare e a) :
    (e.error = true ∧ a.file.takeError.1 ≠ none)
      ∨ (a.file.fault? = none ∧ (e.error = true → a.file.takeError.1 = none)
        ∧ (e.readable = true ∨ e.writable = true)) := by
  obtain ⟨-, -, herror⟩ := h.fields
  by_cases hnone : a.file.takeError.1 = none
  · refine Or.inr ⟨File.fault?_eq_none hnone, fun _ => hnone, ?_⟩
    by_contra hneither
    rw [not_or, Bool.not_eq_true, Bool.not_eq_true] at hneither
    exact hbare ⟨hneither.1, hneither.2, hnone⟩
  · cases he : e.error with
    | true => exact Or.inl ⟨rfl, hnone⟩
    | false =>
      -- a pending error would have been reported, and an event reports something
      refine Or.inr ⟨?_, nofun, ?_⟩
      · by_contra hfault
        rw [File.ready_error hfault, he] at herror
        cases herror
      · have hquiet : e.isQuiet = false := by
          grind [Reported, Conditions.event?]
        grind [Event.isQuiet]

/-- The one thing that a bare event reports is that both directions of a socket are shut. It is
reported whatever is asked for, which is how a half that waits for nothing gets an event at all. -/
theorem Bare.hungUp (hb : Bare e a) (h : Reported e a) :
    ∃ s, a.file = .stream s ∧ s.hungUp = true := by
  obtain ⟨-, -, herror⟩ := h.fields
  have herror' : a.file.ready.error = true := by
    rw [← herror]
    have hquiet : e.isQuiet = false := by
      grind [Reported, Conditions.event?]
    simpa [Event.isQuiet, hb.readable, hb.writable] using hquiet
  have hfault := File.fault?_eq_none hb.error
  cases hfile : a.file with
  | stream s =>
    rw [hfile] at hfault herror'
    have hnone : s.nearFault = none := hfault
    rw [File.ready, Stream.conditions, hnone] at herror'
    exact ⟨s, rfl, herror'⟩
  | device b =>
    rw [hfile] at herror'
    cases herror'

theorem takeError_of_none (h : e.error = true → a.file.takeError.1 = none) :
    (if e.error then a.takeError else (none, a)) = (none, a) := by
  split
  · next he =>
    rw [takeError, h he, File.takeError_eq (h he)]
    rfl
  · rfl

theorem next_onError_of_none (h : e.error = true → a.file.takeError.1 = none) (b : Half) :
    (⟨none, a, b⟩ : Outcome).next e.error onError = ⟨none, a, b⟩ := by
  have hsame := takeError_of_none h
  cases he : e.error with
  | false => rfl
  | true =>
    rw [he, if_pos rfl] at hsame
    rw [Outcome.next, Option.isNone_none, Bool.true_and, if_pos rfl, onError, hsame]
    rfl

/-- A bare event changes nothing. -/
theorem onEvent_of_bare (rounds : Nat) (h : Bare e a) (b : Half) :
    onEvent rounds e a b = ⟨none, a, b⟩ := by
  rw [onEvent, next_onError_of_none (fun _ => h.error), h.readable, h.writable]
  rfl

theorem onReadable_advances {rounds : Nat} (h : Linked a b) (hrounds : 0 < rounds)
    (hp : a.file.Prompt) (hfault : a.file.fault? = none) (hready : a.file.ready.readable = true)
    (hread : a.session.awaitingReadable = true) : (onReadable rounds a b).Advances a b := by
  obtain ⟨n, rfl⟩ := Nat.exists_eq_succ_of_ne_zero (Nat.ne_of_gt hrounds)
  rw [onReadable, if_pos hread]
  exact relay_advances n h hread (File.readSome_prompt hp hready hfault)

theorem onWritable_advances (h : Linked a b) (hp : a.file.Prompt) (hfault : a.file.fault? = none)
    (hready : a.file.ready.writable = true)
    (hwaits : a.session.awaitingConnect = true ∨ a.session.awaitingWritable = true) :
    (onWritable a b).Advances a b := by
  unfold onWritable
  split
  · next hc => exact onConnected_advances h hc hfault
  · next hc =>
    have hw := hwaits.resolve_left hc
    rw [if_pos hw]
    exact onUnblocked_advances hp hready (h.paired.there.settled.mp hw) b

/-- An event that is not bare dooms a half or makes a stride. The handler that does so is the first
one whose condition is met; those before it change nothing. -/
theorem onEvent_advances {rounds : Nat} (h : Linked a b) (hrounds : 0 < rounds)
    (hp : a.file.Prompt) (hreport : Reported e a) (hbare : ¬ Bare e a) :
    (onEvent rounds e a b).Advances a b := by
  obtain ⟨hreadable, hwritable, -⟩ := hreport.fields
  have hlater {r : Outcome} (hk : r.Keeps a b) (hadv : r.Advances a b) :
      (r.next e.writable onWritable).Advances a b :=
    hadv.next e.writable fun hd => onward_onWritable (hk.linked_of_none hd)
  have hk₀ : (⟨none, a, b⟩ : Outcome).Keeps a b := .of_linked (.refl a) (.refl b) h
  have hk₁ := hk₀.next e.error fun _ _ => keeps_onError
  have hk₂ := hk₁.next e.readable fun _ _ => keeps_onReadable rounds
  rw [onEvent]
  rcases hreport.cases hbare with ⟨herror, hsome⟩ | ⟨hfault, hnone, hready⟩
  · -- the pending error dooms the half, and no other handler is called
    have hdoomed : (onError a b).Advances a b := by
      refine Or.inl ?_
      have hsome : a.takeError.1.isSome = true := Option.isSome_iff_ne_none.mpr hsome
      rw [onError, hsome]
      exact nofun
    have hadv : ((⟨none, a, b⟩ : Outcome).next e.error onError).Advances a b := by
      rw [Outcome.next, herror]
      exact hdoomed
    exact hlater hk₂
      (hadv.next e.readable fun hd => onward_onReadable rounds (hk₁.linked_of_none hd))
  · -- asking for an error changes nothing
    rw [next_onError_of_none hnone] at hk₂ ⊢
    by_cases hr : e.readable = true
    · refine hlater hk₂ ?_
      rw [hr, eq_comm, Bool.and_eq_true] at hreadable
      rw [Outcome.next, hr]
      exact onReadable_advances h hrounds hp hfault hreadable.1 hreadable.2
    · have hw := hready.resolve_left hr
      rw [Bool.not_eq_true] at hr
      rw [hw, eq_comm, Bool.and_eq_true, Bool.or_eq_true] at hwritable
      rw [hr, hw]
      exact onWritable_advances h hp hfault hwritable.1 hwritable.2

/-! ## Halves left alone -/

theorem drain_of_bare (h : Bare e a) : drain e a = (false, a) := by
  rw [drain, takeError_of_none fun _ => h.error, h.writable]
  rfl

theorem drain_onward (e : Event) (h : Draining a) : Onward a (drain e a).2 := by
  obtain ⟨hlike, -, -⟩ := draining_drain e h
  refine ⟨hlike, ?_⟩
  have herror : (if e.error then a.takeError else (none, a)).2.strides = a.strides := by
    split
    · exact strides_takeError h.sound
    · rfl
  unfold drain
  dsimp only
  generalize (if e.error then a.takeError else (none, a)) = r at herror ⊢
  split
  · exact Nat.le_of_eq herror.symm
  · split
    · rw [← herror]
      exact strides_flush_le r.2
    · exact Nat.le_of_eq herror.symm

/-- An event that is not bare dooms a half that was left alone, or makes a stride. -/
theorem drain_advances (h : Draining a) (hp : a.file.Prompt) (hreport : Reported e a)
    (hbare : ¬ Bare e a) : (drain e a).1 = true ∨ a.strides < (drain e a).2.strides := by
  obtain ⟨hreadable, hwritable, -⟩ := hreport.fields
  rw [h.session.paused, Bool.and_false] at hreadable
  rcases hreport.cases hbare with ⟨herror, hsome⟩ | ⟨-, hnone, hready⟩
  · refine Or.inl ?_
    have hsome : a.takeError.1.isSome = true := Option.isSome_iff_ne_none.mpr hsome
    rw [drain, herror, if_pos rfl, if_pos hsome]
  · have hw := hready.resolve_left (by rw [hreadable]; exact nofun)
    rw [hw, eq_comm, Bool.and_eq_true] at hwritable
    rw [drain, takeError_of_none hnone, hw]
    simp only [Option.isSome_none, Bool.false_eq_true, if_false, if_true, decide_eq_true_eq]
    rcases flush_advances hp hwritable.1 h.session.pending with ⟨err, hfl⟩ | hstride
    · rw [hfl]
      exact Or.inl nofun
    · exact Or.inr hstride

end Half

end Sluice
