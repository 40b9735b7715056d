import Sluice.Proofs.Pair.Progress

/-!
# Reports that are not lost

What a poller reports of a half it can report again as long as the half stays as ready and asks for
no less (`Half.Heeds`, `Half.Heeds.reported`). That is what the events of its peer leave to it:
their handlers do not read from the half, what they write to it changes none of its conditions, and
they take no interest away, they only let the half read again or wait for its own writes
(`Half.heeds_onEvent`).
-/

namespace Sluice

/-! ## Reports -/

/-- The event tells of the same descriptor, and of all the conditions that `e` tells of. It may tell
of more, since a condition can come about while a report waits. -/
structure Event.Covers (e' e : Event) : Prop where
  token : e'.token = e.token
  readable : e.readable = true → e'.readable = true
  writable : e.writable = true → e'.writable = true
  error : e.error = true → e'.error = true

/-- Who asks for no less is told no less. With the same conditions it is told nothing only if it
asks for nothing that holds, and then it was told nothing before. -/
theorem Conditions.event?_covers {c : Conditions} {t : Token} {i i' : Interest} {e : Event}
    (hread : i.read = true → i'.read = true) (hwrite : i.write = true → i'.write = true)
    (h : c.event? t i = some e) : ∃ e', c.event? t i' = some e' ∧ e'.Covers e := by
  have htoken := token_of_event? h
  cases h' : c.event? t i' with
  | none =>
    -- what keeps the second quiet keeps the first quiet
    rw [event?_eq_none_iff] at h'
    rw [event?_eq_none_iff.mpr (by grind)] at h
    cases h
  | some e' =>
    refine ⟨e', rfl, (token_of_event? h').trans htoken.symm, ?_, ?_, ?_⟩ <;> grind [event?]

theorem File.Writes.ready {f f' : File} {data : List UInt8} (h : f.Writes data f') :
    f'.ready = f.ready := by
  cases h with
  | stream h =>
    have hrest := h.rest
    have hjammed := congrArg Stream.jammed hrest
    have hfault := congrArg Stream.nearFault hrest
    simp only [File.ready, Stream.conditions, Stream.hungUp, h.inbound, h.shut] at *
    rw [hjammed, hfault]
  | device b => rfl

namespace Half

variable {a a' a'' b : Half} {e : Event}

/-! ## Halves that stay heedful -/

/-- The half is as ready as before, and asks for no less. Interest may be added, which happens when
its peer is connected or lets it read again, and never taken away. -/
structure Heeds (a a' : Half) : Prop where
  ready : a'.file.ready = a.file.ready
  read : a.session.interest.read = true → a'.session.interest.read = true
  write : a.session.interest.write = true → a'.session.interest.write = true

theorem Heeds.refl (a : Half) : Heeds a a :=
  ⟨rfl, id, id⟩

theorem Heeds.trans (h : Heeds a a') (h' : Heeds a' a'') : Heeds a a'' :=
  ⟨h'.ready.trans h.ready, h'.read ∘ h.read, h'.write ∘ h.write⟩

/-- What was reported of the half is reported again. -/
theorem Heeds.reported (h : Heeds a a') (hreport : Reported e a) :
    ∃ e', e'.Covers e ∧ Reported e' a' := by
  obtain ⟨e', he', hcovers⟩ := Conditions.event?_covers h.read h.write hreport
  refine ⟨e', hcovers, ?_⟩
  rw [Reported, h.ready, hcovers.token]
  exact he'

theorem heeds_stage (b : Half) (data : List UInt8)
    (fits : data.length ≤ b.session.staging.buffer.length) : Heeds b (b.stage data fits) :=
  ⟨rfl, id, id⟩

theorem heeds_flush (b : Half) : Heeds b b.flush.2 := by
  obtain ⟨data, hw, -, -⟩ := b.session.staging.flush_writes b.file
  exact ⟨hw.ready, id, id⟩

theorem heeds_resume (b : Half) : Heeds b b.resume :=
  ⟨rfl, fun _ => rfl, id⟩

theorem heeds_block (b : Half) : Heeds b (b.set fun s => { s with awaitingWritable := true }) :=
  ⟨rfl, id, fun _ => Bool.or_true _⟩

/-! ## Events of the peer -/

theorem heeds_relay (rounds : Nat) (a b : Half) : Heeds b (relay a b rounds).peer := by
  induction rounds generalizing a b with
  | zero => exact .refl b
  | succ rounds ih =>
    rw [relay]
    split
    · exact .refl b
    · exact .refl b
    · exact .refl b
    · next data file hr =>
      have hflushed := (heeds_stage b data (length_readSome_le _ _ hr)).trans (heeds_flush _)
      dsimp only
      split
      · exact hflushed.trans (ih _ _)
      · exact hflushed.trans (heeds_block _)
      · exact hflushed

theorem heeds_onReadable (rounds : Nat) (a b : Half) : Heeds b (onReadable rounds a b).peer := by
  unfold onReadable
  split
  · exact heeds_relay rounds a b
  · exact .refl b

theorem heeds_onWritable (a b : Half) : Heeds b (onWritable a b).peer := by
  unfold onWritable onConnected onUnblocked
  dsimp only
  split
  · split
    · exact heeds_resume b
    · exact .refl b
  · split
    · split
      · exact .refl b
      · exact .refl b
      · split
        · exact .refl b
        · exact heeds_resume b
    · exact .refl b

theorem heeds_next {r : Outcome} (called : Bool) {handler : Half → Half → Outcome}
    (h : Heeds b r.peer) (hh : ∀ a b, Heeds b (handler a b).peer) :
    Heeds b (r.next called handler).peer := by
  unfold Outcome.next
  split
  · exact h.trans (hh _ _)
  · exact h

/-- An event of one half leaves the other as ready as it was, and no less interested. -/
theorem heeds_onEvent (rounds : Nat) (e : Event) (a b : Half) :
    Heeds b (onEvent rounds e a b).peer := by
  refine heeds_next _ (heeds_next _ (heeds_next _ (.refl b) ?_) ?_) ?_
  · exact fun _ b => .refl b
  · exact heeds_onReadable rounds
  · exact heeds_onWritable

end Half

end Sluice
