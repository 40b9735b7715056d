import Sluice.Proofs.Pair.Delivery

/-!
# Why a half is doomed

On sockets where no call fails by itself (`File.Faultless`) an event dooms a half of a pair for one
of two reasons (`Half.Spent`): its far end has stopped sending and all that it sent was read, or its
far end takes no more bytes (`Steady.spent_onEvent`). A half that was left alone is doomed when it
has written all that it had, or when its far end takes no more (`drain_spent`).
-/

namespace Sluice

/-- A socket on which no call fails by itself. Its far end may still refuse what it is sent. -/
structure Stream.Faultless (s : Stream) : Prop extends s.Reliable where
  writes : ∀ e, .failed e ∉ s.writes

namespace Stream

variable {s s' : Stream}

theorem Faultless.used (h : s.Faultless) (hu : s.Used s') : s'.Faultless where
  toReliable := h.toReliable.used hu
  writes e he := h.writes e (hu.writes.subset he)

theorem Faultless.shut_of_fault (h : s.Faultless) (ho : s.nearOpen = true) (hf : s.WriteFault) :
    s.outbound.shut = true := by
  rcases hf with hobstacle | hshut | ⟨e, he⟩
  · exact absurd (h.obstacle ho) hobstacle
  · exact hshut
  · exact absurd he (h.writes e)

end Stream

namespace File

def Faultless (f : File) : Prop :=
  ∃ s, f = .stream s ∧ s.nearOpen = true ∧ s.Faultless

def refuses : File → Bool
  | .stream s => s.outbound.shut
  | .device _ => true

variable {f f' : File}

theorem Faultless.source (h : f.Faultless) : f.Source := by
  obtain ⟨s, hf, ho, hs⟩ := h
  exact ⟨s, hf, ho, hs.toReliable⟩

theorem Faultless.used (h : f.Faultless) (hu : f.Used f') : f'.Faultless := by
  obtain ⟨s, rfl, ho, hs⟩ := h
  cases hu with
  | stream hu => exact ⟨_, rfl, hu.nearOpen.trans ho, hs.used hu⟩

theorem Used.refuses (h : Used f f') : f'.refuses = f.refuses := by
  cases h with
  | stream h => exact h.outShut
  | device b => rfl

/-- A write to a faultless socket fails only because the far end takes no more. That is not a fault
of the socket: it is known from what the far end has done. -/
theorem Faultless.refuses_of_flush {st : Staging} {e : IoError} (h : f.Faultless)
    (hfl : (st.flush f).1 = .failed e) : f.refuses = true := by
  obtain ⟨s, rfl, ho, hs⟩ := h
  exact hs.shut_of_fault ho (Staging.flush_failed hfl)

end File

namespace Half

/-- The far end has stopped sending and all that it sent was read, or it takes no more bytes. -/
def Spent (a : Half) : Prop :=
  (a.file.ended = true ∧ a.file.received = a.file.offered) ∨ a.file.refuses = true

end Half

namespace Outcome

def half (r : Outcome) : Side → Half
  | .self => r.self
  | .peer => r.peer

/-- If a half is doomed, then because it is spent. -/
def Spent (r : Outcome) : Prop :=
  ∀ side, r.doomed = some side → (r.half side).Spent

theorem spent_of_none {r : Outcome} (h : r.doomed = none) : r.Spent := by
  intro side hside
  rw [h] at hside
  cases hside

theorem spent_of_self {r : Outcome} (h : r.doomed = some .self) (hs : r.self.Spent) : r.Spent := by
  intro side hside
  obtain rfl := Option.some.inj (h.symm.trans hside)
  exact hs

end Outcome

namespace Half

variable {a a' b b' : Half} {r : Outcome}

theorem refuses_flush (ha : a.file.Faultless) {e : IoError} (hfl : a.flush.1 = .failed e) :
    a.flush.2.file.refuses = true :=
  (alike_flush a).used.refuses.trans (ha.refuses_of_flush hfl)

/-! ## Pairs -/

/-- The halves are linked, and no call fails by itself on either socket. -/
structure Steady (a b : Half) : Prop where
  linked : Linked a b
  self : a.file.Faultless
  peer : b.file.Faultless
  room : 0 < b.session.staging.buffer.length

theorem Steady.alike (h : Steady a b) (ha : a.Alike a') (hb : b.Alike b') (hl : Linked a' b') :
    Steady a' b' :=
  ⟨hl, h.self.used ha.used, h.peer.used hb.used, by rw [hb.length]; exact h.room⟩

theorem Steady.kept (h : Steady a b) (hk : r.Keeps a b) (hd : r.doomed = none) :
    Steady r.self r.peer :=
  h.alike hk.self hk.peer (hk.linked_of_none hd)

theorem Steady.spent_relay (rounds : Nat) (h : Steady a b)
    (hread : a.session.awaitingReadable = true) : (relay a b rounds).Spent := by
  induction rounds generalizing a b with
  | zero => exact Outcome.spent_of_none rfl
  | succ rounds ih =>
    have hsome := File.readSome_reads a.file b.session.staging.buffer.length
    rw [relay]
    split
    · exact Outcome.spent_of_none rfl
    · next file hr =>
      have hend := h.self.source.readSome_ended h.linked.there.sound h.room (congrArg Prod.fst hr)
      rw [hr] at hend
      exact Outcome.spent_of_self rfl (Or.inl hend)
    · next e file hr => exact absurd (congrArg Prod.fst hr) (h.self.source.readSome_ne_failed e)
    · next data file hr =>
      rw [hr] at hsome
      have fits := length_readSome_le _ _ hr
      have hstage : (b.stage data fits).file.Faultless := h.peer
      dsimp only
      split
      · next hfl =>
        have hl := h.linked.relayed hread hsome fits hfl
        refine ih (h.alike (alike_withFile hsome.used) ?_ hl) hread
        exact (alike_stage b data fits).trans (alike_flush _)
      · exact Outcome.spent_of_none rfl
      · next e hfl =>
        intro side hside
        cases hside
        exact Or.inr (refuses_flush hstage hfl)

theorem Steady.spent_onReadable (rounds : Nat) (h : Steady a b) :
    (onReadable rounds a b).Spent := by
  unfold onReadable
  split
  · next hread => exact h.spent_relay rounds hread
  · exact Outcome.spent_of_none rfl

theorem Steady.spent_onUnblocked (h : Steady a b) : (onUnblocked a b).Spent := by
  unfold onUnblocked
  dsimp only
  split
  · exact Outcome.spent_of_none rfl
  · next e hfl => exact Outcome.spent_of_self rfl (Or.inr (refuses_flush h.self hfl))
  · rw [if_neg (by rw [h.linked.paired.there.stays]; exact Bool.false_ne_true)]
    exact Outcome.spent_of_none rfl

theorem Steady.spent_onWritable (h : Steady a b) : (onWritable a b).Spent := by
  unfold onWritable
  split
  · exact Outcome.spent_of_none (onConnected_spares h.self.source b)
  · split
    · exact h.spent_onUnblocked
    · exact Outcome.spent_of_none rfl

/-- An event dooms a half only when it is spent. The half that is doomed may be the one the event is
for or the other one, and the handlers are gone through one by one, as for `keeps_onEvent`. -/
theorem Steady.spent_onEvent (rounds : Nat) (e : Event) (h : Steady a b) :
    (onEvent rounds e a b).Spent := by
  have h₀ : (⟨none, a, b⟩ : Outcome).Keeps a b := .of_linked (.refl a) (.refl b) h.linked
  obtain ⟨h₁, hs₁⟩ := h₀.next_of (P := Outcome.Spent) (R := Steady) (Outcome.spent_of_none rfl)
    (fun _ => h) e.error onError fun a b h =>
      ⟨keeps_onError h.linked, Outcome.spent_of_none (onError_spares h.self.source b)⟩
  obtain ⟨h₂, hs₂⟩ := h₁.next_of (P := Outcome.Spent) (R := Steady) hs₁ (h.kept h₁)
    e.readable (onReadable rounds) fun a b h =>
      ⟨keeps_onReadable rounds h.linked, h.spent_onReadable rounds⟩
  exact (h₂.next_of (P := Outcome.Spent) (R := Steady) hs₂ (h.kept h₂) e.writable
    onWritable fun a b h => ⟨keeps_onWritable h.linked, h.spent_onWritable⟩).2

/-! ## Halves left alone -/

/-- A half that was left alone is doomed when it has written all that it had, or when its far end
takes no more. -/
theorem drain_spent (e : Event) (h : a.file.Faultless) (hd : (drain e a).1 = true) :
    (drain e a).2.session.pending = 0 ∨ (drain e a).2.file.refuses = true := by
  obtain ⟨c, hc, hflush, hdone⟩ := drain_of_source e h.source hd
  rw [hflush]
  cases hfl : c.flush.1 with
  | complete => exact Or.inl (flush_complete_iff.mp hfl)
  | wouldBlock => exact absurd hfl hdone
  | failed e => exact Or.inr (refuses_flush (h.used hc.used) hfl)

end Half

end Sluice
