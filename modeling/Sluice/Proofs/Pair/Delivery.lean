import Sluice.Proofs.Pair.Linked

/-!
# Delivery between two halves

What events come to when the far end of one half leaves no error behind (`File.Source`) and that of
the other only takes what it is sent (`File.Sink`). No event dooms the sink
(`Delivers.sink_onEvent`). The source is doomed only when all that was offered has been read
(`Delivers.source_onEvent`), and a sink that was left alone is doomed only when it has written all
that it had (`sink_drain`).
-/

namespace Sluice

/-! ## Streams without errors -/

/-- A socket that reads without errors. -/
structure Stream.Reliable (s : Stream) : Prop where
  socket : s.isSocket = true
  fault : s.nearFault = none
  reads : ∀ e, .failed e ∉ s.reads

/-- A socket that writes without errors as well, and whose far end neither sends nor ends
anything. -/
structure Stream.Listening (s : Stream) : Prop extends s.Reliable where
  writes : ∀ e, .failed e ∉ s.writes
  silent : s.inbound.written = []
  sending : s.inbound.shut = false
  taking : s.outbound.shut = false

namespace Stream

variable {s s' : Stream}

theorem Used.isSocket (h : s.Used s') : s'.isSocket = s.isSocket := by
  rw [Stream.isSocket, Stream.isSocket, h.medium]

theorem Reliable.used (h : s.Reliable) (hu : s.Used s') : s'.Reliable where
  socket := hu.isSocket.trans h.socket
  fault := hu.fault.elim (fun hf => hf.trans h.fault) fun hf => hf
  reads e he := h.reads e (hu.reads.subset he)

theorem Listening.used (h : s.Listening) (hu : s.Used s') : s'.Listening where
  toReliable := h.toReliable.used hu
  writes e he := h.writes e (hu.writes.subset he)
  silent := by
    rw [Lane.written, hu.history]
    exact h.silent
  sending := hu.inShut.trans h.sending
  taking := hu.outShut.trans h.taking

theorem Reliable.obstacle (h : s.Reliable) (ho : s.nearOpen = true) : s.obstacle? = none := by
  rw [obstacle?, ho, h.socket]
  rfl

theorem Reliable.not_readFault (h : s.Reliable) (ho : s.nearOpen = true) : ¬ s.ReadFault := by
  rintro (hobstacle | hfault | ⟨e, he⟩)
  · exact hobstacle (h.obstacle ho)
  · exact hfault h.fault
  · exact h.reads e he

theorem Listening.not_writeFault (h : s.Listening) (ho : s.nearOpen = true) : ¬ s.WriteFault := by
  rintro (hobstacle | hshut | ⟨e, he⟩)
  · exact hobstacle (h.obstacle ho)
  · rw [h.taking] at hshut
    cases hshut
  · exact h.writes e he

end Stream

/-! ## Sources and sinks -/

namespace File

def Source (f : File) : Prop :=
  ∃ s, f = .stream s ∧ s.nearOpen = true ∧ s.Reliable

def Sink (f : File) : Prop :=
  ∃ s, f = .stream s ∧ s.nearOpen = true ∧ s.Listening

variable {f f' : File} {n : Nat}

theorem Sink.source (h : f.Sink) : f.Source := by
  obtain ⟨s, hf, ho, hs⟩ := h
  exact ⟨s, hf, ho, hs.toReliable⟩

theorem Source.used (h : f.Source) (hu : f.Used f') : f'.Source := by
  obtain ⟨s, rfl, ho, hs⟩ := h
  cases hu with
  | stream hu => exact ⟨_, rfl, hu.nearOpen.trans ho, hs.used hu⟩

theorem Sink.used (h : f.Sink) (hu : f.Used f') : f'.Sink := by
  obtain ⟨s, rfl, ho, hs⟩ := h
  cases hu with
  | stream hu => exact ⟨_, rfl, hu.nearOpen.trans ho, hs.used hu⟩

theorem Source.takeError (h : f.Source) : f.takeError.1 = none := by
  obtain ⟨s, rfl, ho, hs⟩ := h
  cases he : (File.stream s).takeError.1 with
  | none => rfl
  | some e => exact absurd (Stream.takeError_fault he) (hs.not_readFault ho)

theorem Source.readSome_ne_failed (h : f.Source) (e : IoError) : (readSome f n).1 ≠ .failed e := by
  obtain ⟨s, rfl, ho, hs⟩ := h
  rw [readSome_stream]
  exact fun he => hs.not_readFault ho (Stream.readSome_failed he)

/-- At the end of a source all that was offered has been read. Without an error on the way, the only
end is the one that comes behind the last byte. -/
theorem Source.readSome_ended (h : f.Source) (hsound : f.Sound) (hn : 0 < n)
    (hend : (readSome f n).1 = .endOfStream) :
    (readSome f n).2.ended = true ∧ (readSome f n).2.received = (readSome f n).2.offered := by
  have hr := readSome_reads f n
  rw [hend] at hr
  obtain ⟨hsound', -⟩ := hr.received hsound
  obtain ⟨s, rfl, -, -⟩ := h
  rw [readSome_stream] at hend hr hsound' ⊢
  obtain ⟨hq, hshut⟩ := Stream.readSome_ended hn hend
  refine ⟨hr.used.ended.trans hshut, ?_⟩
  have hw := Lane.Sound.written_eq hsound'
  rw [hq, List.append_nil] at hw
  exact hw.symm

theorem Sink.received_eq_nil (h : f.Sink) (hsound : f.Sound) : f.received = [] := by
  obtain ⟨s, rfl, -, hs⟩ := h
  have hpre := hsound.received_prefix
  rw [show (File.stream s).offered = [] from hs.silent] at hpre
  exact List.prefix_nil.mp hpre

theorem Sink.readSome_eq (h : f.Sink) (hsound : f.Sound) (hn : 0 < n) :
    (readSome f n).1 = .wouldBlock := by
  have hr := readSome_reads f n
  obtain ⟨hsound', hreceived⟩ := hr.received hsound
  rw [h.received_eq_nil hsound, (h.used hr.used).received_eq_nil hsound',
    List.nil_append] at hreceived
  cases ho : (readSome f n).1 with
  | wouldBlock => rfl
  | done data =>
    have hlen := readSome_ne_nil ho
    rw [ho] at hreceived
    exact absurd hreceived.symm hlen
  | endOfStream =>
    obtain ⟨hended, -⟩ := h.source.readSome_ended hsound hn ho
    obtain ⟨s, heq, -, hs⟩ := h.used hr.used
    rw [heq] at hended
    exact absurd (hs.sending.symm.trans hended) Bool.false_ne_true
  | failed e => exact absurd ho (h.source.readSome_ne_failed e)

theorem Sink.flush_ne_failed (h : f.Sink) (st : Staging) (e : IoError) :
    (st.flush f).1 ≠ .failed e := by
  obtain ⟨s, rfl, ho, hs⟩ := h
  exact fun he => hs.not_writeFault ho (Staging.flush_failed he)

end File

/-! ## Events of a pair that delivers -/

namespace Half

/-- The halves are linked; the far end of `a` leaves no error behind, and that of `b` only takes. -/
structure Delivers (a b : Half) : Prop where
  linked : Linked a b
  source : a.file.Source
  sink : b.file.Sink
  room : 0 < a.session.staging.buffer.length ∧ 0 < b.session.staging.buffer.length

variable {a a' b b' : Half} {r : Outcome}

theorem Delivers.alike (h : Delivers a b) (ha : a.Alike a') (hb : b.Alike b') (hl : Linked a' b') :
    Delivers a' b' :=
  ⟨hl, h.source.used ha.used, h.sink.used hb.used, by rw [ha.length, hb.length]; exact h.room⟩

/-- Nothing comes back from the sink, so that the source has nothing to write. This is the ledger of
the other direction, read as an equation of lengths. -/
theorem Delivers.idle (h : Delivers a b) : a.session.awaitingWritable = false := by
  have hbytes := h.linked.back.bytes
  rw [h.sink.received_eq_nil h.linked.back.sound] at hbytes
  have hwin := (List.append_eq_nil_iff.mp hbytes.symm).2
  exact h.linked.paired.there.blocked_eq_false (window_eq_nil_iff.mp hwin)

end Half

/-- If a half is doomed, it is the one the event is for, and it has read all that was offered to
it. -/
def Outcome.Finishes (r : Outcome) : Prop :=
  r.doomed = none
    ∨ (r.doomed = some .self ∧ r.self.file.ended = true
      ∧ r.self.file.received = r.self.file.offered)

theorem Outcome.Keeps.next_of {a b : Half} {r : Outcome} {P : Outcome → Prop}
    {R : Half → Half → Prop} (hk : r.Keeps a b) (hp : P r)
    (hR : r.doomed = none → R r.self r.peer) (called : Bool) (handler : Half → Half → Outcome)
    (hh : ∀ a b, R a b → (handler a b).Keeps a b ∧ P (handler a b)) :
    (r.next called handler).Keeps a b ∧ P (r.next called handler) := by
  unfold Outcome.next
  split
  · next hcond =>
    simp only [Bool.and_eq_true, Option.isNone_iff_eq_none] at hcond
    obtain ⟨hk', hp'⟩ := hh _ _ (hR hcond.1)
    exact ⟨hk.trans hk', hp'⟩
  · exact ⟨hk, hp⟩

namespace Half

variable {a b : Half} {r : Outcome}

theorem Delivers.kept (h : Delivers a b) (hk : r.Keeps a b) (hd : r.doomed = none) :
    Delivers r.self r.peer :=
  h.alike hk.self hk.peer (hk.linked_of_none hd)

theorem Delivers.kept_back (h : Delivers a b) (hk : r.Keeps b a) (hd : r.doomed = none) :
    Delivers r.peer r.self :=
  h.alike hk.peer hk.self (hk.linked_of_none hd).symm

theorem onError_spares (h : a.file.Source) (b : Half) : (onError a b).doomed = none := by
  have hnone : a.takeError.1 = none := h.takeError
  unfold onError
  dsimp only
  rw [hnone]
  rfl

theorem onConnected_spares (h : a.file.Source) (b : Half) : (onConnected a b).doomed = none := by
  have hnone : a.takeError.1 = none := h.takeError
  unfold onConnected
  dsimp only
  rw [hnone]

/-! ### The source -/

theorem Delivers.source_relay (rounds : Nat) (h : Delivers a b)
    (hread : a.session.awaitingReadable = true) : (relay a b rounds).Finishes := by
  induction rounds generalizing a b with
  | zero => exact Or.inl rfl
  | succ rounds ih =>
    have hsome := File.readSome_reads a.file b.session.staging.buffer.length
    rw [relay]
    split
    · exact Or.inl rfl
    · next file hr =>
      have hend := h.source.readSome_ended h.linked.there.sound h.room.2 (congrArg Prod.fst hr)
      rw [hr] at hend
      exact Or.inr ⟨rfl, hend⟩
    · next e file hr => exact absurd (congrArg Prod.fst hr) (h.source.readSome_ne_failed e)
    · next data file hr =>
      rw [hr] at hsome
      have fits := length_readSome_le _ _ hr
      have hsink : (b.stage data fits).file.Sink := h.sink
      dsimp only
      split
      · next hfl =>
        have hl := h.linked.relayed hread hsome fits hfl
        refine ih (h.alike (alike_withFile hsome.used) ?_ hl) hread
        exact (alike_stage b data fits).trans (alike_flush _)
      · exact Or.inl rfl
      · next e hfl => exact absurd hfl (hsink.flush_ne_failed _ e)

theorem Delivers.source_onWritable (h : Delivers a b) : (onWritable a b).doomed = none := by
  rw [onWritable, h.idle]
  split
  · exact onConnected_spares h.source b
  · rfl

/-- An event of the source dooms it when it is read to the end, and nothing else. Writing to the
sink cannot fail, so that the source is the only half that its own events can doom. -/
theorem Delivers.source_onEvent (rounds : Nat) (e : Event) (h : Delivers a b) :
    (onEvent rounds e a b).Finishes := by
  have h₀ : (⟨none, a, b⟩ : Outcome).Keeps a b := .of_linked (.refl a) (.refl b) h.linked
  obtain ⟨h₁, hf₁⟩ := h₀.next_of (P := Outcome.Finishes) (R := Delivers) (Or.inl rfl)
    (fun _ => h) e.error onError fun a b h =>
      ⟨keeps_onError h.linked, Or.inl (onError_spares h.source b)⟩
  obtain ⟨h₂, hf₂⟩ := h₁.next_of (P := Outcome.Finishes) (R := Delivers) hf₁ (h.kept h₁)
    e.readable (onReadable rounds) fun a b h =>
      ⟨keeps_onReadable rounds h.linked, by
        unfold onReadable
        split
        · next hread => exact h.source_relay rounds hread
        · exact Or.inl rfl⟩
  exact (h₂.next_of (P := Outcome.Finishes) (R := Delivers) hf₂ (h.kept h₂) e.writable
    onWritable fun a b h => ⟨keeps_onWritable h.linked, Or.inl h.source_onWritable⟩).2

/-! ### The sink -/

theorem Delivers.sink_onReadable (rounds : Nat) (h : Delivers a b) :
    (onReadable rounds b a).doomed = none := by
  have hread := h.sink.readSome_eq h.linked.back.sound h.room.1
  unfold onReadable
  split
  · cases rounds with
    | zero => rfl
    | succ rounds =>
      rw [relay]
      split
      · rfl
      · next hr => rw [hr] at hread; cases hread
      · next hr => rw [hr] at hread; cases hread
      · next hr => rw [hr] at hread; cases hread
  · rfl

theorem Delivers.sink_onUnblocked (h : Delivers a b) : (onUnblocked b a).doomed = none := by
  unfold onUnblocked
  dsimp only
  split
  · rfl
  · next e hfl => exact absurd hfl (h.sink.flush_ne_failed _ e)
  · rw [if_neg (by rw [h.linked.paired.back.stays]; exact Bool.false_ne_true)]

theorem Delivers.sink_onWritable (h : Delivers a b) : (onWritable b a).doomed = none := by
  unfold onWritable
  split
  · exact onConnected_spares h.sink.source a
  · split
    · exact h.sink_onUnblocked
    · rfl

/-- An event of the sink dooms neither half. It has nothing to read and no error, and what it still
has to write it can write. -/
theorem Delivers.sink_onEvent (rounds : Nat) (e : Event) (h : Delivers a b) :
    (onEvent rounds e b a).doomed = none := by
  have h₀ : (⟨none, b, a⟩ : Outcome).Keeps b a := .of_linked (.refl b) (.refl a) h.linked.symm
  obtain ⟨h₁, hd₁⟩ := h₀.next_of (P := fun r => r.doomed = none) (R := fun b a => Delivers a b)
    rfl (fun _ => h) e.error onError fun b a h =>
      ⟨keeps_onError h.linked.symm, onError_spares h.sink.source a⟩
  obtain ⟨h₂, hd₂⟩ := h₁.next_of (P := fun r => r.doomed = none) (R := fun b a => Delivers a b)
    hd₁ (h.kept_back h₁) e.readable (onReadable rounds) fun b a h =>
      ⟨keeps_onReadable rounds h.linked.symm, h.sink_onReadable rounds⟩
  exact (h₂.next_of (P := fun r => r.doomed = none) (R := fun b a => Delivers a b) hd₂
    (h.kept_back h₂) e.writable onWritable fun b a h =>
      ⟨keeps_onWritable h.linked.symm, h.sink_onWritable⟩).2

/-- A half on its own whose far end leaves no error behind is doomed by nothing but a flush. -/
theorem drain_of_source (e : Event) (h : b.file.Source) (hd : (drain e b).1 = true) :
    ∃ c, b.Alike c ∧ (drain e b).2 = c.flush.2 ∧ c.flush.1 ≠ .wouldBlock := by
  obtain ⟨hlike, hnone⟩ : b.Alike (if e.error then b.takeError else (none, b)).2
      ∧ (if e.error then b.takeError else (none, b)).1 = none := by
    split
    · exact ⟨alike_takeError b, h.takeError⟩
    · exact ⟨.refl b, rfl⟩
  unfold drain at hd ⊢
  dsimp only at hd ⊢
  generalize (if e.error then b.takeError else (none, b)) = r at hlike hnone hd ⊢
  rw [hnone] at hd ⊢
  rw [if_neg (by simp)] at hd ⊢
  split at hd
  · next hw =>
    rw [if_pos hw]
    exact ⟨r.2, hlike, rfl, by simpa using hd⟩
  · cases hd

/-- A sink that was left alone is doomed only when it has written all that it had. -/
theorem sink_drain (e : Event) (h : b.file.Sink) (hd : (drain e b).1 = true) :
    (drain e b).2.session.staging.window = [] := by
  obtain ⟨c, hc, hflush, hdone⟩ := drain_of_source e h.source hd
  rw [hflush, window_eq_nil_iff, ← flush_complete_iff]
  cases hfl : c.flush.1 with
  | complete => rfl
  | wouldBlock => exact absurd hfl hdone
  | failed e => exact absurd hfl ((h.used hc.used).flush_ne_failed _ e)

end Half

end Sluice
