import Sluice.Session.Basic

/-!
# Flags of linked sessions

The flags of two linked sessions follow from which of them is still connecting and which has bytes
to write (`Session.Ordered`, in both directions `Session.Paired`). A session that is left alone
drains what it has (`Session.Draining`). The changes that the handlers make to the flags of a pair
are these: one blocks the other (`Paired.block`), a connection is made (`Paired.connect`), a block
is over (`Paired.unblock`).
-/

namespace Sluice.Session

/-- The flags of a session are in order, given those of its peer. Which of the two reads is known
from the other flags alone, so that nothing but connections and blocks has to be followed. -/
structure Ordered (s p : Session) : Prop where
  role : s.role ≠ p.role
  stays : s.closeAfterFlush = false
  settled : s.awaitingWritable = true ↔ 0 < s.pending
  connecting : s.awaitingConnect = true → s.role = .remoteSide ∧ s.pending = 0 ∧ p.pending = 0
  reading : s.awaitingReadable =
    (!s.awaitingConnect && !p.awaitingConnect && !p.awaitingWritable)

/-- The flags of two linked sessions are in order. -/
structure Paired (s p : Session) : Prop where
  there : Ordered s p
  back : Ordered p s

/-- A session that can lose its peer: it shows whether it has bytes to write. -/
structure Fit (s : Session) : Prop where
  stays : s.closeAfterFlush = false
  settled : s.awaitingWritable = true ↔ 0 < s.pending
  connected : s.awaitingWritable = true → s.awaitingConnect = false

/-- A session without a peer, which has bytes to write and closes after that. -/
structure Draining (s : Session) : Prop where
  closing : s.closeAfterFlush = true
  blocked : s.awaitingWritable = true
  pending : 0 < s.pending
  paused : s.awaitingReadable = false
  connected : s.awaitingConnect = false

variable {s p : Session} {st : Staging}

theorem Paired.symm (h : Paired s p) : Paired p s :=
  ⟨h.back, h.there⟩

/-! ## What the flags say -/

theorem Ordered.blocked_eq_false (h : Ordered s p) (h0 : s.pending = 0) :
    s.awaitingWritable = false := by
  cases hw : s.awaitingWritable with
  | false => rfl
  | true =>
    have hpos := h.settled.mp hw
    omega

theorem Ordered.pending_eq_zero (h : Ordered s p) (hw : s.awaitingWritable = false) :
    s.pending = 0 := by
  refine Nat.eq_zero_of_not_pos ?_
  intro hpos
  have hw' := h.settled.mpr hpos
  rw [hw] at hw'
  cases hw'

theorem Ordered.connected_of_blocked (h : Ordered s p) (hw : s.awaitingWritable = true) :
    s.awaitingConnect = false := by
  cases hc : s.awaitingConnect with
  | false => rfl
  | true =>
    have hpos := h.settled.mp hw
    have hzero := (h.connecting hc).2.1
    omega

theorem Ordered.fit (h : Ordered s p) : Fit s :=
  ⟨h.stays, h.settled, h.connected_of_blocked⟩

/-- Only one of the two is still connecting, because only the remote side ever is, and the roles of
the two differ. -/
theorem Paired.peer_connected (h : Paired s p) (hc : s.awaitingConnect = true) :
    p.awaitingConnect = false := by
  cases hp : p.awaitingConnect with
  | false => rfl
  | true =>
    have hs := (h.there.connecting hc).1
    have hp := (h.back.connecting hp).1
    exact absurd (hs.trans hp.symm) h.there.role

/-- While one of the two has bytes to write, neither is connecting: a connection is only waited for
while nothing is staged on either side. -/
theorem Paired.connected_of_blocked (h : Paired s p) (hw : s.awaitingWritable = true) :
    s.awaitingConnect = false ∧ p.awaitingConnect = false := by
  refine ⟨h.there.connected_of_blocked hw, ?_⟩
  cases hc : p.awaitingConnect with
  | false => rfl
  | true =>
    have hpos := h.there.settled.mp hw
    have hzero := (h.back.connecting hc).2.2
    omega

/-- A session reads when both are connected and its peer has nothing to write. -/
theorem Ordered.reading_iff (h : Ordered s p) : s.awaitingReadable = true ↔
    s.awaitingConnect = false ∧ p.awaitingConnect = false ∧ p.awaitingWritable = false := by
  rw [h.reading]
  simp [and_assoc]

/-! ## Changes -/

def newClient (fd : Descriptor) (buffer : Buffer) (label label' : String) (connected : Bool)
    (peer : SessionId) : Session :=
  { create fd .clientSide buffer label label' with
    awaitingReadable := connected, peer := some peer }

/-- The remote session of a new pair. It may still be connecting, and then neither of the two
reads. -/
def newRemote (fd : Descriptor) (buffer : Buffer) (label label' : String) (connected : Bool)
    (peer : SessionId) : Session :=
  { create fd .remoteSide buffer label label' with
    awaitingReadable := connected, awaitingConnect := !connected, peer := some peer }

theorem paired_new (client remote : Descriptor) (b b' : Buffer) (l₁ l₂ l₃ l₄ : String)
    (connected : Bool) (id pid : SessionId) :
    Paired (newClient client b l₁ l₂ connected pid) (newRemote remote b' l₃ l₄ connected id) := by
  refine ⟨⟨nofun, rfl, ?_, nofun, ?_⟩, ⟨nofun, rfl, ?_, fun _ => ⟨rfl, rfl, rfl⟩, ?_⟩⟩
  · exact ⟨nofun, nofun⟩
  · cases connected <;> rfl
  · exact ⟨nofun, nofun⟩
  · cases connected <;> rfl

theorem pending_staging (s : Session) (st : Staging) :
    ({ s with staging := st } : Session).pending = st.pending := rfl

theorem Ordered.restage (h : Ordered s p) {st st' : Staging} (hs : 0 < st.pending ↔ 0 < s.pending)
    (hp : 0 < st'.pending ↔ 0 < p.pending) :
    Ordered { s with staging := st } { p with staging := st' } := by
  refine ⟨h.role, h.stays, ?_, fun hc => ?_, h.reading⟩
  · rw [pending_staging, hs]
    exact h.settled
  · obtain ⟨hrole, hs0, hp0⟩ := h.connecting hc
    refine ⟨hrole, ?_, ?_⟩
    · rw [pending_staging]
      omega
    · rw [pending_staging]
      omega

/-- The flags say nothing of the staged bytes but whether there are any. A relay that empties what
it has staged and a flush that leaves something behind are both of this kind. -/
theorem Paired.restage (h : Paired s p) {st st' : Staging} (hs : 0 < st.pending ↔ 0 < s.pending)
    (hp : 0 < st'.pending ↔ 0 < p.pending) :
    Paired { s with staging := st } { p with staging := st' } :=
  ⟨h.there.restage hs hp, h.back.restage hp hs⟩

/-- The peer of a reading session did not take all: it is blocked, and the reader pauses. -/
theorem Paired.block (h : Paired s p) (hr : s.awaitingReadable = true) (hpos : 0 < st.pending) :
    Paired { s with awaitingReadable := false }
      { p with staging := st, awaitingWritable := true } := by
  obtain ⟨hsc, hpc, hpw⟩ := h.there.reading_iff.mp hr
  refine ⟨⟨h.there.role, h.there.stays, h.there.settled, fun hc => ?_, ?_⟩,
    ⟨h.back.role, h.back.stays, ?_, fun hc => ?_, h.back.reading⟩⟩
  · exact absurd (hsc.symm.trans hc) Bool.false_ne_true
  · simp
  · exact ⟨fun _ => hpos, fun _ => rfl⟩
  · exact absurd (hpc.symm.trans hc) Bool.false_ne_true

theorem Paired.connect (h : Paired s p) (hc : s.awaitingConnect = true) :
    Paired { s with awaitingConnect := false, awaitingReadable := true }
      { p with awaitingReadable := true } := by
  obtain ⟨-, hs0, hp0⟩ := h.there.connecting hc
  have hpc := h.peer_connected hc
  have hsw := h.there.blocked_eq_false hs0
  have hpw := h.back.blocked_eq_false hp0
  refine ⟨⟨h.there.role, h.there.stays, h.there.settled, fun hc' => ?_, ?_⟩,
    ⟨h.back.role, h.back.stays, h.back.settled, fun hc' => ?_, ?_⟩⟩
  · cases hc'
  · simp [hpc, hpw]
  · exact absurd (hpc.symm.trans hc') Bool.false_ne_true
  · simp [hpc, hsw]

theorem Paired.unblock (h : Paired s p) (hw : s.awaitingWritable = true) (h0 : st.pending = 0) :
    Paired { s with staging := st, awaitingWritable := false }
      { p with awaitingReadable := true } := by
  obtain ⟨hsc, hpc⟩ := h.connected_of_blocked hw
  refine ⟨⟨h.there.role, h.there.stays, ?_, fun hc => ?_, h.there.reading⟩,
    ⟨h.back.role, h.back.stays, h.back.settled, fun hc => ?_, ?_⟩⟩
  · rw [show ({ s with staging := st, awaitingWritable := false } : Session).pending = 0 from h0]
    simp
  · exact absurd (hsc.symm.trans hc) Bool.false_ne_true
  · exact absurd (hpc.symm.trans hc) Bool.false_ne_true
  · simp [hsc, hpc]

/-- What destroying does to a peer that has bytes to write. That there are any, and that it has a
connection, is known from its being blocked. -/
theorem Fit.draining (h : Fit s) (hw : s.awaitingWritable = true) :
    Draining { s with peer := none, closeAfterFlush := true, awaitingReadable := false } :=
  ⟨rfl, hw, h.settled.mp hw, rfl, h.connected hw⟩

end Sluice.Session
