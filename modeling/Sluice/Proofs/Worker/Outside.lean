import Sluice.Proofs.Socket.Moves
import Sluice.Proofs.Worker.Turns

/-!
# The outside of a worker

What may happen around a worker keeps it in order: a move at the far end of one of its files
(`Sound.moved`), a new file (`Sound.arrived`), other attempts to connect in store
(`Sound.provided`), and what goes into its control pipe (`Sound.withControl`). A worker is in order
when it is made (`sound_create`).
-/

namespace Sluice

variable {f f' : File}

/-! ## Moved files -/

theorem File.Moved.fresh (h : f.Moved f') (hf : f.Fresh) : f'.Fresh := by
  obtain ⟨hsound, hreceived⟩ := h.sound hf.sound
  exact ⟨hsound, hreceived.trans hf.received, h.sent.trans hf.sent⟩

theorem File.admits_onFile (m : Move) {b : Backend} (h : b.Admits f.status) :
    b.Admits (m.onFile f).status := by
  cases f with
  | device o => exact h
  | stream s =>
    cases b with
    | epoll =>
      obtain ⟨c, hc⟩ := h
      refine ⟨(m.onStream s).conditions, ?_⟩
      have hopen : s.nearOpen = true := by
        simp only [File.status] at hc
        split at hc
        · next ho => exact ho
        · cases hc
      simp only [Move.onFile, File.status, m.nearOpen_onStream, hopen, if_true]
    | kqueue => trivial
    | poll => trivial

/-- All open files were given out, and nothing has passed them nor those still to come. This is a
host on which no worker has run yet. -/
structure Host.Fresh (host : Host) : Prop where
  files : ∀ fd, (host.file fd).isOpen = true → (host.file fd).Fresh ∧ fd < host.next
  attempts : ∀ a ∈ host.network.attempts, a.Fresh

def Host.provide (host : Host) (attempts : List Attempt) (exhausted : Bool) : Host :=
  { host with network := ⟨attempts⟩, exhausted }

namespace Half

variable {a b : Half} {g g' : File}

theorem Ledger.moved (h : Ledger a b) (ha : a.file.Moved g) (hb : b.file.Moved g') :
    Ledger (a.withFile g) (b.withFile g') := by
  obtain ⟨hsound, hreceived⟩ := ha.sound h.sound
  refine ⟨hsound, ?_⟩
  calc g.received = b.passed := hreceived.trans h.bytes
    _ = (b.withFile g').passed := by rw [passed, passed, ← hb.sent]; rfl

/-- What the outside does keeps a pair linked. It adds to what was offered and takes away what may
still be written, and the ledgers are about what was read and what was written. -/
theorem Linked.moved (h : Linked a b) (ha : a.file.Moved g) (hb : b.file.Moved g') :
    Linked (a.withFile g) (b.withFile g') :=
  ⟨h.paired, h.there.moved ha hb, h.back.moved hb ha⟩

theorem Draining.moved (h : Draining a) (ha : a.file.Moved g) : Draining (a.withFile g) :=
  ⟨h.session, (ha.sound h.sound).1⟩

end Half

namespace Worker

variable {w w' : Worker} {id pid : SessionId} {s p : Session} {fd : Descriptor} {host : Host}

/-! ## Moves -/

theorem Settled.moved (h : w.Settled id s)
    (hmoved : ∀ fd, (w.host.file fd).Moved (host.file fd)) : (w.withHost host).Settled id s := by
  unfold Settled at h ⊢
  cases hp : s.peer with
  | none =>
    rw [hp] at h
    exact Half.Draining.moved h (hmoved s.fd)
  | some pid =>
    rw [hp] at h
    obtain ⟨p, hlook, hback, hlinked⟩ := h
    exact ⟨p, hlook, hback, hlinked.moved (hmoved s.fd) (hmoved p.fd)⟩

theorem moved_play (w : Worker) (fd : Descriptor) (m : Move) (fd' : Descriptor) :
    (w.host.file fd').Moved ((w.host.play fd m).file fd') := by
  rw [Host.file_play]
  split
  · next heq => exact heq ▸ File.moved_onFile m _
  · exact .refl _

/-- A move from outside keeps the worker in order. -/
theorem Sound.moved (h : w.Sound) (fd : Descriptor) (m : Move) :
    (w.withHost (w.host.play fd m)).Sound := by
  obtain ⟨hnext, hnetwork, -⟩ := w.host.play_fields fd m
  have hmoved := w.moved_play fd m
  have hadmits {b : Backend} (fd' : Descriptor) (ha : b.Admits (w.host.file fd').status) :
      b.Admits ((w.host.play fd m).file fd').status := by
    rw [Host.file_play]
    split
    · next heq => exact File.admits_onFile m (heq ▸ ha)
    · exact ha
  refine {
    enrolled := ⟨h.enrolled.poller, h.enrolled.control, h.enrolled.owned⟩
    stocked := ⟨h.stocked.pool, h.stocked.size, h.stocked.positive, h.stocked.lent,
      h.stocked.slots, h.stocked.buffers⟩
    housed := ⟨fun fd' hopen hown => ?_, fun fd' hopen => ?_, ?_⟩
    held := fun id s hs => ?_
    settled := fun id s hs hexc => (h.settled id s hs hexc).moved hmoved }
  · have hopen' := (hmoved fd').isOpen.symm.trans hopen
    exact (hmoved fd').fresh (h.housed.fresh fd' hopen' hown)
  · have hopen' := (hmoved fd').isOpen.symm.trans hopen
    show fd' < (w.host.play fd m).next
    rw [hnext]
    exact h.housed.next fd' hopen'
  · show ∀ a ∈ (w.host.play fd m).network.attempts, a.Fresh
    rw [hnetwork]
    exact h.housed.attempts
  · have hh := h.held id s hs
    exact ⟨hs, rfl, (hmoved s.fd).isOpen.trans hh.isOpen, hh.watched,
      hadmits s.fd hh.admitted⟩

theorem loose_play (hl : w.Loose fd) (fd' : Descriptor) (m : Move) :
    (w.withHost (w.host.play fd' m)).Loose fd :=
  ⟨(w.moved_play fd' m fd).isOpen.trans hl.1, hl.2⟩

/-! ## New files and attempts -/

theorem file_install (host : Host) (f : File) (fd : Descriptor) :
    (host.install f).2.file fd = if fd = host.next then f else host.file fd :=
  Host.file_put { host with next := host.next + 1 } host.next fd f

theorem Sound.arrived (h : w.Sound) (hf : f.Fresh) :
    (w.withHost (w.host.install f).2).Sound ∧ Admitted w (w.withHost (w.host.install f).2) := by
  have hlt : w.host.next < w.host.next + 1 := Int.lt_add_one_of_le (Int.le_refl _)
  refine h.widened (fun fd hfd => ?_) (fun _ => ⟨?_, hlt⟩) (Int.le_of_lt hlt) h.housed.attempts
  · rw [file_install, if_neg hfd]
  · rw [file_install, if_pos rfl]
    exact hf

/-- A new file that is open is no session's: its number was not given out before, and those of
sessions were. -/
theorem Sound.loose_install (h : w.Sound) (hf : f.isOpen = true) :
    (w.withHost (w.host.install f).2).Loose w.host.next := by
  refine ⟨?_, ?_⟩
  · show ((w.host.install f).2.file w.host.next).isOpen = true
    rw [file_install, if_pos rfl]
    exact hf
  · rintro ⟨id, s, hs, hfd⟩
    have hlt := h.housed.next s.fd (h.held id s hs).isOpen
    rw [hfd] at hlt
    exact Int.lt_irrefl _ hlt

theorem Sound.provided (h : w.Sound) {attempts : List Attempt} (ha : ∀ a ∈ attempts, a.Fresh)
    (exhausted : Bool) : (w.withHost (w.host.provide attempts exhausted)).Sound
      ∧ Admitted w (w.withHost (w.host.provide attempts exhausted)) := by
  refine h.widened (fun _ _ => rfl) ?_ (Int.le_refl _) ha
  intro hopen
  exact absurd (h.housed.next _ hopen) (Int.lt_irrefl _)

/-! ## The control pipe -/

theorem Sound.withControl (h : w.Sound) {control : Channel}
    (hread : control.readFd = w.control.readFd) : ({ w with control } : Worker).Sound :=
  h.of_same rfl rfl rfl rfl hread h.enrolled.poller rfl fun _ => rfl

/-! ## The making of a worker -/

/-- A worker is in order when it is made. -/
theorem sound_create {index : Nat} {settings : Settings} {control : Channel} (hhost : host.Fresh)
    (h : create index settings host control = .ok w) :
    w.Sound ∧ w.control = control ∧ w.incoming = [] := by
  unfold create at h
  dsimp only at h
  split at h
  · cases h
  · next poller hpoller =>
    split at h
    · cases h
    · next registered hadd =>
      split at h
      · cases h
      · next pool hpool =>
        split at h
        · cases h
        · next sessions hsessions =>
          cases h
          obtain rfl := Arena.create_ok hsessions
          obtain ⟨hsound, hnone⟩ := Poller.create_ok hpoller
          obtain ⟨hsound', -, -, hreg⟩ := Poller.add_ok hsound hadd
          obtain ⟨hpos, hsize, huse, hp⟩ := Pool.create_ok hpool
          have hempty (id : SessionId) : (Arena.empty : Arena Session).get? id = none := rfl
          refine ⟨{
            enrolled := ⟨hsound', ?_, fun fd r hr => ?_⟩
            stocked := ⟨hp, hsize, hpos, huse, Nat.zero_le _, fun id s hs => ?_⟩
            housed := ⟨fun fd hopen _ => (hhost.files fd hopen).1,
              fun fd hopen => ?_, hhost.attempts⟩
            held := fun id s hs => ?_
            settled := fun id s hs _ => ?_ }, rfl, rfl⟩
          · exact (hreg _).trans (if_pos rfl)
          · have hr := (hreg fd).symm.trans hr
            split at hr
            · next hfd => exact Or.inl hfd
            · rw [hnone] at hr
              cases hr
          · cases (hempty id).symm.trans hs
          · exact Int.lt_add_one_of_le (Int.le_of_lt (hhost.files fd hopen).2)
          · cases (hempty id).symm.trans hs
          · cases (hempty id).symm.trans hs

end Worker

end Sluice
