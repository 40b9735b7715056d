import Sluice.Socket.Host

/-!
# Attempts to connect

What an attempt to connect makes of a host (`Host.Dialed`): it uses up an attempt of the network,
and if it opens a stream, this takes the next descriptor. Nothing else of the host changes.
-/

namespace Sluice

namespace Host

/-- The answer to an attempt to connect, and the host after it. Everything that a caller has to know
is here: it never looks into the steps of the attempt, of which there are several that can fail. -/
inductive Dialed (h : Host) : Except IoError (Descriptor × ConnectStatus) × Host → Prop
  | failed {e : IoError} {h' : Host} (files : ∀ fd, h'.file fd = h.file fd)
      (next : h'.next = h.next) (network : h'.network.attempts ⊆ h.network.attempts)
      (exhausted : h'.exhausted = h.exhausted) : Dialed h (.error e, h')
  | opened {s : Stream} {a : Attempt} {status : ConnectStatus} {h' : Host}
      (mem : a ∈ h.network.attempts) (begun : a.outcome = .ok (s, status))
      (isOpen : s.nearOpen = true)
      (files : ∀ fd, h'.file fd = if fd = h.next then .stream s else h.file fd)
      (next : h'.next = h.next + 1) (network : h'.network.attempts ⊆ h.network.attempts)
      (exhausted : h'.exhausted = h.exhausted) : Dialed h (.ok (h.next, status), h')

/-- A number that says that nobody can be reached does not say that the call goes on, so that an
attempt beyond those that the network has in store always fails. -/
theorem isConnectPending_dead (remote : Endpoint) :
    (Network.dead remote).isConnectPending = false := by
  unfold Network.dead
  split
  · rfl
  · split
    · rfl
    · split <;> rfl

theorem attempt_mem (n : Network) (remote : Endpoint) :
    (n.attempt remote).2.attempts ⊆ n.attempts
      ∧ ((∃ e, (n.attempt remote).1.outcome = .error e) ∨ (n.attempt remote).1 ∈ n.attempts) := by
  unfold Network.attempt
  split
  · exact ⟨fun _ ha => ha, Or.inl ⟨_, if_neg (by simp [isConnectPending_dead])⟩⟩
  · next a rest heq =>
    rw [heq]
    exact ⟨List.subset_cons_self .., Or.inr (List.mem_cons_self ..)⟩

theorem nearOpen_of_prepared {s : Stream} {noDelay : Bool}
    (h : (File.stream s).prepareError? noDelay = none) : s.nearOpen = true := by
  unfold File.prepareError? at h
  split at h
  · cases h
  · next hn => simpa [File.isOpen] using hn

theorem dialed_connect (h : Host) (remote : Endpoint) (noDelay : Bool) :
    Dialed h (h.connect remote noDelay) := by
  obtain ⟨hsub, hmem⟩ := attempt_mem h.network remote
  let h₁ := { h with network := (h.network.attempt remote).2 }
  unfold connect
  split
  · exact .failed (fun _ => rfl) rfl (fun _ ha => ha) rfl
  · dsimp only
    split
    · exact .failed (fun _ => rfl) rfl hsub rfl
    · next s status hbegun =>
      have hmem := hmem.resolve_left fun ⟨e, he⟩ => by
        rw [hbegun] at he
        cases he
      split
      · exact .failed (fun _ => rfl) rfl hsub rfl
      · next hprepared =>
        exact .opened hmem hbegun (nearOpen_of_prepared hprepared)
          (fun fd => file_put { h₁ with next := h₁.next + 1 } h₁.next fd (.stream s)) rfl hsub rfl

/-! ## Attempts of two hosts -/

/-- The two hosts give out the same numbers and reach the same network, and their files are the same
but for those of `fds`. Hosts that were the same come to be so when the files of `fds` are used or
closed. -/
structure SameBut (fds : List Descriptor) (h h' : Host) : Prop where
  files : ∀ fd, fd ∉ fds → h'.file fd = h.file fd
  next : h'.next = h.next
  network : h'.network = h.network
  exhausted : h'.exhausted = h.exhausted

variable {h h' : Host} {fds : List Descriptor}

theorem SameBut.install (hs : SameBut fds h h') (f : File) :
    (h'.install f).1 = (h.install f).1 ∧ SameBut fds (h.install f).2 (h'.install f).2 := by
  have hfile (k : Host) (fd : Descriptor) :
      (k.install f).2.file fd = if fd = k.next then f else k.file fd :=
    file_put { k with next := k.next + 1 } k.next fd f
  refine ⟨hs.next, ⟨fun fd hfd => ?_, congrArg (· + 1) hs.next, hs.network, hs.exhausted⟩⟩
  rw [hfile, hfile, hs.next, hs.files fd hfd]

theorem SameBut.close (hs : SameBut fds h h') (fd : Descriptor) :
    SameBut fds (h.close fd) (h'.close fd) := by
  refine ⟨fun fd' hfd' => ?_, hs.next, hs.network, hs.exhausted⟩
  rw [file_close, file_close]
  split
  · next heq => rw [← heq, hs.files fd' hfd']
  · exact hs.files fd' hfd'

/-- An attempt to connect does not see the files that are there. -/
theorem SameBut.connect (hs : SameBut fds h h') (remote : Endpoint) (noDelay : Bool) :
    (h'.connect remote noDelay).1 = (h.connect remote noDelay).1
      ∧ SameBut fds (h.connect remote noDelay).2 (h'.connect remote noDelay).2 := by
  have hused : SameBut fds { h with network := (h.network.attempt remote).2 }
      { h' with network := (h.network.attempt remote).2 } :=
    ⟨hs.files, hs.next, rfl, hs.exhausted⟩
  unfold Host.connect
  rw [hs.network]
  by_cases hx : h.exhausted = true
  · rw [if_pos hx, if_pos (hs.exhausted.trans hx)]
    exact ⟨rfl, hs⟩
  · rw [if_neg hx, if_neg (hs.exhausted ▸ hx)]
    dsimp only
    cases (h.network.attempt remote).1.outcome with
    | error e => exact ⟨rfl, hused⟩
    | ok begun =>
      obtain ⟨s, status⟩ := begun
      dsimp only
      cases (File.stream s).prepareError? noDelay with
      | some e => exact ⟨rfl, hused⟩
      | none =>
        obtain ⟨hnumber, hinstalled⟩ := hused.install (.stream s)
        exact ⟨congrArg (fun fd => Except.ok (fd, status)) hnumber, hinstalled⟩

end Host

end Sluice
