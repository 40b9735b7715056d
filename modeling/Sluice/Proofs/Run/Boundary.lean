import Sluice.Proofs.Run.Site

/-!
# What holds between turns

Three invariants of every site that can be reached. What was read from one socket of a pair was
written to the other or is staged there (`Reachable.relay_integrity`). The flags of a session follow
from what is staged and from who is connecting (`Reachable.flags_regular`). The poller, the pool and
the links of the sessions agree with each other (`Reachable.stores_agree`).

Descriptors that were closed are left behind everywhere (`Reachable.closed_forgotten`).
-/

namespace Sluice

namespace Worker

variable {w : Worker} {id pid : SessionId} {s p : Session} {except : List SessionId}

/-! ## Bytes -/

/-- All that was read from the socket of `s` was written to that of `p` or is staged there, and what
was written is the beginning of what was sent to `s` from outside. -/
structure Relays (w : Worker) (s p : Session) : Prop where
  read : (w.host.file s.fd).received = (w.host.file p.fd).sent ++ p.staging.window
  written : (w.host.file p.fd).sent <+: (w.host.file s.fd).offered

theorem relays_of_ledger (h : (w.half s).Ledger (w.half p)) : Relays w s p := by
  refine ⟨h.bytes, List.IsPrefix.trans ?_ h.sound.received_prefix⟩
  rw [h.bytes]
  exact List.prefix_append ..

/-! ## Flags -/

/-- What the flags of a session say: that it has bytes to write, that it is being connected, that it
reads, and, without a peer, that it drains. -/
structure Regular (w : Worker) (s : Session) : Prop where
  blocked : s.awaitingWritable = true ↔ 0 < s.pending
  closing : s.closeAfterFlush = true ↔ s.peer = none
  alone : s.peer = none → s.awaitingWritable = true ∧ s.awaitingReadable = false
  connecting : s.awaitingConnect = true → s.role = .remoteSide
    ∧ ∃ pid p, s.peer = some pid ∧ w.session? pid = some p
      ∧ s.awaitingReadable = false ∧ p.awaitingReadable = false ∧ s.pending = 0 ∧ p.pending = 0
  linked : ∀ pid, s.peer = some pid → ∃ p, w.session? pid = some p
    ∧ (s.awaitingReadable = true
      ↔ s.awaitingConnect = false ∧ p.awaitingConnect = false ∧ p.awaitingWritable = false)
    ∧ (s.awaitingReadable = true → p.pending = 0)
    ∧ (s.awaitingConnect = false → p.awaitingConnect = false → p.pending = 0 →
      s.awaitingReadable = true)

theorem regular_of_draining (h : s.Draining) (hpeer : s.peer = none) : Regular w s where
  blocked := iff_of_true h.blocked h.pending
  closing := iff_of_true h.closing hpeer
  alone _ := ⟨h.blocked, h.paused⟩
  connecting hc := by
    rw [h.connected] at hc
    cases hc
  linked pid hpid := by
    rw [hpeer] at hpid
    cases hpid

theorem regular_of_paired (h : s.Paired p) (hp : w.session? pid = some p)
    (hpeer : s.peer = some pid) :
    Regular w s where
  blocked := h.there.settled
  closing := by
    rw [h.there.stays, hpeer]
    exact iff_of_false Bool.false_ne_true (Option.some_ne_none pid)
  alone hnone := by
    rw [hpeer] at hnone
    cases hnone
  connecting hc := by
    obtain ⟨hrole, hs, hp'⟩ := h.there.connecting hc
    refine ⟨hrole, pid, p, hpeer, hp, ?_, ?_, hs, hp'⟩
    · rw [h.there.reading, hc]
      rfl
    · rw [h.back.reading, hc, Bool.not_true, Bool.and_false, Bool.false_and]
  linked pid' hpid := by
    obtain rfl := Option.some.inj (hpeer.symm.trans hpid)
    refine ⟨p, hp, h.there.reading_iff, fun hr => ?_, fun hs hp' hdrained => ?_⟩
    · exact h.back.pending_eq_zero (h.there.reading_iff.mp hr).2.2
    · exact h.there.reading_iff.mpr ⟨hs, hp', h.back.blocked_eq_false hdrained⟩

/-! ## Stores -/

/-- The registrations that a worker needs: the control pipe, and each session under its slot. -/
def needed (w : Worker) : List Registration :=
  ⟨w.control.readFd, .control, .readable⟩ :: w.sessions.toList.map fun x =>
    ⟨x.2.fd, Session.token x.1, x.2.interest⟩

theorem mem_needed {m : Registration} : m ∈ w.needed ↔ m = ⟨w.control.readFd, .control, .readable⟩
    ∨ ∃ id s, w.session? id = some s ∧ m = ⟨s.fd, Session.token id, s.interest⟩ := by
  rw [needed, List.mem_cons, List.mem_map]
  refine or_congr_right ⟨?_, ?_⟩
  · rintro ⟨⟨id, s⟩, hmem, rfl⟩
    exact ⟨id, s, Arena.mem_toList.mp hmem, rfl⟩
  · rintro ⟨id, s, hs, rfl⟩
    exact ⟨(id, s), Arena.mem_toList.mpr hs, rfl⟩

theorem SoundBut.nodup_needed (h : SoundBut except w) : w.needed.Nodup := by
  refine List.nodup_cons.mpr ⟨fun hmem => ?_, ?_⟩
  · obtain ⟨⟨id, s⟩, hs, heq⟩ := List.mem_map.mp hmem
    exact h.fd_ne_control (Arena.mem_toList.mp hs) (congrArg Registration.fd heq)
  · refine (Arena.nodup_toList _).map_on ?_
    intro x hx y hy heq
    have hs := Arena.mem_toList.mp hx
    obtain ⟨id, s⟩ := x
    obtain ⟨pid, p⟩ := y
    have hid : id = pid := congrArg (fun m => Session.ofToken (Registration.token m)) heq
    subst hid
    exact Prod.ext rfl (Option.some.inj (hs.symm.trans (Arena.mem_toList.mp hy)))

/-- The poller holds the needed registrations and no others. It is a permutation and no equality,
because they are listed in the order in which they were made. -/
theorem SoundBut.registrations_perm (h : SoundBut except w) :
    w.poller.registrations.Perm w.needed := by
  have hs := h.enrolled.poller
  refine (List.perm_ext_iff_of_nodup (Poller.nodup_registrations hs).of_map h.nodup_needed).mpr
    fun m => ?_
  rw [h.mem_registrations, mem_needed]

/-- The stores of a worker agree: what the poller watches, what the pool has lent and how the
sessions are linked all belong to the same sessions. -/
structure Agrees (w : Worker) : Prop where
  registrations : w.poller.registrations.Perm w.needed
  distinct : (w.poller.registrations.map (·.fd)).Nodup
  lent : w.buffersInUse = w.sessionCount
  buffers : ∀ id s, w.session? id = some s →
    s.staging.buffer.length = w.settings.bufferSize
  available : w.pool.available.length + w.buffersInUse = w.pool.capacity
  links : ∀ id s pid, w.session? id = some s → s.peer = some pid → id ≠ pid
    ∧ ∃ p, w.session? pid = some p ∧ p.peer = some id
      ∧ (s.role = .clientSide ∧ p.role = .remoteSide
        ∨ s.role = .remoteSide ∧ p.role = .clientSide)
  tokens : ∀ id s, w.session? id = some s → Session.token id ≠ .control

theorem opposite_roles {r r' : Role} (h : r ≠ r') :
    r = .clientSide ∧ r' = .remoteSide ∨ r = .remoteSide ∧ r' = .clientSide := by
  cases r <;> cases r' <;> simp_all

theorem Sound.agrees (h : w.Sound) : Agrees w where
  registrations := h.registrations_perm
  distinct := Poller.nodup_registrations h.enrolled.poller
  lent := h.stocked.lent
  buffers id s hs := (h.stocked.buffers id s hs).trans h.stocked.size
  available := w.pool.available_add_inUse
  links id s pid hs hpeer := by
    obtain ⟨p, hp, hback, hl, hne, -⟩ := h.linked hs List.not_mem_nil hpeer
    exact ⟨hne, p, hp, hback, opposite_roles hl.paired.there.role⟩
  tokens _ _ hs := h.stocked.token_ne_control hs

end Worker

namespace Site

open Worker

variable {σ : Site} {id pid : SessionId} {s : Session}

/-! ## At every turn boundary -/

/-- Two pairs at work. In a turn the first pair exchanges bytes, of which session 1 can write only
one for now, and the way out of the second pair is full. Then the first session of the second pair
is destroyed, so that session 3 has to write what it was sent before it goes, and a third pair is
attached that is still being connected. It gets the slot that has become free, and another one. -/
def busyWorker : Option Worker := do
  let w ← joined .connected (← pairedWorker)
  let w ← after turn (played w [(4, .disturb [] [.short 0, .wouldBlock]), (3, .write [1, 2, 3]),
    (4, .write [9]), (6, .jam), (5, .write [7, 8])])
  let w ← after (destroy 2) w
  joined .inProgress w

theorem exists_busy : ∃ w, busyWorker = some w ∧ Reachable { worker := w } := by
  obtain ⟨w', hw'⟩ : ∃ w', busyWorker = some w' :=
    Option.isSome_iff_exists.mp (by decide +kernel)
  refine ⟨w', hw', ?_⟩
  obtain ⟨w, hw, h, -⟩ := exists_pair
  rw [busyWorker, hw] at hw'
  simp only [Option.bind_eq_bind, Option.bind_some, Option.bind_eq_some_iff] at hw'
  obtain ⟨w₁, hjoined, w₂, hafter, w₃, hgone, hw'⟩ := hw'
  obtain ⟨_, hturn⟩ := exists_of_after hafter
  obtain ⟨_, hdestroy⟩ := exists_of_after hgone
  exact ((((h.joined hjoined).played _).step (.turn hturn)).step (.destroy hdestroy)).joined hw'

/-- Nothing is lost, duplicated, reordered or mixed up between the two sockets of a pair, in either
direction. -/
theorem Reachable.relay_integrity (h : Reachable σ) (hs : σ.worker.session? id = some s)
    (hpeer : s.peer = some pid) : ∃ p, σ.worker.session? pid = some p
      ∧ σ.worker.Relays s p ∧ σ.worker.Relays p s := by
  obtain ⟨p, hp, -, hl, -, -⟩ := h.sound.worker.linked hs List.not_mem_nil hpeer
  exact ⟨p, hp, Worker.relays_of_ledger hl.there, Worker.relays_of_ledger hl.back⟩

/-- Of three bytes that were read from one socket, one is written to the other and two are staged.
What came the other way was written at once. -/
theorem relay_integrity_of_busy : ∃ σ : Site, σ.Reachable ∧ ∃ s p, σ.worker.session? 0 = some s
    ∧ s.peer = some 1 ∧ σ.worker.session? 1 = some p
    ∧ (σ.worker.host.file s.fd).received = [1, 2, 3]
    ∧ (σ.worker.host.file p.fd).sent = [1] ∧ p.staging.window = [2, 3]
    ∧ (σ.worker.host.file p.fd).received = [9] ∧ (σ.worker.host.file s.fd).sent = [9]
    ∧ σ.worker.Relays s p ∧ σ.worker.Relays p s := by
  obtain ⟨w, hw, h⟩ := exists_busy
  have hall : busyWorker.any (fun w => (w.session? 0).any fun s => (w.session? 1).any fun p =>
      decide (s.peer = some 1 ∧ (w.host.file s.fd).received = [1, 2, 3]
        ∧ (w.host.file p.fd).sent = [1] ∧ p.staging.window = [2, 3]
        ∧ (w.host.file p.fd).received = [9] ∧ (w.host.file s.fd).sent = [9])) = true := by
    decide +kernel
  rw [hw, Option.any_some] at hall
  obtain ⟨s, hs, hall⟩ := (Option.any_eq_true _ _).mp hall
  obtain ⟨p, hp, hall⟩ := (Option.any_eq_true _ _).mp hall
  obtain ⟨hpeer, hread, hwritten, hstaged, hread', hwritten'⟩ := of_decide_eq_true hall
  obtain ⟨p', hp', hrelays⟩ := h.relay_integrity hs hpeer
  obtain rfl := Option.some.inj (hp.symm.trans hp')
  exact ⟨{ worker := w }, h, s, p, hs, hpeer, hp, hread, hwritten, hstaged, hread', hwritten',
    hrelays⟩

/-- The flags of every session say what they should, at every site: between turns nothing is half
done. -/
theorem Reachable.flags_regular (h : Reachable σ) (hs : σ.worker.session? id = some s) :
    σ.worker.Regular s := by
  have hw := h.sound.worker
  cases hpeer : s.peer with
  | none => exact Worker.regular_of_draining (hw.draining hs hpeer).session hpeer
  | some pid =>
    obtain ⟨p, hp, -, hl, -, -⟩ := hw.linked hs List.not_mem_nil hpeer
    exact Worker.regular_of_paired hl.paired hp hpeer

/-- A session that is paused, one that is blocked, one that drains and one that is being
connected. -/
theorem flags_regular_of_busy : ∃ σ : Site, σ.Reachable ∧ ∃ paused blocked draining connecting,
    (σ.worker.session? 0 = some paused ∧ paused.awaitingReadable = false
      ∧ paused.awaitingConnect = false ∧ σ.worker.Regular paused)
    ∧ (σ.worker.session? 1 = some blocked ∧ blocked.awaitingWritable = true
      ∧ blocked.peer = some 0 ∧ σ.worker.Regular blocked)
    ∧ (σ.worker.session? 3 = some draining ∧ draining.closeAfterFlush = true
      ∧ σ.worker.Regular draining)
    ∧ σ.worker.session? 4 = some connecting ∧ connecting.awaitingConnect = true
      ∧ σ.worker.Regular connecting := by
  obtain ⟨w, hw, h⟩ := exists_busy
  have hall : busyWorker.any (fun w =>
      (w.session? 0).any (fun s => decide (s.awaitingReadable = false ∧ s.awaitingConnect = false))
      && (w.session? 1).any (fun s => decide (s.awaitingWritable = true ∧ s.peer = some 0))
      && (w.session? 3).any (·.closeAfterFlush)
      && (w.session? 4).any (·.awaitingConnect)) = true := by
    decide +kernel
  rw [hw, Option.any_some] at hall
  simp only [Bool.and_eq_true, Option.any_eq_true, decide_eq_true_eq] at hall
  obtain ⟨⟨⟨⟨paused, hs₀, hpaused⟩, blocked, hs₁, hblocked⟩, draining, hs₃, hdrains⟩,
    connecting, hs₄, hconnects⟩ := hall
  exact ⟨{ worker := w }, h, paused, blocked, draining, connecting,
    ⟨hs₀, hpaused.1, hpaused.2, h.flags_regular hs₀⟩,
    ⟨hs₁, hblocked.1, hblocked.2, h.flags_regular hs₁⟩, ⟨hs₃, hdrains, h.flags_regular hs₃⟩,
    hs₄, hconnects, h.flags_regular hs₄⟩

/-- Poller, pool and sessions agree. No registration and no buffer is left over from a session that
was destroyed. -/
theorem Reachable.stores_agree (h : Reachable σ) : σ.worker.Agrees :=
  h.sound.worker.agrees

/-- Five sessions after a sixth was destroyed. Its slot has gone to a session of the third pair, and
its peer is still there. -/
theorem stores_agree_of_busy : ∃ σ : Site, σ.Reachable ∧ σ.worker.sessionCount = 5
    ∧ (σ.worker.host.file 5).isOpen = false
    ∧ (∃ s, σ.worker.session? 2 = some s ∧ s.fd = 7 ∧ s.peer = some 4)
    ∧ (∃ s, σ.worker.session? 3 = some s ∧ s.fd = 6 ∧ s.peer = none)
    ∧ σ.worker.poller.registrations.length = 6 ∧ σ.worker.Agrees := by
  obtain ⟨w, hw, h⟩ := exists_busy
  have hall : busyWorker.any (fun w =>
      decide (w.sessionCount = 5 ∧ (w.host.file 5).isOpen = false)
      && (w.session? 2).any (fun s => decide (s.fd = 7 ∧ s.peer = some 4))
      && (w.session? 3).any (fun s => decide (s.fd = 6 ∧ s.peer = none))
      && decide (w.poller.registrations.length = 6)) = true := by
    decide +kernel
  rw [hw, Option.any_some] at hall
  simp only [Bool.and_eq_true, Option.any_eq_true, decide_eq_true_eq] at hall
  obtain ⟨⟨⟨⟨hcount, hclosed⟩, hreused⟩, hleft⟩, hregistered⟩ := hall
  exact ⟨{ worker := w }, h, hcount, hclosed, hreused, hleft, hregistered, h.stores_agree⟩

/-- Nothing keeps a number past its closing. No session has it, the poller has nothing under it but
possibly the control pipe, which is not a file of the host, and no client on its way has it. So it
does not matter whether the system gives such a number out again. -/
theorem Reachable.closed_forgotten (h : Reachable σ) {fd : Descriptor}
    (hclosed : (σ.worker.host.file fd).isOpen = false) :
    ¬ σ.worker.Owned fd
      ∧ (σ.worker.poller.registration? fd ≠ none → fd = σ.worker.control.readFd)
      ∧ σ.worker.incoming = []
      ∧ ∃ clients : List Int32, σ.worker.control.held ++ σ.worker.control.queued ++ σ.unsent
          = Channel.encoded clients ∧ fd ∉ clients.map Int32.toInt := by
  have hw := h.sound.worker
  have hnobody : ¬ σ.worker.Owned fd := by
    rintro ⟨id, s, hs, rfl⟩
    have hopen : (σ.worker.host.file s.fd).isOpen = true := (hw.held id s hs).isOpen
    rw [hclosed] at hopen
    cases hopen
  obtain ⟨hidle, clients, hbytes, hwaiting, -⟩ := h.sound.supplied
  refine ⟨hnobody, fun hregistered => ?_, hidle, clients, hbytes, fun hmem => ?_⟩
  · obtain ⟨r, hr⟩ := Option.ne_none_iff_exists'.mp hregistered
    exact (hw.enrolled.owned fd r hr).resolve_right hnobody
  · have hopen := (hwaiting.loose fd hmem).1
    rw [hclosed] at hopen
    cases hopen

end Site

end Sluice
