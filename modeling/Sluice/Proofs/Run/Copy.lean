import Mathlib.Algebra.Order.Floor.Div
import Sluice.Proofs.Pair.Copy
import Sluice.Proofs.Run.Isolation

/-!
# Readable events as copying

A session that reads from a socket which only gives what is queued there, with a peer whose socket
takes bytes (`Worker.Flowing`). A readable event of it copies the front of the queue to the peer's
socket (`Worker.Copied`), as many bytes as one event may move, and does nothing else. Events that
follow go on where it stopped, so that as many as it takes copy the whole queue
(`Site.Reachable.readable_copies`).
-/

namespace Sluice

namespace Worker

variable {w w' w₁ : Worker} {id pid : SessionId} {s p : Session} {e : Event} {n m : Nat}

/-- Session `id` reads, its socket has nothing to tell but the bytes that are queued there, and the
socket of its peer takes bytes. -/
structure Flowing (w : Worker) (id pid : SessionId) (s p : Session) : Prop where
  session : w.session? id = some s
  peer : w.session? pid = some p
  linked : s.peer = some pid
  reading : s.awaitingReadable = true
  pours : (w.host.file s.fd).Pours
  accepts : (w.host.file p.fd).Accepts

/-- From `w` to `w'` the first `n` bytes queued at session `id`, or all of them, were moved to the
socket of its peer, with nothing left staged there. Both sessions are otherwise what they were, and
so is everything else. -/
structure Copied (n : Nat) (id pid : SessionId) (s p : Session) (w w' : Worker) : Prop where
  peer : ∃ staging : Staging, staging.pending = 0 ∧ w'.session? pid = some { p with staging }
  sessions : ∀ x, x ≠ pid → w'.session? x = w.session? x
  registrations : ∀ fd, w'.poller.registration? fd = w.poller.registration? fd
  read : (w'.host.file s.fd).incoming = (w.host.file s.fd).incoming.drop n
  sent : (w'.host.file p.fd).sent = (w.host.file p.fd).sent ++ (w.host.file s.fd).incoming.take n
  outgoing : (w'.host.file p.fd).outgoing
    = (w.host.file p.fd).outgoing ++ (w.host.file s.fd).incoming.take n
  back : (w'.host.file p.fd).incoming = (w.host.file p.fd).incoming
    ∧ (w'.host.file s.fd).outgoing = (w.host.file s.fd).outgoing
  files : ∀ fd, fd ≠ s.fd → fd ≠ p.fd → w'.host.file fd = w.host.file fd
  pool : w'.pool = w.pool
  control : w'.control = w.control
  settings : w'.settings = w.settings

/-! ## One event -/

def stride (w : Worker) : Nat :=
  w.settings.bufferSize * w.settings.maxOpsPerFd

/-- What copying between two halves makes of the worker that holds them. The pair flows on after it,
so that the next event can copy from where this one has stopped. -/
theorem Sound.copied_of_attends {r : Outcome} (h : w.Sound) (hf : w.Flowing id pid s p)
    (ha : Attends w w' id pid r.self r.peer)
    (hc : Half.Copies n (w.half s) (w.half p) r.self r.peer) :
    Copied n id pid s p w w' ∧ ∃ staging, w'.Flowing id pid s { p with staging } := by
  have hself : r.self.session = s := hc.self
  have hpeer : r.peer.session = { p with staging := r.peer.session.staging } := hc.peer
  have hfd : r.self.session.fd = s.fd := congrArg Session.fd hself
  have hfd' : r.peer.session.fd = p.fd := by rw [hpeer]
  have hfile : w'.host.file s.fd = r.self.file := hfd ▸ ha.self.file
  have hfile' : w'.host.file p.fd = r.peer.file := hfd' ▸ ha.peer.file
  have hs' : w'.session? id = some s := ha.self.session.trans (congrArg some hself)
  have hp' : w'.session? pid = some { p with staging := r.peer.session.staging } :=
    ha.peer.session.trans (congrArg some hpeer)
  refine ⟨?_, r.peer.session.staging, ⟨hs', hp', hf.linked, hf.reading, ?_, ?_⟩⟩
  · exact {
      peer := ⟨_, hc.idle, hp'⟩
      sessions := fun x hx => by
        by_cases hid : x = id
        · rw [hid, hs', hf.session]
        · exact ha.within.sessions x (by simp [hid, hx])
      registrations := fun fd => by
        -- the flags are what they were, so the poller watches for the same
        by_cases hself' : fd = s.fd
        · have hwatched := ha.self.watched
          rw [hself] at hwatched
          rw [hself', hwatched]
          exact (h.held id s hf.session).watched.symm
        · by_cases hpeer' : fd = p.fd
          · have hwatched := ha.peer.watched
            rw [hpeer] at hwatched
            rw [hpeer', hwatched]
            exact (h.held pid p hf.peer).watched.symm
          · exact ha.within.watched fd (by rw [hfd, hfd']; simp [hself', hpeer'])
      read := hfile ▸ hc.incoming
      sent := hfile' ▸ hc.writes.sent
      outgoing := hfile' ▸ hc.outgoing
      back := ⟨hfile' ▸ hc.writes.incoming, hfile ▸ hc.reads.outgoing⟩
      files := fun fd hself' hpeer' => ha.within.files fd (by rw [hfd, hfd']; simp [hself', hpeer'])
      pool := ha.within.pool
      control := ha.within.control
      settings := ha.within.settings }
  · rw [hfile]
    exact hf.pours.used hc.reads.used
  · exact hfile' ▸ hf.accepts.writes hc.writes

/-- A readable event moves what one event may move. Nothing else that it may tell of is for a
session with no error and nothing to write. -/
theorem Sound.copied_of_readable (h : w.Sound) (hf : w.Flowing id pid s p)
    (htoken : e.token = Session.token id)
    (hr : e.readable = true) (hw : e.writable = true → s.awaitingWritable = false) :
    ∃ w', onSessionReady e w = .ok false w' ∧ w'.Sound ∧ Copied w.stride id pid s p w w'
      ∧ ∃ staging, w'.Flowing id pid s { p with staging } := by
  have hid : Session.ofToken e.token = id := by rw [htoken, Session.ofToken_token]
  obtain ⟨-, -, hl⟩ := h.linked_peer hf.session hf.peer hf.linked
  have hlen := (h.stocked.buffers pid p hf.peer).trans h.stocked.size
  have hflows : (w.half s).Flows (w.half p) := by
    refine ⟨hf.pours, hf.accepts, ?_, hlen.symm ▸ h.stocked.positive⟩
    exact Half.window_eq_nil_iff.mp (hl.window_of_reading hf.reading)
  have hconnected := (hl.paired.there.reading_iff.mp hf.reading).1
  obtain ⟨a', b', hevent, hc⟩ : ∃ a' b',
      Half.onEvent w.settings.maxOpsPerFd e (w.half s) (w.half p) = ⟨none, a', b'⟩
        ∧ Half.Copies ((w.half p).session.staging.buffer.length * w.settings.maxOpsPerFd)
          (w.half s) (w.half p) a' b' :=
    Half.copies_onEvent hflows hf.reading hconnected hr hw
  obtain ⟨w', hok, ha⟩ := h.onSessionReady_pair (e := e) (hid.symm ▸ hf.session) hf.peer hf.linked
    hevent.symm rfl
  rw [hid] at ha
  rw [show (w.half p).session.staging.buffer.length = w.settings.bufferSize from hlen] at hc
  exact ⟨w', hok, h.handled (h.handled_of_ok hok), h.copied_of_attends hf ha hc⟩

/-! ## Several events -/

theorem Copied.refl (hf : w.Flowing id pid s p) (hidle : p.pending = 0) :
    Copied 0 id pid s p w w where
  peer := ⟨p.staging, hidle, hf.peer⟩
  sessions _ _ := rfl
  registrations _ := rfl
  read := rfl
  sent := (List.append_nil _).symm
  outgoing := (List.append_nil _).symm
  back := ⟨rfl, rfl⟩
  files _ _ _ := rfl
  pool := rfl
  control := rfl
  settings := rfl

theorem Copied.trans {staging : Staging} (h : Copied n id pid s p w w₁)
    (h' : Copied m id pid s { p with staging } w₁ w') : Copied (n + m) id pid s p w w' where
  peer := h'.peer
  sessions x hx := (h'.sessions x hx).trans (h.sessions x hx)
  registrations fd := (h'.registrations fd).trans (h.registrations fd)
  read := by rw [h'.read, h.read, List.drop_drop]
  sent := by
    have hsent := h'.sent
    dsimp only at hsent
    rw [hsent, h.sent, h.read, List.append_assoc, ← List.take_add]
  outgoing := by
    have hout := h'.outgoing
    dsimp only at hout
    rw [hout, h.outgoing, h.read, List.append_assoc, ← List.take_add]
  back := ⟨h'.back.1.trans h.back.1, h'.back.2.trans h.back.2⟩
  files fd hs hp := (h'.files fd hs hp).trans (h.files fd hs hp)
  pool := h'.pool.trans h.pool
  control := h'.control.trans h.control
  settings := h'.settings.trans h.settings

/-- Moving more bytes than there are is moving all. A last event that finds less than it may move is
reckoned like this. -/
theorem Copied.all (h : Copied n id pid s p w w') (hn : (w.host.file s.fd).incoming.length ≤ n) :
    Copied (w.host.file s.fd).incoming.length id pid s p w w' :=
  { h with
    read := by rw [h.read, List.drop_of_length_le hn, List.drop_length]
    sent := by rw [h.sent, List.take_of_length_le hn, List.take_length]
    outgoing := by rw [h.outgoing, List.take_of_length_le hn, List.take_length] }

/-- The event once again goes on where it stopped. The induction is on how often it comes; it
destroys nothing, so that a batch of such events is handled to its end. -/
theorem Sound.copied_of_replicate (k : Nat) (h : w.Sound) (hf : w.Flowing id pid s p)
    (htoken : e.token = Session.token id) (hr : e.readable = true)
    (hw : e.writable = true → s.awaitingWritable = false) :
    ∃ w', handleBatch (List.replicate k e) w = .ok ⟨⟩ w'
      ∧ Copied (w.stride * k) id pid s p w w' := by
  induction k generalizing w p with
  | zero =>
    refine ⟨w, rfl, .refl hf ?_⟩
    obtain ⟨-, -, hl⟩ := h.linked_peer hf.session hf.peer hf.linked
    exact Half.window_eq_nil_iff.mp (hl.window_of_reading hf.reading)
  | succ k ih =>
    obtain ⟨w₁, hok, h₁, hcopied, staging, hf₁⟩ := h.copied_of_readable hf htoken hr hw
    obtain ⟨w', hrest, hcopied'⟩ := ih h₁ hf₁
    have hsession : e.token ≠ .control := htoken ▸ h.stocked.token_ne_control hf.session
    refine ⟨w', ?_, ?_⟩
    · rw [List.replicate_succ, handleBatch, if_neg hsession, bind_of_ok hok]
      exact hrest
    · rw [show w₁.stride = w.stride by rw [stride, stride, hcopied.settings]] at hcopied'
      rw [Nat.mul_succ, Nat.add_comm]
      exact hcopied.trans hcopied'

end Worker

namespace Site

open Worker

variable {σ : Site} {w : Worker} {id pid : SessionId} {s p : Session} {e : Event}

/-- One readable event moves the bytes that are queued at its session to the peer's socket, as many
as fill the buffer as often as an event may, in order, however small the pieces are that the socket
takes them in. Nothing is staged then, no flag has changed and no session is gone. Events repeated
go on with the rest, and as many as there are such portions of the queue, rounded up, are one copy
of it. -/
theorem Reachable.readable_copies (h : Reachable σ) (hv : σ.Visits w) (hf : w.Flowing id pid s p)
    (htoken : e.token = Session.token id) (hr : e.readable = true)
    (hw : e.writable = true → s.awaitingWritable = false) (hops : 0 < w.settings.maxOpsPerFd) :
    (∃ w', onSessionReady e w = .ok false w' ∧ Copied w.stride id pid s p w w')
      ∧ (∀ k, ∃ w', handleBatch (List.replicate k e) w = .ok ⟨⟩ w'
        ∧ Copied (w.stride * k) id pid s p w w')
      ∧ ∃ w', handleBatch
        (List.replicate ((w.host.file s.fd).incoming.length ⌈/⌉ w.stride) e) w = .ok ⟨⟩ w'
        ∧ Copied (w.host.file s.fd).incoming.length id pid s p w w' := by
  have hsound := hv.sound h
  have hstride : 0 < w.stride := Nat.mul_pos hsound.stocked.positive hops
  obtain ⟨w₁, hok, -, hcopied, -⟩ := hsound.copied_of_readable hf htoken hr hw
  refine ⟨⟨w₁, hok, hcopied⟩, fun k => hsound.copied_of_replicate k hf htoken hr hw, ?_⟩
  obtain ⟨w', hbatch, hcopied'⟩ := hsound.copied_of_replicate
    ((w.host.file s.fd).incoming.length ⌈/⌉ w.stride) hf htoken hr hw
  exact ⟨w', hbatch, hcopied'.all (le_smul_ceilDiv hstride)⟩

/-- A buffer of four bytes and two rounds move eight bytes at once. Ten bytes are queued, and the
peer's socket takes them in pieces of one byte and of three, and is interrupted: two events copy
them. -/
theorem readable_copies_ten : ∃ (σ : Site) (s p : Session) (w' : Worker), Reachable σ
    ∧ σ.worker.Flowing 0 1 s p ∧ σ.worker.stride = 8
    ∧ (σ.worker.host.file s.fd).incoming = [0, 1, 2, 3, 4, 5, 6, 7, 8, 9]
    ∧ handleBatch [⟨Session.token 0, true, false, false⟩,
      ⟨Session.token 0, true, false, false⟩] σ.worker
      = .ok ⟨⟩ w'
    ∧ Copied 10 0 1 s p σ.worker w' := by
  obtain ⟨w, hw, h, s, p, hs, hp, hpeer, hfd, hfd', hreads, hfile, hfile'⟩ := exists_pair
  have hsettings : w.settings.bufferSize = 4 ∧ w.settings.maxOpsPerFd = 2 := by
    have hall : pairedWorker.map (fun w => (w.settings.bufferSize, w.settings.maxOpsPerFd))
        = some (4, 2) := rfl
    rw [hw] at hall
    simpa using hall
  have hσ := ((h.step (.move 3 (.write [0, 1, 2, 3, 4, 5, 6, 7, 8, 9]))).step
    (.move 3 (.disturb [.interrupted] []))).step
    (.move 4 (.disturb [] [.short 0, .interrupted, .short 2, .interrupted]))
  let host := ((w.host.play 3 (.write [0, 1, 2, 3, 4, 5, 6, 7, 8, 9])).play 3
    (.disturb [.interrupted] [])).play 4
      (.disturb [] [.short 0, .interrupted, .short 2, .interrupted])
  have hread : host.file 3 = .stream { Stream.pair with
      inbound := Lane.write {} [0, 1, 2, 3, 4, 5, 6, 7, 8, 9], reads := [.interrupted] } := by
    simp only [host, Host.file_play, hfile]
    rfl
  have hwrite : host.file 4 = .stream { Stream.pair with
      writes := [.short 0, .interrupted, .short 2, .interrupted] } := by
    simp only [host, Host.file_play, hfile']
    rfl
  have hf : (w.withHost host).Flowing 0 1 s p := by
    refine ⟨hs, hp, hpeer, hreads, ?_, ?_⟩
    · rw [hfd]
      exact hread ▸ ⟨rfl, rfl, rfl, rfl, by simp⟩
    · rw [hfd']
      exact hwrite ▸ ⟨rfl, rfl, rfl, rfl, by simp⟩
  have hqueue : ((w.withHost host).host.file s.fd).incoming = [0, 1, 2, 3, 4, 5, 6, 7, 8, 9] := by
    rw [hfd]
    exact congrArg File.incoming hread
  have hstride : (w.withHost host).stride = 8 := by
    show w.settings.bufferSize * w.settings.maxOpsPerFd = 8
    rw [hsettings.1, hsettings.2]
  obtain ⟨-, -, w', hbatch, hcopied⟩ := hσ.readable_copies (w := w.withHost host)
    (e := ⟨Session.token 0, true, false, false⟩) .between hf rfl rfl nofun
    (show 0 < w.settings.maxOpsPerFd by rw [hsettings.2]; decide)
  rw [hqueue, hstride] at hbatch
  rw [hqueue] at hcopied
  exact ⟨_, s, p, w', hσ, hf, hstride, hqueue, hbatch, hcopied⟩

end Site

end Sluice
