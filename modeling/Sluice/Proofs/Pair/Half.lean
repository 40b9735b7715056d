import Sluice.Proofs.Socket.Ledger
import Sluice.Session.Basic

/-!
# The two halves of a pair

A relayed connection without the worker around it: two sessions, the files behind them, and what the
handlers of an event make of these. `Half.onEvent` is the whole of it. It says which of the two
sides has to be destroyed, if one has, and does not destroy it. A session that has lost its peer
takes events on its own (`Half.drain`).

No handler changes what a half is (`Half.Alike`): its descriptor, its role, its peer, the size of
its buffer, and what the outside has done to its file.
-/

namespace Sluice

/-- A session and the file behind its descriptor. -/
structure Half where
  session : Session
  file : File

/-- One of two halves, seen from the one that an event is for. The handlers know no client and no
remote side, and one lemma is enough for both directions. -/
inductive Side where
  | self
  | peer
  deriving DecidableEq, Repr

/-- How an event leaves the two halves, and the side that it dooms, if it dooms one. Nothing is
destroyed here, because that touches more than the two. -/
structure Outcome where
  doomed : Option Side
  self : Half
  peer : Half

/-- The session that the outcome dooms, for halves in these slots. -/
def Outcome.target (r : Outcome) (self peer : SessionId) : Option SessionId :=
  r.doomed.map fun
    | .self => self
    | .peer => peer

theorem Outcome.target_cases {r : Outcome} {self peer target : SessionId}
    (h : r.target self peer = some target) :
    (r.doomed = some .self ∧ target = self) ∨ (r.doomed = some .peer ∧ target = peer) := by
  rw [Outcome.target, Option.map_eq_some_iff] at h
  obtain ⟨side, hside, rfl⟩ := h
  cases side with
  | self => exact Or.inl ⟨hside, rfl⟩
  | peer => exact Or.inr ⟨hside, rfl⟩

/-- Goes on with `handler` if it is called for and nothing is doomed. -/
def Outcome.next (r : Outcome) (called : Bool) (handler : Half → Half → Outcome) : Outcome :=
  if r.doomed.isNone && called then handler r.self r.peer else r

namespace Half

/-! ## Small changes -/

def set (a : Half) (f : Session → Session) : Half :=
  { a with session := f a.session }

def withFile (a : Half) (file : File) : Half :=
  { a with file }

def stage (b : Half) (data : List UInt8) (fits : data.length ≤ b.session.staging.buffer.length) :
    Half :=
  { b with session := { b.session with staging := b.session.staging.stage data fits } }

def flush (a : Half) : Flush × Half :=
  let r := a.session.staging.flush a.file
  (r.1, { session := { a.session with staging := r.2.1 }, file := r.2.2 })

def takeError (a : Half) : Option IoError × Half :=
  let r := a.file.takeError
  (r.1, a.withFile r.2)

/-! ## The handlers -/

def onError (a b : Half) : Outcome :=
  let r := a.takeError
  ⟨if r.1.isSome then some .self else none, r.2, b⟩

/-- Moves bytes from `a` to `b`, at most so many times: a read, all of which is staged at `b`, and a
flush of `b`. It ends early when there is nothing to read, when `b` does not take all, and when
either file fails. -/
def relay (a b : Half) : Nat → Outcome
  | 0 => ⟨none, a, b⟩
  | rounds + 1 =>
    match hr : readSome a.file b.session.staging.buffer.length with
    | (.wouldBlock, file) => ⟨none, a.withFile file, b⟩
    | (.endOfStream, file) => ⟨some .self, a.withFile file, b⟩
    | (.failed _, file) => ⟨some .self, a.withFile file, b⟩
    | (.done data, file) =>
      let r := (b.stage data (length_readSome_le _ _ hr)).flush
      match r.1 with
      | .complete => relay (a.withFile file) r.2 rounds
      | .wouldBlock =>
        ⟨none, (a.withFile file).set fun s => { s with awaitingReadable := false },
          r.2.set fun s => { s with awaitingWritable := true }⟩
      | .failed _ => ⟨some .peer, a.withFile file, r.2⟩

theorem relay_succ (a b : Half) (rounds : Nat) {o : ReadOutcome} {file : File}
    (hr : readSome a.file b.session.staging.buffer.length = (o, file)) :
    relay a b (rounds + 1) =
      match o, hr with
      | .wouldBlock, _ => ⟨none, a.withFile file, b⟩
      | .endOfStream, _ => ⟨some .self, a.withFile file, b⟩
      | .failed _, _ => ⟨some .self, a.withFile file, b⟩
      | .done data, hr =>
        let r := (b.stage data (length_readSome_le _ _ hr)).flush
        match r.1 with
        | .complete => relay (a.withFile file) r.2 rounds
        | .wouldBlock =>
          ⟨none, (a.withFile file).set fun s => { s with awaitingReadable := false },
            r.2.set fun s => { s with awaitingWritable := true }⟩
        | .failed _ => ⟨some .peer, a.withFile file, r.2⟩ := by
  rw [relay]
  split <;> (next hr' => obtain ⟨rfl, rfl⟩ := Prod.mk.injEq .. |>.mp (hr'.symm.trans hr); rfl)

def onReadable (rounds : Nat) (a b : Half) : Outcome :=
  if a.session.awaitingReadable then relay a b rounds else ⟨none, a, b⟩

def resume (b : Half) : Half :=
  b.set fun s => { s with awaitingReadable := true }

/-- The connection of `a` stands, unless it says otherwise. -/
def onConnected (a b : Half) : Outcome :=
  let r := a.takeError
  match r.1 with
  | none =>
    ⟨none, r.2.set fun s => { s with awaitingConnect := false, awaitingReadable := true }, b.resume⟩
  | some e => ⟨if e = .os .inProgress then none else some .self, r.2, b⟩

/-- The file of `a` takes bytes again. -/
def onUnblocked (a b : Half) : Outcome :=
  let r := a.flush
  match r.1 with
  | .wouldBlock => ⟨none, r.2, b⟩
  | .failed _ => ⟨some .self, r.2, b⟩
  | .complete =>
    if a.session.closeAfterFlush then ⟨some .self, r.2, b⟩
    else
      ⟨none, r.2.set fun s => { s with staging := s.staging.clear, awaitingWritable := false },
        b.resume⟩

def onWritable (a b : Half) : Outcome :=
  if a.session.awaitingConnect then onConnected a b
  else if a.session.awaitingWritable then onUnblocked a b
  else ⟨none, a, b⟩

/-- The handlers that an event of `a` calls for, until one dooms a side. -/
def onEvent (rounds : Nat) (e : Event) (a b : Half) : Outcome :=
  (((⟨none, a, b⟩ : Outcome).next e.error onError).next e.readable (onReadable rounds)).next
    e.writable onWritable

/-- An event of a half without a peer: it writes what it still has, and is doomed when that is done
or fails. -/
def drain (e : Event) (a : Half) : Bool × Half :=
  let r := if e.error then a.takeError else (none, a)
  if r.1.isSome then (true, r.2)
  else if e.writable then
    let r' := r.2.flush
    (r'.1 ≠ .wouldBlock, r'.2)
  else (false, r.2)

/-! ## What a half stays -/

/-- The two are one half at different times. -/
structure Alike (a a' : Half) : Prop where
  fd : a'.session.fd = a.session.fd
  role : a'.session.role = a.session.role
  peer : a'.session.peer = a.session.peer
  length : a'.session.staging.buffer.length = a.session.staging.buffer.length
  used : a.file.Used a'.file

variable {a a' a'' b b' : Half}

theorem Alike.refl (a : Half) : a.Alike a :=
  ⟨rfl, rfl, rfl, rfl, .refl _⟩

theorem Alike.trans (h : a.Alike a') (h' : a'.Alike a'') : a.Alike a'' :=
  ⟨h'.fd.trans h.fd, h'.role.trans h.role, h'.peer.trans h.peer, h'.length.trans h.length,
    h.used.trans h'.used⟩

theorem alike_withFile {file : File} (h : a.file.Used file) : a.Alike (a.withFile file) :=
  ⟨rfl, rfl, rfl, rfl, h⟩

/-- Flags and staged bytes are no part of what a half is, and neither is anything else of its
session but these four. -/
theorem Alike.of_same (h : a.Alike a') (hfd : a''.session.fd = a'.session.fd)
    (hrole : a''.session.role = a'.session.role) (hpeer : a''.session.peer = a'.session.peer)
    (hlen : a''.session.staging.buffer.length = a'.session.staging.buffer.length)
    (hfile : a''.file = a'.file) : a.Alike a'' :=
  ⟨hfd.trans h.fd, hrole.trans h.role, hpeer.trans h.peer, hlen.trans h.length, hfile ▸ h.used⟩

theorem alike_resume (b : Half) : b.Alike b.resume :=
  ⟨rfl, rfl, rfl, rfl, .refl _⟩

theorem alike_takeError (a : Half) : a.Alike a.takeError.2 :=
  alike_withFile a.file.takeError_reads.used

theorem alike_flush (a : Half) : a.Alike a.flush.2 := by
  obtain ⟨data, hw, -, hbuf⟩ := a.session.staging.flush_writes a.file
  exact ⟨rfl, rfl, rfl, congrArg Buffer.length hbuf, hw.used⟩

theorem alike_stage (b : Half) (data : List UInt8)
    (fits : data.length ≤ b.session.staging.buffer.length) : b.Alike (b.stage data fits) :=
  ⟨rfl, rfl, rfl, Staging.length_buffer_stage _ _ fits, .refl _⟩

end Half

end Sluice
