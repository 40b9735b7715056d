import Sluice.Arena
import Sluice.Fault.Abort
import Sluice.Fault.StartFailure
import Sluice.Handoff.Channel
import Sluice.Log.Entry
import Sluice.Readiness.Poller
import Sluice.Session.Basic
import Sluice.Settings
import Sluice.Socket.Host

/-!
# Workers

A worker relays the connections that are handed to it. Its state holds all that it touches: the
files of the host, its poller, its pool of buffers, the sessions in their slots and the receiving
end of its control pipe. Its actions change that state and may stop for good; what was done before
the stop remains done.

This module holds the state, the making of a worker and the actions on one session at a time.
-/

namespace Sluice

structure Worker where
  index : Nat
  settings : Settings
  host : Host
  poller : Poller
  pool : Pool
  sessions : Arena Session
  control : Channel
  /-- The list through which clients are taken in; it is kept from one time to the next. -/
  incoming : List Descriptor := []
  /-- What was said, newest first. -/
  log : List LogEntry := []

namespace Worker

abbrev Act := EStateM Abort Worker

/-! ## Making a worker -/

/-- The system as the poller of a worker sees it: the files of the host, and the control pipe. -/
def viewWith (host : Host) (control : Channel) : SystemView where
  status fd := if fd = control.readFd then .live control.conditions else (host.file fd).status
  exhausted := host.exhausted

/-- Why a worker with these settings cannot have its storage, if it cannot. It begins with a buffer
and a slot for each session that it may expect; the buffers are made first. -/
def storageFault? (settings : Settings) : Option PanicCause :=
  match Pool.creationFault? settings.bufferSize settings.initialPoolSize with
  | some cause => some cause
  | none => allocationFault? settings.initialPoolSize Session.slotLength

/-- Makes a worker that listens to its control pipe and nothing else. -/
def create (index : Nat) (settings : Settings) (host : Host) (control : Channel) :
    Except StartFailure Worker :=
  let (fd, host) := host.reserve
  let view := viewWith host control
  match Poller.create settings.backend view fd with
  | .error e => .error (.refused (.poll e))
  | .ok poller =>
    match poller.add view control.readFd .control .readable with
    | .error e => .error (.refused (.poll e))
    | .ok registered =>
      match Pool.create settings.bufferSize settings.initialPoolSize with
      | .error cause => .error (.panicked cause)
      | .ok pool =>
        match Arena.create Session.slotLength settings.initialPoolSize with
        | .error cause => .error (.panicked cause)
        | .ok sessions =>
          .ok { index, settings, host, poller := registered, pool, sessions, control,
                log := [⟨.info, poller.greeting⟩] }

/-! ## Looking at a worker -/

def view (w : Worker) : SystemView :=
  viewWith w.host w.control

def session? (w : Worker) (id : SessionId) : Option Session :=
  w.sessions.get? id

/-- How many sessions live. -/
def sessionCount (w : Worker) : Nat :=
  w.sessions.size

/-- How many buffers the sessions hold. -/
def buffersInUse (w : Worker) : Nat :=
  w.pool.inUse

/-! ## Small actions -/

def fatal {α : Type} (cause : FatalCause) : Act α :=
  throw (.fatal cause)

def panic {α : Type} (cause : PanicCause) : Act α :=
  throw (.panic cause)

def say (level : Level) (text : String) : Act Unit :=
  modify fun w => { w with log := ⟨level, text⟩ :: w.log }

/-- Changes the files of the host. -/
def modifyHost (f : Host → Host) : Act Unit :=
  modify fun w => { w with host := f w.host }

/-- The session in slot `id`, which has to be there. -/
def session (id : SessionId) : Act Session := do
  match (← get).session? id with
  | some s => return s
  | none => fatal (.unknownSession id)

def modifySession (id : SessionId) (f : Session → Session) : Act Unit :=
  modify fun w => { w with sessions := w.sessions.modify id f }

/-- Takes over the poller that a registration left behind, if it did not fail. -/
def registered (change : Worker → Except PollError Poller) : Act Unit := do
  let w ← get
  match change w with
  | .ok poller => set { w with poller }
  | .error e => fatal (.registration e)

/-- Registers a session under its slot. -/
def register (id : SessionId) : Act Unit := do
  let s ← session id
  registered fun w => w.poller.add w.view s.fd (Session.token id) s.interest

/-- Brings the registration of a session in line with its flags. -/
def updateRegistration (id : SessionId) : Act Unit := do
  let s ← session id
  registered fun w => w.poller.update w.view s.fd (Session.token id) s.interest

def unregister (fd : Descriptor) : Act Unit :=
  registered fun w => w.poller.remove w.view fd

def acquireBuffer : Act Buffer := do
  let w ← get
  match w.pool.acquire with
  | .ok (buffer, pool) => set { w with pool }; return buffer
  | .error stop => throw stop

def releaseBuffer (buffer : Buffer) : Act Unit := do
  let w ← get
  match w.pool.release buffer with
  | .ok pool => set { w with pool }
  | .error cause => panic cause

/-- Puts a new session into a slot. There is always room for one more: each session holds a
descriptor that is open, and there are fewer of these than slots could be had. -/
def insertSession (s : Session) : Act SessionId := do
  let w ← get
  let r := w.sessions.insert s
  set { w with sessions := r.2 }
  return r.1

/-- Takes the pending error of the socket of a session away. -/
def takeError (fd : Descriptor) : Act (Option IoError) := do
  let r := ((← get).host.file fd).takeError
  modifyHost (·.put fd r.2)
  return r.1

end Worker

end Sluice
