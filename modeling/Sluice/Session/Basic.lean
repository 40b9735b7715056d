import Sluice.Readiness.Basic
import Sluice.Session.Staging

/-!
# Sessions

A session is one of the two sockets of a relayed connection, together with the bytes staged for
writing to it, which its peer has read. Four flags say what it waits for; its state and its interest
in readiness follow from them.
-/

namespace Sluice

/-- The slot of a session in the arena of its worker. -/
abbrev SessionId := Nat

/-- Which of the two sockets it is. -/
inductive Role where
  | clientSide
  | remoteSide
  deriving DecidableEq, Repr, Inhabited

def Role.label : Role → String
  | .clientSide => "client to proxy"
  | .remoteSide => "proxy to remote"

/-- What the flags of a session amount to. -/
inductive SessionState where
  /-- The connection is still being made. -/
  | connecting
  /-- Reads, and has nothing to write. -/
  | idle
  /-- Holds bytes that the socket did not take yet. -/
  | blockedOnWrite
  /-- The peer is gone; what is staged is written, then the session ends. -/
  | draining
  /-- Neither reads nor writes. -/
  | paused
  deriving DecidableEq, Repr, Inhabited

/-- One socket of a relayed connection. -/
structure Session where
  fd : Descriptor
  role : Role
  staging : Staging
  clientLabel : String
  serverLabel : String
  awaitingConnect : Bool := false
  awaitingReadable : Bool := false
  awaitingWritable : Bool := false
  closeAfterFlush : Bool := false
  peer : Option SessionId := none

namespace Session

/-- The room that a slot for a session takes, in bytes. It is the room for a session itself: that
the slot is empty shows where the session would have its peer. -/
def slotLength : Nat := 112

def token (id : SessionId) : Token := ⟨id⟩

def ofToken (t : Token) : SessionId := t.value

/-- A session that waits for nothing yet. -/
def create (fd : Descriptor) (role : Role) (buffer : Buffer) (clientLabel serverLabel : String) :
    Session where
  fd
  role
  staging := .empty buffer
  clientLabel
  serverLabel

def pending (s : Session) : Nat :=
  s.staging.pending

def interest (s : Session) : Interest where
  read := s.awaitingReadable
  write := s.awaitingConnect || s.awaitingWritable

def state (s : Session) : SessionState :=
  if s.awaitingConnect then .connecting
  else if s.closeAfterFlush then .draining
  else if s.awaitingWritable then .blockedOnWrite
  else if s.awaitingReadable then .idle
  else .paused

/-- The session in a log line. -/
def text (s : Session) : String :=
  s.role.label ++ " " ++ s.clientLabel ++ " -> " ++ s.serverLabel ++ s!" (fd={s.fd})"

@[simp] theorem ofToken_token (id : SessionId) : ofToken (token id) = id := rfl

end Session

end Sluice
