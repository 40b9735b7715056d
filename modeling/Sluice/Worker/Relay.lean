import Sluice.Worker.Pairs

/-!
# Relaying bytes

What a session does when its socket is ready. Reading moves bytes to the peer's socket, one buffer
at a time and at most as often as the settings say; when the peer's socket takes no more, the reader
pauses until the peer has written what is staged. Each handler names the session to destroy, if
there is one, and leaves the destroying to its caller.
-/

namespace Sluice.Worker

def resumePeer (id : SessionId) (peer : Option SessionId) : Act Unit := do
  match peer with
  | none => fatal (.nothingToResume id)
  | some peer =>
    let _ ← session peer
    modifySession peer fun s => { s with awaitingReadable := true }
    updateRegistration peer

/-- A pending error ends the session; a mere hangup does not. -/
def onError (id : SessionId) : Act (Option SessionId) := do
  let s ← session id
  match ← takeError s.fd with
  | none => return none
  | some e =>
    say .info (s!"fd {s.fd} " ++ e.describe)
    return some id

def flushSession (id : SessionId) (s : Session) : Act Flush := do
  let w ← get
  let r := s.staging.flush (w.host.file s.fd)
  set { w with host := w.host.put s.fd r.2.2 }
  modifySession id fun s => { s with staging := r.2.1 }
  return r.1

/-- Moves bytes from session `id` to its peer, at most `rounds` times, so that other sessions get
their turn. When the peer does not take all, the session pauses until the peer has written what is
left. -/
def relayFrom (id peer : SessionId) : Nat → Act (Option SessionId)
  | 0 => return none
  | rounds + 1 => do
    let w ← get
    match w.session? id, w.session? peer with
    | some s, some p =>
      match hr : readSome (w.host.file s.fd) p.staging.buffer.length with
      | (.wouldBlock, file) =>
        modifyHost (·.put s.fd file)
        return none
      | (.endOfStream, file) =>
        modifyHost (·.put s.fd file)
        return some id
      | (.failed e, file) =>
        modifyHost (·.put s.fd file)
        say .debug (s!"read fd {s.fd} " ++ e.describe)
        return some id
      | (.done data, file) =>
        modifyHost (·.put s.fd file)
        let staging := p.staging.stage data (length_readSome_le _ _ hr)
        match ← flushSession peer { p with staging } with
        | .complete => relayFrom id peer rounds
        | .wouldBlock =>
          modifySession peer fun p => { p with awaitingWritable := true }
          modifySession id fun s => { s with awaitingReadable := false }
          updateRegistration peer
          updateRegistration id
          return none
        | .failed e =>
          say .debug (s!"write fd {p.fd} " ++ e.describe)
          return some peer
    | _, _ => fatal (.lostPeer id peer)

def onReadable (id : SessionId) : Act (Option SessionId) := do
  let s ← session id
  if s.awaitingReadable then
    match s.peer with
    | none => fatal (.readableAlone id)
    | some peer => relayFrom id peer (← get).settings.maxOpsPerFd
  else return none

/-- The socket of a connecting session is writable: the attempt has ended, unless it says
otherwise. -/
def onConnected (id : SessionId) (s : Session) : Act (Option SessionId) := do
  match ← takeError s.fd with
  | none =>
    say .info ("connect complete " ++ s.text)
    modifySession id fun s => { s with awaitingConnect := false, awaitingReadable := true }
    updateRegistration id
    resumePeer id s.peer
    return none
  | some e =>
    if e = .os .inProgress then return none
    else
      say .info (s!"async remote connect fd {s.fd} " ++ e.describe)
      return some id

/-- The socket of a blocked session takes bytes again. -/
def onUnblocked (id : SessionId) (s : Session) : Act (Option SessionId) := do
  match ← flushSession id s with
  | .wouldBlock => return none
  | .failed e =>
    say .debug (s!"write fd {s.fd} " ++ e.describe)
    return some id
  | .complete =>
    if s.closeAfterFlush then return some id
    else
      modifySession id fun s => { s with staging := s.staging.clear, awaitingWritable := false }
      updateRegistration id
      resumePeer id s.peer
      return none

def onWritable (id : SessionId) : Act (Option SessionId) := do
  let s ← session id
  if s.awaitingConnect then onConnected id s
  else if s.awaitingWritable then onUnblocked id s
  else return none

end Sluice.Worker
