import Sluice.Worker.Basic

/-!
# Pairs of sessions

A relayed connection is a pair of sessions linked to each other. Pairs are attached together;
destroying one session takes its peer along, unless the peer still has bytes to write: then it is
left to write them and closes after that. So destroying removes one or two sessions and never more.
-/

namespace Sluice.Worker

/-- Links two sockets into a pair and registers both. A pair whose remote side is still connecting
does not read yet. -/
def attachPair (client remote : Descriptor) (status : ConnectStatus) :
    Act (SessionId × SessionId) := do
  let connected := status == .connected
  let w ← get
  let clientLabel := (w.host.file client).farName
  let proxyLabel := (w.host.file client).nearName
  let outboundLabel := (w.host.file remote).nearName
  let remoteLabel := w.settings.remote.text
  let stage := if connected then "complete" else "starting"
  say .info ("connect client to proxy " ++ clientLabel ++ " -> " ++ proxyLabel
      ++ s!" (fd={client})")
  say .info ("connect " ++ stage ++ " proxy to remote " ++ outboundLabel ++ " -> " ++ remoteLabel ++
    s!" (fd={remote})")
  let clientBuffer ← acquireBuffer
  let clientSession := Session.create client .clientSide clientBuffer clientLabel proxyLabel
  let remoteBuffer ← acquireBuffer
  let remoteSession := Session.create remote .remoteSide remoteBuffer outboundLabel remoteLabel
  let clientId ← insertSession { clientSession with awaitingReadable := connected }
  let remoteId ← insertSession
    { remoteSession with awaitingReadable := connected, awaitingConnect := !connected }
  modifySession clientId fun s => { s with peer := some remoteId }
  modifySession remoteId fun s => { s with peer := some clientId }
  register clientId
  register remoteId
  return (clientId, remoteId)

/-- Removes one session: its buffer goes back, its registration is taken out and its socket closed.
Gives the peer that it was linked to. -/
def retire (id : SessionId) : Act (Option SessionId) := do
  let w ← get
  match w.sessions.remove id with
  | none => fatal (.destroyUnknown id)
  | some (s, sessions) =>
    set { w with sessions }
    say .info ("disconnect " ++ s.text)
    releaseBuffer s.staging.buffer
    unregister s.fd
    modifyHost (·.close s.fd)
    return s.peer

/-- Destroys a session and, unless it still has bytes to write, its peer. One that has them is left
to drain: it reads no more, and goes when all is written or cannot be. -/
def destroy (id : SessionId) : Act Unit := do
  match ← retire id with
  | none => return
  | some peer =>
    let s ← session peer
    if s.peer ≠ some id then fatal (.notLinkedBack peer id)
    modifySession peer fun s => { s with peer := none }
    if s.awaitingWritable then
      modifySession peer fun s => { s with closeAfterFlush := true, awaitingReadable := false }
      updateRegistration peer
    else
      let _ ← retire peer

end Sluice.Worker
