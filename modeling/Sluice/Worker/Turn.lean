import Sluice.Worker.Relay

/-!
# Turns of a worker

In a turn a worker waits for readiness and handles the events of the batch in order. Events on the
control pipe bring new clients, which are connected to the remote endpoint; other events belong to
sessions. Once a session was destroyed, the rest of the batch is dropped, because it may name
sessions that are gone or slots that were given to others; whatever is still ready is reported again
in the next turn.
-/

namespace Sluice.Worker

/-- Connects a client to the remote endpoint. A client that cannot be served is closed. -/
def acceptClient (fd : Descriptor) : Act Unit := do
  if fd < 0 then panic .invalidDescriptor
  let w ← get
  match (w.host.file fd).prepareError? w.settings.noDelay with
  | some e =>
    say .warn (s!"error setting up accepted socket fd {fd}: " ++ e.describe)
    modifyHost (·.close fd)
  | none =>
    let r := w.host.connect w.settings.remote w.settings.noDelay
    modifyHost fun _ => r.2
    match r.1 with
    | .ok (remote, status) =>
      let _ ← attachPair fd remote status
    | .error e =>
      say .warn ("remote socket connect error " ++ e.describe)
      modifyHost (·.close fd)

/-- Takes clients from the front of a list, and gives what is left of it. -/
def acceptClients : List Descriptor → Act (List Descriptor)
  | [] => return []
  | fd :: rest => do
    acceptClient fd
    acceptClients rest

/-- Takes in the clients that were handed over. They pass through the list of incoming ones, which
the worker is without meanwhile. -/
def onControl : Act Unit := do
  let w ← get
  let r := w.control.drain
  set { w with control := r.2, incoming := [] }
  match r.1.error with
  | some e => fatal (.controlPipe w.control.readFd e)
  | none =>
    let incoming ← acceptClients (w.incoming ++ r.1.values.map Int32.toInt)
    modify fun w => { w with incoming }

/-- Runs the handlers that the event calls for, until one of them names a session to destroy. -/
def findDoomed (id : SessionId) (e : Event) : Act (Option SessionId) := do
  let doomed ← if e.error then onError id else pure none
  let doomed ← if doomed.isNone && e.readable then onReadable id else pure doomed
  if doomed.isNone && e.writable then onWritable id else pure doomed

/-- Handles the event of a session and tells whether a session was destroyed. -/
def onSessionReady (e : Event) : Act Bool := do
  let id := Session.ofToken e.token
  if ((← get).session? id).isNone then fatal (.unknownEvent id)
  match ← findDoomed id e with
  | some target =>
    destroy target
    return true
  | none => return false

/-- Handles a batch of events, up to the first one that destroys a session. The rest of the batch
may be about slots that are given out again by then, and the next wait reports it anew. -/
def handleBatch : List Event → Act Unit
  | [] => return
  | e :: rest => do
    if e.token = .control then
      onControl
      handleBatch rest
    else if ← onSessionReady e then return
    else handleBatch rest

def waitReady : Act (List Event) := do
  let w ← get
  match w.poller.wait w.view with
  | .ok (some ready, poller) => set { w with poller }; return ready.events
  | .ok (none, _) => fatal (.workerIdle w.index)
  | .error e => fatal (.workerPoll w.index e)

/-- Waits for readiness and handles what is ready. -/
def turn : Act Unit := do
  handleBatch (← waitReady)

def isReady (w : Worker) : Bool :=
  match w.poller.wait w.view with
  | .ok (some ready, _) => !ready.isEmpty
  | _ => false

def turns : Nat → Act Unit
  | 0 => return
  | n + 1 => do
    turn
    turns n

/-- Takes turns until nothing is ready, but no more than a limit, and tells whether nothing was
ready in the end. -/
def runUntilIdle : Nat → Act Bool
  | 0 => return false
  | limit + 1 => do
    if (← get).isReady then
      turn
      runUntilIdle limit
    else return true

end Sluice.Worker
