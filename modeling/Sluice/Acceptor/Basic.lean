import Sluice.Acceptor.Listener
import Sluice.Fault.Abort
import Sluice.Handoff.Channel
import Sluice.Log.Entry
import Sluice.Pool
import Sluice.Readiness.Poller
import Sluice.Settings

/-!
# The acceptor

The acceptor waits on all listeners and hands each client it accepts to the next worker in turn,
over the channel of that worker. It accepts at most a set number of clients from a listener before
it looks at the next one, and it counts what each worker was given.
-/

namespace Sluice

/-- The state of the acceptor; `next` is the worker whose turn it is. -/
structure Acceptor where
  listeners : List Listener
  poller : Poller
  channels : List Channel
  next : Nat
  next_lt : next < channels.length
  maxOpsPerFd : Nat
  counts : List Nat
  exhausted : Bool := false
  /-- What was said, newest first. -/
  log : List LogEntry := []

namespace Acceptor

abbrev Act := EStateM Abort Acceptor

/-! ## Making an acceptor -/

/-- The system as the poller of the acceptor sees it. -/
def viewOf (listeners : List Listener) (exhausted : Bool) : SystemView where
  status fd :=
    match listeners.find? (·.fd == fd) with
    | some l => .live l.conditions
    | none => .closed
  exhausted

/-- Registers the listeners under their indexes, beginning with `i`. -/
def registerAll (view : SystemView) (i : Nat) :
    List Listener → Poller → Except PollError Poller
  | [], poller => .ok poller
  | l :: rest, poller =>
    match poller.add view l.fd ⟨i⟩ .readable with
    | .ok poller => registerAll view (i + 1) rest poller
    | .error e => .error e

/-- The room that a counter takes. -/
def counterLength : Nat := 8

/-- Why there cannot be so many counters. -/
def countersFault? (counters : Nat) : Option PanicCause :=
  allocationFault? counters counterLength

/-- Makes an acceptor with `counters` counters. An event set gets the descriptor `fd`. -/
def create (listeners : List Listener) (channels : List Channel) (settings : Settings)
    (counters : Nat) (exhausted : Bool) (fd : Descriptor) : Except RelayError Acceptor :=
  if h : 0 < channels.length then
    let view := viewOf listeners exhausted
    match Poller.create settings.backend view fd with
    | .error e => .error (.poll e)
    | .ok poller =>
      match registerAll view 0 listeners poller with
      | .error e => .error (.poll e)
      | .ok registered =>
        .ok { listeners, poller := registered, channels, next := 0, next_lt := h,
              maxOpsPerFd := settings.maxOpsPerFd, counts := List.replicate counters 0, exhausted,
              log := [⟨.info, poller.greeting⟩] }
  else .error (.invalidArgument "acceptor needs at least one io worker")

/-! ## Actions -/

def view (a : Acceptor) : SystemView :=
  viewOf a.listeners a.exhausted

def fatal {α : Type} (cause : FatalCause) : Act α :=
  throw (.fatal cause)

def say (level : Level) (text : String) : Act Unit :=
  modify fun a => { a with log := ⟨level, text⟩ :: a.log }

def setChannel (a : Acceptor) (i : Nat) (c : Channel) : Acceptor :=
  { a with channels := a.channels.set i c, next_lt := by simpa using a.next_lt }

def nextChannel (a : Acceptor) : Channel :=
  a.channels.get ⟨a.next, a.next_lt⟩

def rotate (a : Acceptor) : Acceptor :=
  { a with
    next := (a.next + 1) % a.channels.length
    next_lt := Nat.mod_lt _ (Nat.lt_of_le_of_lt (Nat.zero_le _) a.next_lt) }

/-- Counts one client for worker `i`. -/
def record (i : Nat) : Act Unit := do
  let a ← get
  if i < a.counts.length then
    set { a with counts := a.counts.modify i (· + 1) }
  else throw (.panic (.outOfBounds a.counts.length i))

/-- Gives a client to the worker whose turn it is. The client counts as handed off, and the turn
passes, only when its number was sent. -/
def handOff (client : Descriptor) : Act Unit := do
  let a ← get
  let c := a.nextChannel
  match c.send (Int32.ofInt client) with
  | .error e => fatal (.handoffPipe c.writeFd e)
  | .ok c =>
    set (a.setChannel a.next c)
    record a.next
    modify rotate

/-- Accepts from listener `i`, at most `rounds` times, so that no listener keeps the others waiting.
An interrupted call takes up a round as well. -/
def acceptFrom (i : Nat) : Nat → Act Unit
  | 0 => return
  | rounds + 1 => do
    let a ← get
    match a.listeners[i]? with
    | none => fatal (.unknownListener i)
    | some l =>
      let r := l.accept a.exhausted
      set { a with listeners := a.listeners.set i r.2 }
      match r.1 with
      | .ok client =>
        say .info s!"accepted fd {client}"
        handOff client
        acceptFrom i rounds
      | .error e =>
        match IoError.Kind.ofErrno e with
        | .wouldBlock => return
        | .interrupted => acceptFrom i rounds
        | _ => say .warn ("accept error " ++ e.describe)

def acceptFromAll : List Nat → Act Unit
  | [] => return
  | i :: rest => do
    acceptFrom i (← get).maxOpsPerFd
    acceptFromAll rest

/-- Waits for readiness and gives the ready listeners. -/
def waitReady : Act (List Nat) := do
  let a ← get
  match a.poller.wait a.view with
  | .ok (some ready, poller) =>
    set { a with poller }
    return (ready.events.filter fun e => e.readable || e.error).map (·.token.value)
  | .ok (none, _) => fatal .acceptorIdle
  | .error e => fatal (.acceptorPoll e)

/-- Waits for clients and accepts them. -/
def turn : Act Unit := do
  acceptFromAll (← waitReady)

end Acceptor

end Sluice
