import Sluice.Acceptor.Basic
import Sluice.Fault.StartFailure
import Sluice.Log.Filter
import Sluice.Socket.Binding
import Sluice.Threads
import Sluice.Worker.Turn

/-!
# The relay as a service

Starting the relay takes two steps. Binding does all that may fail because of the user or the
machine: it validates the settings and listens on every address. Starting then makes a channel and a
thread for each worker, and the acceptor at the end. What is logged meanwhile comes along with the
result.
-/

namespace Sluice

/-- A relay that listens, with its listening sockets and the endpoints that they really listen
on. -/
structure Service where
  settings : Settings
  listeners : List (Descriptor × Endpoint)
  deriving Inhabited

/-- A relay at work: its acceptor, and for each thread of a worker why it panicked, if it did. -/
structure Running where
  acceptor : Acceptor
  workers : List (String × Option PanicCause)

namespace Service

/-- A result with what was said on the way. -/
abbrev Logged (ε α : Type) := Except ε α × Log.Report

/-! ## Binding -/

def bindAll (m : Machine) (exhausted : Bool) (fd : Descriptor) :
    List Endpoint → Logged RelayError (List (Descriptor × Endpoint))
  | [] => (.ok [], [])
  | e :: rest =>
    match m.bind exhausted e with
    | .error fault => (.error fault, [])
    | .ok (here, m) =>
      let entry : LogEntry := ⟨.info, "listening on " ++ here.text ++ s!" (fd={fd})"⟩
      let r := bindAll m exhausted (fd + 1) rest
      (r.1.map ((fd, here) :: ·), (.service, entry) :: r.2)

def bind (settings : Settings) (m : Machine) (exhausted : Bool) (fd : Descriptor) :
    Logged RelayError Service :=
  match settings.validate with
  | .error fault => (.error fault, [])
  | .ok () =>
    let r := bindAll m exhausted fd settings.listen
    (r.1.map fun listeners => { settings, listeners }, r.2)

/-! ## Starting -/

/-- The entries that tell what the relay was told to do. -/
def summary (s : Settings) : List LogEntry :=
  let info (text : String) : LogEntry := ⟨.info, text⟩
  [ info ("remote address " ++ s.remote.text),
    info s!"buffer size {s.bufferSize}",
    info s!"no delay {s.noDelay}",
    info s!"num io threads {s.ioThreads}",
    info ("poller " ++ s.backend.name) ]

/-- The room that the record of a thread takes. -/
def threadRecordLength : Nat := 64

/-- Why there can be no records of so many workers and the acceptor. -/
def recordsFault? (workers : Nat) : Option PanicCause :=
  if 1 <<< 64 ≤ workers + 1 then some .countOverflow
  else allocationFault? (workers + 1) threadRecordLength

/-- How many descriptors a process may have. -/
def descriptorLimit : Nat := 1 <<< 20

/-- Makes the channels for workers, the first of them for worker `i`. -/
def channels (exhausted : Bool) (fd : Descriptor) : Nat → Except RelayError (List Channel)
  | 0 => .ok []
  | n + 1 => do
    let c ← Channel.create exhausted fd (fd + 1)
    let rest ← channels exhausted (fd + 2) n
    return c :: rest

def threadName (i : Nat) : String := s!"io-{i}"

/-- Starts the threads. The first new descriptor is `fd`. -/
def start (s : Service) (exhausted : Bool) (fd : Descriptor) : Logged StartFailure Running :=
  let said : Log.Report := (summary s.settings).map (.service, ·)
  let workers := s.settings.ioThreads
  match recordsFault? workers with
  | some cause => (.error (.panicked cause), said)
  | none =>
    let exhausted := exhausted || descriptorLimit < fd.toNat + 2 * workers
    match channels exhausted fd workers with
    | .error fault => (.error (.refused fault), said)
    | .ok channels =>
      let listeners := s.listeners.map fun l => ({ fd := l.1 } : Listener)
      match Acceptor.create listeners channels s.settings workers exhausted (fd + 2 * workers) with
      | .error fault => (.error (.refused fault), said)
      | .ok acceptor =>
        let panic? := Worker.storageFault? s.settings
        let workers := (List.range workers).map fun i => (threadName i, panic?)
        (.ok { acceptor := { acceptor with log := [] }, workers },
          said ++ acceptor.log.map (.poller s.settings.backend, ·))

end Service

namespace Running

/-- Waits for the threads in order. Threads end only by a panic, which is reported; otherwise the
wait does not end. -/
def join? (r : Running) : Option RelayError :=
  match r.workers with
  | (name, some _) :: _ => some (.io (.custom .other ("thread " ++ name ++ " panicked")))
  | _ => none

end Running

end Sluice
