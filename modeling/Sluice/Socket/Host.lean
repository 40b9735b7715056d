import Sluice.Fault.IoError
import Sluice.Socket.Stream
import Sluice.Table

/-!
# The host of the descriptors

The files that stand behind the descriptors of the relay, and the network that new connections go
through. The entry of a closed stream stays, because its far end may live on.

Descriptors are numbered upwards and a number is never given out twice, where the system gives out
the lowest number that is free. Nothing the relay does depends on that: it forgets a number when it
closes it, so that no session, no registration and no client on its way still has the number when it
would come again (`Site.Reachable.closed_forgotten`).

A stream is connected to the outside; a device answers like the null device, which is always ready
and is no socket. Calls to connect meet the answers that the network has in store, and when it has
none left there is no way to reach anyone.
-/

namespace Sluice

/-! ## Files -/

/-- What an open descriptor stands for. -/
inductive File where
  | stream (s : Stream)
  | device (nearOpen : Bool)
  deriving Inhabited

namespace File

/-- What a number stands for that was never given out. -/
def absent : File := .device false

/-- The error of a call for sockets on a device. -/
def deviceError (nearOpen : Bool) : IoError :=
  .os (if nearOpen then .notSocket else .badDescriptor)

theorem kind_deviceError (nearOpen : Bool) : (deviceError nearOpen).kind ≠ .interrupted := by
  cases nearOpen <;> decide

def isOpen : File → Bool
  | .stream s => s.nearOpen
  | .device nearOpen => nearOpen

def status : File → FileStatus
  | .stream s => if s.nearOpen then .live s.conditions else .closed
  | .device nearOpen => if nearOpen then .plain else .closed

def close : File → File
  | .stream s => .stream s.close
  | .device _ => .device false

/-- Takes the pending error away; asking can fail as well. -/
def takeError : File → Option IoError × File
  | .stream s => let r := s.takeError; (r.1, .stream r.2)
  | .device nearOpen => (some (deviceError nearOpen), .device nearOpen)

/-- Why small packets cannot be sent at once on this file, if they cannot: that takes an internet
connection. -/
def noDelayError? : File → Option IoError
  | .stream s =>
    match s.obstacle? with
    | some e => some (.os e)
    | none =>
      match s.medium with
      | .internet _ _ => none
      | _ => some (.os .notSupported)
  | .device nearOpen => some (deviceError nearOpen)

/-- Prepares an accepted client for use without waiting, and the error if that fails. -/
def prepareError? (f : File) (noDelay : Bool) : Option IoError :=
  if !f.isOpen then some (.os .badDescriptor)
  else if noDelay then f.noDelayError?
  else none

/-- The text of an endpoint that may be missing. -/
def nameOf : Option Endpoint → String
  | some e => e.text
  | none => "?"

/-- The address of the near end, or a question mark. -/
def nearName : File → String
  | .stream { medium := .internet near _, .. } => near.text
  | _ => nameOf none

/-- The address of the far end, or a question mark. -/
def farName : File → String
  | .stream { medium := .internet _ far, .. } => far.text
  | _ => nameOf none

instance : ByteStream File where
  read
    | .stream s, n => let r := ByteStream.read s n; (r.1, .stream r.2)
    | .device nearOpen, _ => (.error (deviceError nearOpen), .device nearOpen)
  write
    | .stream s, data => let r := ByteStream.write s data; (r.1, .stream r.2)
    | .device nearOpen, _ => (.error (deviceError nearOpen), .device nearOpen)
  interruptions
    | .stream s => ByteStream.interruptions s
    | .device _ => 0
  length_read_le
    | .stream s, n, data, h => ByteStream.length_read_le s n data h
    | .device _, _, _, h => nomatch h
  write_le_length
    | .stream s, data, n, h => ByteStream.write_le_length s data n h
    | .device _, _, _, h => nomatch h
  interruptions_read
    | .stream s, n, e, h, hk => ByteStream.interruptions_read s n e h hk
    | .device nearOpen, _, e, h, hk => by
      cases h
      exact absurd hk (kind_deviceError nearOpen)
  interruptions_write
    | .stream s, data, e, h, hk => ByteStream.interruptions_write s data e h hk
    | .device nearOpen, _, e, h, hk => by
      cases h
      exact absurd hk (kind_deviceError nearOpen)

end File

/-! ## Network -/

/-- Whether a connection stood at once or is still being made. -/
inductive ConnectStatus where
  | connected
  | inProgress
  deriving DecidableEq, Repr, Inhabited

/-- Whether a call to connect that failed with this number goes on in the background. -/
def Errno.isConnectPending (e : Errno) : Bool :=
  e == .inProgress || e == .interrupted || IoError.Kind.ofErrno e == .wouldBlock

/-- How the system answers a call to connect: the connection stands, or the call fails with a
number. The stream is the connection as it is when anyone looks again, by which time one that goes
on in the background has ended. After any other failure there is none, and the stream does not
count. -/
structure Attempt where
  error? : Option Errno := none
  stream : Stream := {}
  deriving Inhabited

/-- What there is after the call: a stream, connected or not yet, or a failure. -/
def Attempt.outcome (a : Attempt) : Except Errno (Stream × ConnectStatus) :=
  match a.error? with
  | none => .ok (a.stream, .connected)
  | some e => if e.isConnectPending then .ok (a.stream, .inProgress) else .error e

/-- The network, as the outcomes of the attempts to come. -/
structure Network where
  attempts : List Attempt := []
  deriving Inhabited

namespace Network

def isolated : Network := {}

/-- How an attempt to reach `remote` fails when there is no way to anyone. In version 6 an address
of one link does not say which link without a scope, and other addresses fail for want of an own
address to use. -/
def dead (remote : Endpoint) : Errno :=
  match remote.unmapped with
  | .v4 _ _ => .networkUnreachable
  | .v6 ip scope _ =>
    if ip.isMulticast then .networkUnreachable
    else if ip.isLinkLocal ∧ scope = 0 then .invalidArgument
    else .addressNotAvailable

def attempt (n : Network) (remote : Endpoint) : Attempt × Network :=
  match n.attempts with
  | [] => ({ error? := some (dead remote) }, n)
  | a :: rest => (a, ⟨rest⟩)

end Network

/-! ## Hosts -/

/-- The files by descriptor, the next descriptor to give out, and whether the process has used up
its allowance of them. -/
structure Host where
  files : Table File := .empty
  next : Descriptor := 0
  network : Network := .isolated
  exhausted : Bool := false
  deriving Inhabited

namespace Host

def file (h : Host) (fd : Descriptor) : File :=
  (h.files.get? fd).getD .absent

def put (h : Host) (fd : Descriptor) (f : File) : Host :=
  { h with files := h.files.insert fd f }

/-- Gives a new descriptor to `f`. -/
def install (h : Host) (f : File) : Descriptor × Host :=
  (h.next, { h with files := h.files.insert h.next f, next := h.next + 1 })

/-- Gives out a descriptor that stands for none of the files here. -/
def reserve (h : Host) : Descriptor × Host :=
  (h.next, { h with next := h.next + 1 })

def close (h : Host) (fd : Descriptor) : Host :=
  h.put fd (h.file fd).close

def view (h : Host) : SystemView where
  status fd := (h.file fd).status
  exhausted := h.exhausted

/-- Starts to connect a new socket to `remote`. It needs a descriptor before anything else is looked
at. -/
def connect (h : Host) (remote : Endpoint) (noDelay : Bool) :
    Except IoError (Descriptor × ConnectStatus) × Host :=
  if h.exhausted then (.error (.os .tooManyFiles), h)
  else
    let r := h.network.attempt remote
    let h := { h with network := r.2 }
    match r.1.outcome with
    | .error e => (.error (.os e), h)
    | .ok (s, status) =>
      match (File.stream s).prepareError? noDelay with
      | some e => (.error e, h)
      | none => let i := h.install (.stream s); (.ok (i.1, status), i.2)

theorem file_put (h : Host) (fd fd' : Descriptor) (f : File) :
    (h.put fd f).file fd' = if fd' = fd then f else h.file fd' := by
  simp only [put, file, Table.get?_insert]
  split <;> rfl

theorem file_close (h : Host) (fd fd' : Descriptor) :
    (h.close fd).file fd' = if fd' = fd then (h.file fd).close else h.file fd' :=
  file_put h fd fd' _

end Host

end Sluice
