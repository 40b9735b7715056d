import Sluice.Fault.PollError

/-!
# Ways to stop at once

Some conditions leave the relay no way on. Those that the event loops look out for are fatal: they
are logged, and the process aborts. The others are broken assertions, which end the thread they
occur in. The causes are told apart here, and worded in one place.
-/

namespace Sluice

inductive FatalCause where
  | workerIdle (worker : Nat)
  | workerPoll (worker : Nat) (e : PollError)
  | workerStart (worker : Nat) (reason : String)
  | controlPipe (fd : Descriptor) (e : IoError)
  | registration (e : PollError)
  | poolEmpty
  | unknownSession (id : Nat)
  | unknownEvent (id : Nat)
  | destroyUnknown (id : Nat)
  | notLinkedBack (peer id : Nat)
  | readableAlone (id : Nat)
  | lostPeer (id peer : Nat)
  | nothingToResume (id : Nat)
  | acceptorIdle
  | acceptorPoll (e : PollError)
  | unknownListener (index : Nat)
  | handoffPipe (fd : Descriptor) (e : IoError)
  deriving DecidableEq, Repr, Inhabited

def FatalCause.message : FatalCause → String
  | .workerIdle w => s!"io worker {w} has no registered descriptors"
  | .workerPoll w e => s!"io worker {w} poll failed: " ++ e.message
  | .workerStart w reason => s!"io worker {w} failed to start: " ++ reason
  | .controlPipe fd e => s!"read from pipe fd {fd} failed: " ++ e.message
  | .registration e => e.message
  | .poolEmpty => "buffer pool empty after growth"
  | .unknownSession id => s!"unknown session {id}"
  | .unknownEvent id => s!"ready event for unknown session {id}"
  | .destroyUnknown id => s!"destroy of unknown session {id}"
  | .notLinkedBack peer id => s!"session {peer} is not linked back to session {id}"
  | .readableAlone id => s!"readable session {id} has no peer"
  | .lostPeer id peer => s!"session {id} lost peer {peer}"
  | .nothingToResume id => s!"session {id} has no peer to resume"
  | .acceptorIdle => "acceptor has no listening sockets"
  | .acceptorPoll e => "acceptor poll failed: " ++ e.message
  | .unknownListener i => s!"ready event for unknown listener {i}"
  | .handoffPipe fd e => s!"error writing to pipe fd {fd}: " ++ e.message

/-- A broken assertion. -/
inductive PanicCause where
  | bufferSizeZero
  | poolSizeZero
  | capacityOverflow
  /-- A count that does not fit into 64 bits. -/
  | countOverflow
  | wrongBufferSize
  | fullPool
  | emptyWrite
  | invalidDescriptor
  | outOfBounds (length index : Nat)
  /-- A text cut inside a character. -/
  | cutCharacter (place : Nat)
  /-- A character of which a terminal sequence leaves only a part. -/
  | brokenCharacter
  /-- A name with a null byte, at `place` of its bytes. -/
  | nullInName (place : Nat) (bytes : List UInt8)
  deriving DecidableEq, Repr, Inhabited

def PanicCause.message : PanicCause → String
  | .bufferSizeZero => "buffer size must be positive"
  | .poolSizeZero => "initial pool size must be positive"
  | .capacityOverflow => "capacity overflow"
  | .countOverflow => "attempt to add with overflow"
  | .wrongBufferSize => "released buffer has the wrong size"
  | .fullPool => "buffer released to a full pool"
  | .emptyWrite => "!buf.is_empty()"
  | .invalidDescriptor => "tried to create a `Socket` with an invalid fd"
  | .outOfBounds length index =>
    s!"index out of bounds: the len is {length} but the index is {index}"
  | .cutCharacter place => s!"byte index {place} is not a char boundary"
  | .brokenCharacter =>
    "`bytes` was validated as UTF-8, the parser preserves UTF-8 continuations: " ++
      "Utf8Error \x7b valid_up_to: 0, error_len: Some(1) \x7d"
  | .nullInName place bytes =>
    s!"thread name may not contain interior null bytes: NulError({place}, [" ++
      ", ".intercalate (bytes.map toString) ++ "])"

/-- How a run was cut short. -/
inductive Abort where
  | fatal (cause : FatalCause)
  | panic (cause : PanicCause)
  deriving DecidableEq, Repr, Inhabited

def Abort.message : Abort → String
  | .fatal cause => cause.message
  | .panic cause => cause.message

end Sluice
