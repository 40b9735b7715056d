import Sluice.Socket.Host

/-!
# The outside of a host

What happens at the other ends of the files of a host, addressed by the descriptors here. The other
end of a stream sends, takes in what was sent to it, and ends one direction or both. A device has
nobody behind it: it swallows what is sent to it and has nothing to give.

What the outside does to one file leaves all others alone (`Host.file_play`).
-/

namespace Sluice.Host

/-- Changes the stream behind a descriptor; a device stays as it is. -/
def onStream (h : Host) (fd : Descriptor) (f : Stream → Stream) : Host :=
  match h.file fd with
  | .stream s => h.put fd (.stream (f s))
  | .device _ => h

/-- Whether the other end is still there. -/
def farOpen (h : Host) (fd : Descriptor) : Bool :=
  match h.file fd with
  | .stream s => s.farOpen
  | .device _ => true

/-- Sends bytes from the other end, all of them or none. -/
def farWrite (h : Host) (fd : Descriptor) (data : List UInt8) : Except Errno Host :=
  if data.isEmpty then .ok h
  else
    match h.file fd with
    | .device _ => .ok h
    | .stream s => (s.farWrite data).map fun s => h.put fd (.stream s)

/-- Takes in at the other end all that was sent to it. -/
def farRead (h : Host) (fd : Descriptor) : List UInt8 × Stream.Tail × Host :=
  match h.file fd with
  | .device _ => ([], .ended, h)
  | .stream s =>
    let (data, tail, s) := s.farRead
    (data, tail, h.put fd (.stream s))

/-- Shuts down reading or writing, or both, at the other end, which has to be a socket. -/
def farShutdown (h : Host) (fd : Descriptor) (reading writing : Bool) : Except Errno Host :=
  match h.file fd with
  | .device _ => .error .notSocket
  | .stream s =>
    if s.isSocket then .ok (h.put fd (.stream (s.farShutdown reading writing)))
    else .error .notSocket

/-- Fills the way to the other end, and tells whether it could be filled. -/
def jam (h : Host) (fd : Descriptor) : Bool × Host :=
  match h.file fd with
  | .device _ => (false, h)
  | .stream s => (s.canJam, h.put fd (.stream s.jam))

end Sluice.Host
