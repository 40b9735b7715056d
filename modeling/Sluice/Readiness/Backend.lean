/-!
# Poller backends

The three ways to wait for descriptors that the relay knows by name. Two of them work on this
platform.
-/

namespace Sluice

/-- A way of waiting for descriptors. -/
inductive Backend where
  | epoll
  | kqueue
  | poll
  deriving DecidableEq, Repr, Inhabited

namespace Backend

/-- Every backend, in order of preference. -/
def all : List Backend := [.epoll, .kqueue, .poll]

def name : Backend → String
  | .epoll => "epoll"
  | .kqueue => "kqueue"
  | .poll => "poll"

def ofName? (s : String) : Option Backend :=
  all.find? (·.name == s)

/-- The backend with a name, or the complaint that no backend has it. -/
def ofName (s : String) : Except String Backend :=
  match ofName? s with
  | some b => .ok b
  | none => .error ("unknown poller '" ++ s ++ "'")

/-- The backend used unless another one is asked for. -/
def native : Backend := .epoll

/-- Whether the platform offers the backend. -/
def available : Backend → Bool
  | .epoll => true
  | .kqueue => false
  | .poll => true

theorem ofName?_name (b : Backend) : ofName? b.name = some b := by
  cases b <;> decide

end Backend

end Sluice
