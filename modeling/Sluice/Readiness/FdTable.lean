import Sluice.Fault.PollError
import Sluice.Table

/-!
# Tokens by descriptor

A scan reports readiness by descriptor only, so the tokens are kept beside it, in a table ordered by
descriptor. A key is entered once and has to be there to be replaced or removed; an operation that
fails leaves the table as it was, because it returns no table.
-/

namespace Sluice

/-- The tokens of the registered descriptors. -/
structure FdTable where
  tokens : Table Token := .empty
  deriving Inhabited

namespace FdTable

def get? (t : FdTable) (fd : Descriptor) : Option Token :=
  t.tokens.get? fd

def contains (t : FdTable) (fd : Descriptor) : Bool :=
  t.tokens.contains fd

def size (t : FdTable) : Nat :=
  t.tokens.size

def isEmpty (t : FdTable) : Bool :=
  t.size == 0

/-- The registered descriptors in ascending order. -/
def fds (t : FdTable) : List Descriptor :=
  t.tokens.keys

def insert (t : FdTable) (fd : Descriptor) (token : Token) : Except PollError FdTable :=
  if t.contains fd then .error (.alreadyRegistered fd)
  else .ok ⟨t.tokens.insert fd token⟩

def replace (t : FdTable) (fd : Descriptor) (token : Token) : Except PollError FdTable :=
  if t.contains fd then .ok ⟨t.tokens.insert fd token⟩
  else .error (.notRegistered fd)

def remove (t : FdTable) (fd : Descriptor) : Except PollError (Token × FdTable) :=
  match t.get? fd with
  | some token => .ok (token, ⟨t.tokens.erase fd⟩)
  | none => .error (.notRegistered fd)

end FdTable

end Sluice
