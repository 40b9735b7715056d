import Sluice.Readiness.Basic

/-!
# The reported events and their storage

Storage for events starts at a fixed size and grows by doubling, so that it is rarely moved and
never given back. `doubledCapacity?` is the rule, in 64-bit arithmetic: it has no answer when the
doubling would leave that range.
-/

namespace Sluice

/-- The size event storage starts at. -/
def initialReadyCapacity : Nat := 16

/-- One more than the largest 64-bit number. -/
def wordLimit : Nat := 1 <<< 64

/-- Doubles `capacity` until it holds `needed`. -/
def doubleUntil (needed capacity : Nat) (pos : 0 < capacity) : Option Nat :=
  if needed ≤ capacity then some capacity
  else if capacity * 2 < wordLimit then doubleUntil needed (capacity * 2) (by omega)
  else none
termination_by needed - capacity

/-- The capacity that `current` has to grow to for `needed` events; storage that holds nothing yet
starts at the initial size. -/
def doubledCapacity? (current needed : Nat) : Option Nat :=
  if h : current = 0 then doubleUntil needed initialReadyCapacity (by decide)
  else doubleUntil needed current (by omega)

/-- The events of the latest wait, with the room there is for them. -/
structure ReadyList where
  events : List Event := []
  capacity : Nat := 0
  deriving Inhabited

namespace ReadyList

/-- Empties the list and makes room for `count` events. Descriptors are 32-bit numbers, so the
doubling stays in range for any count of them. -/
def reset (l : ReadyList) (count : Nat) : ReadyList :=
  { events := [], capacity := (doubledCapacity? l.capacity count).getD l.capacity }

def push (l : ReadyList) (e : Event) : ReadyList :=
  { l with events := l.events ++ [e] }

def size (l : ReadyList) : Nat :=
  l.events.length

def isEmpty (l : ReadyList) : Bool :=
  l.events.isEmpty

def get? (l : ReadyList) (i : Nat) : Option Event :=
  l.events[i]?

/-- The list after a wait that found `events`. -/
def report (l : ReadyList) (events : List Event) : ReadyList :=
  events.foldl push (l.reset events.length)

theorem events_foldl_push (events : List Event) (l : ReadyList) :
    (events.foldl push l).events = l.events ++ events := by
  induction events generalizing l with
  | nil => simp
  | cons e rest ih => simp [ih, push]

theorem capacity_foldl_push (events : List Event) (l : ReadyList) :
    (events.foldl push l).capacity = l.capacity := by
  induction events generalizing l with
  | nil => rfl
  | cons e rest ih => simp [ih, push]

@[simp] theorem events_report (l : ReadyList) (events : List Event) :
    (l.report events).events = events := by
  simp [report, events_foldl_push, reset]

end ReadyList

end Sluice
