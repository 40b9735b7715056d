import Sluice.Fault.Abort

/-!
# Room

What is kept in one piece cannot be larger than half the address space. To ask for more breaks an
assertion before the system is asked for anything; whether the system has so much to give is not
looked at here.
-/

namespace Sluice

/-- The largest number of bytes that can be allocated at once. -/
def allocationLimit : Nat := (1 <<< 63) - 1

/-- Why there cannot be room for so many entries of such a length in one piece, if there cannot. -/
def allocationFault? (entries length : Nat) : Option PanicCause :=
  if allocationLimit < entries * length then some .capacityOverflow else none

theorem allocationFault?_of_le {entries length : Nat} (h : entries * length ≤ allocationLimit) :
    allocationFault? entries length = none :=
  if_neg (Nat.not_lt.mpr h)

theorem allocationFault?_of_lt {entries length : Nat} (h : allocationLimit < entries * length) :
    allocationFault? entries length = some .capacityOverflow :=
  if_pos h

end Sluice
