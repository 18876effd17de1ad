/-
This file holds the gate that bounds how many calls are under way at once. Whoever asks is given
the next ticket. A ticket is admitted once fewer tickets were issued before it than there are
permits in all and permits that have been given back. So the gate is first come, first served, it
has no queue to keep, and what is free and who waits can be read off three numbers.
-/

namespace Triage

/-- A gate that admits a bounded number of calls. -/
structure Gate where
  /-- How many permits there are. -/
  capacity : Nat
  /-- Does the gate still admit anybody? -/
  isOpen : Bool := true
  /-- How many tickets have been issued. -/
  issued : Nat := 0
  /-- How many permits have been given back. -/
  returned : Nat := 0
  deriving DecidableEq, Repr

namespace Gate

/-- A gate with a number of permits. -/
def withPermits (capacity : Nat) : Gate := { capacity }

/-- A gate that has been closed; the permit it had is never taken. -/
def closed : Gate := { capacity := 1, isOpen := false }

/-- Is a ticket admitted? -/
def admits (gate : Gate) (ticket : Nat) : Bool :=
  ticket < gate.capacity + gate.returned

/-- The gate after the next ticket has been issued; the ticket is the number issued before. -/
def issue (gate : Gate) : Gate :=
  { gate with issued := gate.issued + 1 }

/-- The gate after a permit has been given back. -/
def giveBack (gate : Gate) : Gate :=
  { gate with returned := gate.returned + 1 }

/-- How many permits are free. -/
def free (gate : Gate) : Nat :=
  gate.capacity + gate.returned - gate.issued

end Gate

end Triage
