import TagCache.Store.Effect

/-!
# Unread events

A log keeps events for one reader. Its capacity is a power of two; when more events are unread
the oldest are lost, and the reader is told how many.
-/

namespace TagCache.Simulation

/-- The smallest power of two that is at least `n`, searched from `power` on. -/
def powerAbove (n : Nat) : Nat → Nat → Nat
  | 0, power => power
  | fuel + 1, power => if n ≤ power then power else powerAbove n fuel (2 * power)

/-- The capacity of a log that is asked to hold `n` events; none is asked to hold one. -/
def roundCapacity (n : Nat) : Nat := powerAbove (max n 1) 64 1

/-- Events of one store. -/
structure EventLog (α : Type) where
  capacity : Nat
  unread : List α

namespace EventLog

variable {α : Type}

/-- Without events. -/
def new (capacity : Nat) : EventLog α := ⟨roundCapacity capacity, []⟩

/-- Adds an event. -/
def push (log : EventLog α) (event : α) : EventLog α := { log with unread := log.unread ++ [event] }

/-- The number of events that were lost, the events that were not, and the log without them. -/
def read (log : EventLog α) : Nat × List α × EventLog α :=
  let lost := log.unread.length - log.capacity
  (lost, log.unread.drop lost, { log with unread := [] })

end EventLog

example : [0, 1, 2, 3, 17, 256].map roundCapacity = [1, 1, 2, 4, 32, 256] := by decide

end TagCache.Simulation
