import PacedPurge.Bucket.Row
import PacedPurge.Clock
import PacedPurge.StoreError

/-!
# Arrivals

Rows that are known beforehand but arrive over time: some wait a number of milliseconds from the
moment at which they are first asked for, the one before having been taken, and some arrive as an
error.
-/

namespace PacedPurge

/-- What a row stream delivers. -/
abbrev Delivery := Except StoreError Row

/-- A delivery and how long it waits, if it waits at all. -/
structure Arrival where
  delay : Option Nat
  content : Delivery

/-- What a stream says when it is asked for the next row. -/
inductive Polled (α : Type) where
  | ready (value : α)
  /-- Not before this time. -/
  | later (time : Nat)
  | ended

/-- Deliveries still to come, and when the first of them was first asked for. -/
structure Arrivals where
  rest : List Arrival
  asked : Option Nat

namespace Arrivals

/-- All deliveries at once. -/
def ofRows (rows : List Row) : Arrivals := ⟨rows.map fun r => ⟨none, .ok r⟩, none⟩

/-- The deliveries, none of them asked for. -/
def ofList (rest : List Arrival) : Arrivals := ⟨rest, none⟩

/-- The next delivery, or the end. -/
def take (s : Arrivals) : Polled Delivery × Arrivals :=
  match s.rest with
  | [] => (.ended, s)
  | a :: rest => (.ready a.content, ⟨rest, none⟩)

/-- The next delivery is asked for at a time. -/
def ask (s : Arrivals) (now : Nat) : Arrivals := { s with asked := some (s.asked.getD now) }

/-- How long the next delivery waits, if it waits at all. -/
def delay? (s : Arrivals) : Option Nat := s.rest.head?.bind (·.delay)

/-- The time for which the next delivery waits if it is asked for at a time. -/
def due? (s : Arrivals) (now : Nat) : Option Nat := s.delay?.map (Clock.after (s.asked.getD now))

/-- The time for which the delivery waits that has been asked for. -/
def wake? (s : Arrivals) : Option Nat := s.asked.bind s.due?

end Arrivals

end PacedPurge
