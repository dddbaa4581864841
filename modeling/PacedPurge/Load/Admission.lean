import PacedPurge.Chance
import PacedPurge.Load.Snapshot

/-!
# Admission

Whether a bucket may go now, judged by one snapshot. What is saturated decides how long to wait
before asking again; the waits of heavier tiers are longer than all waits of lighter ones, and
each is drawn at random so that those turned away together do not come back together.
-/

namespace PacedPurge

/-- How strongly a bucket is held back. -/
inductive Tier where
  | proceed
  | light
  | heavy
  | block
  deriving DecidableEq, Repr, Inhabited

namespace Tier

/-- The tiers in ascending order, as numbers. -/
def weight : Tier → Nat
  | .proceed => 0
  | .light => 1
  | .heavy => 2
  | .block => 3

instance : LE Tier := ⟨fun a b => a.weight ≤ b.weight⟩

instance (a b : Tier) : Decidable (a ≤ b) := inferInstanceAs (Decidable (a.weight ≤ b.weight))

/-- The waits of a tier in milliseconds: the least, and the first that is too long. -/
def range : Tier → Nat × Nat
  | .proceed => (0, 1)
  | .light => (10, 50)
  | .heavy => (100, 200)
  | .block => (250, 500)

end Tier

/-- Why a bucket is held back. -/
inductive Pressure where
  | cache
  | dirty
  | updates
  | ticketsAndCheckpoint
  | dirtyOrUpdates
  deriving DecidableEq, Repr, Inhabited

namespace Pressure

/-- The wording of a reason. -/
def reason : Pressure → String
  | .cache => "cache utilization high"
  | .dirty => "dirty cache high"
  | .updates => "pending updates high"
  | .ticketsAndCheckpoint => "write tickets and checkpoint saturated"
  | .dirtyOrUpdates => "dirty cache or pending updates elevated"

/-- How strongly the reason holds a bucket back. -/
def tier : Pressure → Tier
  | .cache | .dirty | .updates => .block
  | .ticketsAndCheckpoint => .heavy
  | .dirtyOrUpdates => .light

end Pressure

/-- The heaviest reason to hold a bucket back, if there is one. -/
def Snapshot.pressure? (s : Snapshot) : Option Pressure :=
  if s.cache.level = .high then some .cache
  else if s.dirty.level = .high then some .dirty
  else if s.updates.level = .high then some .updates
  else if s.writeTickets.level = .high && s.checkpoint.level = .high then
    some .ticketsAndCheckpoint
  else if s.dirty.level = .medium || s.updates.level = .medium then some .dirtyOrUpdates
  else none

/-- What is to happen to a bucket. -/
inductive Decision where
  | proceed
  /-- Wait so many milliseconds, then ask again. -/
  | wait (pressure : Pressure) (delay : Nat)
  deriving DecidableEq, Repr, Inhabited

namespace Decision

/-- The tier of a decision. -/
def tier : Decision → Tier
  | .proceed => .proceed
  | .wait p _ => p.tier

/-- How long to wait before asking again. -/
def delay : Decision → Nat
  | .proceed => 0
  | .wait _ ms => ms

/-- Why to wait. -/
def pressure? : Decision → Option Pressure
  | .proceed => none
  | .wait p _ => some p

end Decision

/-- Decides on a snapshot, drawing the wait from the words. -/
def Snapshot.decide (s : Snapshot) (words : Chance) : Decision × Chance :=
  match s.pressure? with
  | none => (.proceed, words)
  | some p =>
    let (delay, rest) := words.inRange p.tier.range.1 p.tier.range.2
    (.wait p delay, rest)

end PacedPurge
