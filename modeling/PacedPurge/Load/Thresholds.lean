import PacedPurge.Load.Counters

/-!
# Thresholds

Two marks divide the readings of a resource into low, medium and high: below the target a reading
is low, from the trigger on it is high.
-/

namespace PacedPurge

/-- How busy a resource is. -/
inductive Level where
  | low
  | medium
  | high
  deriving DecidableEq, Repr, Inhabited

namespace Level

/-- The name of a level. -/
def name : Level → String
  | .low => "low"
  | .medium => "medium"
  | .high => "high"

/-- The levels in ascending order, as numbers. -/
def weight : Level → Nat
  | .low => 0
  | .medium => 1
  | .high => 2

instance : LE Level := ⟨fun a b => a.weight ≤ b.weight⟩

instance (a b : Level) : Decidable (a ≤ b) := inferInstanceAs (Decidable (a.weight ≤ b.weight))

end Level

/-- Where medium begins and where high begins. Marks are finite: nothing is said of a configuration
whose marks are infinite, or no numbers at all. -/
structure Marks where
  target : Binary64
  trigger : Binary64
  deriving DecidableEq, Inhabited

/-- The level of a reading. -/
def Marks.classify (m : Marks) (value : Binary64) : Level :=
  if value < m.target then .low
  else if value < m.trigger then .medium
  else .high

/-- The marks of every resource. -/
structure Thresholds where
  cache : Marks
  dirty : Marks
  updates : Marks
  tickets : Marks
  checkpoint : Marks
  /-- In seconds, unlike the others, which are percentages. -/
  replicationLag : Marks
  fragmentation : Marks
  deriving DecidableEq, Inhabited

namespace Thresholds

/-- The marks at two whole numbers. -/
def marks (target trigger : Nat) : Marks := ⟨Binary64.ofNat target, Binary64.ofNat trigger⟩

/-- Two and a half. -/
def twoAndAHalf : Binary64 := (Binary64.ofNat 5).div (Binary64.ofNat 2)

/-- The thresholds that hold where nothing else is said. -/
def standard : Thresholds :=
  { cache := marks 80 95
    dirty := marks 5 20
    updates := ⟨twoAndAHalf, Binary64.ofNat 10⟩
    tickets := marks 75 90
    checkpoint := marks 50 80
    replicationLag := marks 10 60
    fragmentation := marks 25 50 }

/-- The thresholds with the marks that a store evicts by. -/
def withEviction (t : Thresholds) (e : Eviction) : Thresholds :=
  { t with
    cache := ⟨e.target, e.trigger⟩
    dirty := ⟨e.dirtyTarget, e.dirtyTrigger⟩
    updates := ⟨e.updatesTarget, e.updatesTrigger⟩ }

/-- The thresholds by which a status report is judged. -/
def forCounters (t : Thresholds) (c : Counters) : Thresholds :=
  match c.eviction with
  | some e => t.withEviction e
  | none => t

end Thresholds

end PacedPurge
