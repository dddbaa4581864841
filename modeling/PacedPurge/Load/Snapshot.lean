import PacedPurge.Load.Thresholds

/-!
# Congestion snapshots

One status report turned into readings, each with its level. A percentage whose counters are not
reported reads as zero and is listed as missing, so there is always something to decide on.
Replication lag and heap fragmentation are simply absent when they are not reported.
-/

namespace PacedPurge

/-- A value and its level. -/
structure Reading where
  value : Binary64
  level : Level
  deriving DecidableEq, Inhabited

/-- The reading of a value. -/
def Marks.read (m : Marks) (value : Binary64) : Reading := ⟨value, m.classify value⟩

/-- The percentages that a snapshot always has. -/
inductive Gauge where
  | cache
  | dirty
  | updates
  | readTickets
  | writeTickets
  | checkpoint
  deriving DecidableEq, Repr

namespace Gauge

/-- All percentages, in the order in which missing ones are listed. -/
def all : List Gauge := [.cache, .dirty, .updates, .readTickets, .writeTickets, .checkpoint]

/-- The name under which a missing percentage is listed. -/
def name : Gauge → String
  | .cache => "cache_bytes_in_use"
  | .dirty => "cache_dirty_bytes"
  | .updates => "cache_update_bytes"
  | .readTickets => "read_tickets"
  | .writeTickets => "write_tickets"
  | .checkpoint => "checkpoint"

/-- The counter of which the percentage is taken. -/
def part : Gauge → Counters → Option Nat
  | .cache, c => c.cacheInUse
  | .dirty, c => c.cacheDirty
  | .updates, c => c.cacheUpdates
  | .readTickets, c => c.readTicketsOut
  | .writeTickets, c => c.writeTicketsOut
  | .checkpoint, c => c.checkpointRunning

/-- The counter that makes a hundred percent. -/
def whole : Gauge → Counters → Option Nat
  | .cache, c | .dirty, c | .updates, c => c.cacheMax
  | .readTickets, c => c.readTicketsTotal
  | .writeTickets, c => c.writeTicketsTotal
  | .checkpoint, c => c.checkpointInterval

/-- The marks of the percentage. -/
def marks : Gauge → Thresholds → Marks
  | .cache, t => t.cache
  | .dirty, t => t.dirty
  | .updates, t => t.updates
  | .readTickets, t | .writeTickets, t => t.tickets
  | .checkpoint, t => t.checkpoint

/-- A part of a whole in percent: divided first, then multiplied, each rounded. -/
def percent (part whole : Nat) : Binary64 :=
  ((Binary64.ofNat part).div (Binary64.ofNat whole)).mul (Binary64.ofNat 100)

/-- The percentage, if both of its counters are reported and the whole is not zero. -/
def percent? (g : Gauge) (c : Counters) : Option Binary64 :=
  match g.part c, g.whole c with
  | some part, some whole => if whole = 0 then none else some (percent part whole)
  | _, _ => none

/-- **When a percentage can be told**: both of its counters are reported, and the whole is above
zero. -/
theorem isSome_percent_iff {g : Gauge} {c : Counters} :
    (g.percent? c).isSome = true ↔
      ∃ part whole, g.part c = some part ∧ g.whole c = some whole ∧ 0 < whole := by
  unfold percent?
  cases g.part c with
  | none => simp
  | some part =>
    cases g.whole c with
    | none => simp
    | some whole =>
      by_cases empty : whole = 0
      · simp [empty]
      · simp [empty, Nat.pos_of_ne_zero empty]

/-- The reading of the percentage. -/
def read (g : Gauge) (c : Counters) (t : Thresholds) : Reading :=
  (g.marks t).read ((g.percent? c).getD .zero)

end Gauge

/-- The readings of one status report. -/
structure Snapshot where
  cache : Reading
  dirty : Reading
  updates : Reading
  readTickets : Reading
  writeTickets : Reading
  checkpoint : Reading
  replicationLag : Option Reading
  heapFragmentation : Option Reading
  /-- The names of the percentages that were not reported. -/
  missing : List String
  deriving DecidableEq, Inhabited

namespace Snapshot

/-- The lag in seconds. -/
def lagSeconds (ms : Nat) : Binary64 := (Binary64.ofNat ms).div (Binary64.ofNat 1000)

/-- The reading of the heap, if both of its counters are reported and it is not empty. -/
def fragmentation (c : Counters) (t : Thresholds) : Option Reading :=
  match c.heapFragmented, c.heapAllocated with
  | some part, some whole =>
    if whole = 0 then none else some (t.fragmentation.read (Gauge.percent part whole))
  | _, _ => none

/-- The snapshot of a status report, by the marks of the report where it has its own. -/
def ofCounters (c : Counters) (defaults : Thresholds) : Snapshot :=
  let t := defaults.forCounters c
  { cache := Gauge.cache.read c t
    dirty := Gauge.dirty.read c t
    updates := Gauge.updates.read c t
    readTickets := Gauge.readTickets.read c t
    writeTickets := Gauge.writeTickets.read c t
    checkpoint := Gauge.checkpoint.read c t
    replicationLag := c.replicationLag.map fun ms => t.replicationLag.read (lagSeconds ms)
    heapFragmentation := fragmentation c t
    missing := (Gauge.all.filter fun g => (g.percent? c).isNone).map Gauge.name }

end Snapshot

end PacedPurge
