import PacedPurge.Number.Binary64

/-!
# Load counters

What a store reports about itself, every counter optional, and the thresholds at which it starts
to evict pages from its cache, when it tells them.
-/

namespace PacedPurge

/-- The percentages at which a store evicts pages: where it begins, and where it makes its clients
help. -/
structure Eviction where
  target : Binary64
  trigger : Binary64
  dirtyTarget : Binary64
  dirtyTrigger : Binary64
  updatesTarget : Binary64
  updatesTrigger : Binary64
  deriving DecidableEq, Inhabited

/-- The counters of one status report. -/
structure Counters where
  cacheInUse : Option Nat := none
  cacheMax : Option Nat := none
  cacheDirty : Option Nat := none
  cacheUpdates : Option Nat := none
  readTicketsOut : Option Nat := none
  readTicketsTotal : Option Nat := none
  writeTicketsOut : Option Nat := none
  writeTicketsTotal : Option Nat := none
  checkpointRunning : Option Nat := none
  checkpointInterval : Option Nat := none
  replicationLag : Option Nat := none
  heapAllocated : Option Nat := none
  heapFragmented : Option Nat := none
  eviction : Option Eviction := none
  deriving DecidableEq, Inhabited

end PacedPurge
