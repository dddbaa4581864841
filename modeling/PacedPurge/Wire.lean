import PacedPurge.Purge.Run

/-!
# Wire forms

How the options of a session, load counters, filters and ids are written as JSON, and read back;
and how snapshots, thresholds and reports are written.
A choice is its name, or an object with that name as its only key. A structure is an object, in
which fields that are not known do not count, or an array of the fields in order. Integers are
taken where a binary64 number is meant, but not the other way round.
-/

namespace PacedPurge

namespace Wire

/-! ## Scalars -/

/-- A natural number below a bound. -/
def natBelow? (bound : Nat) : Json → Option Nat
  | .number (.integer (.ofNat n)) => if n < bound then some n else none
  | _ => none

/-- A counter of 64 bits. -/
def word? : Json → Option Nat := natBelow? UInt64.size

/-- A binary64 number. -/
def real? : Json → Option Binary64
  | .number n => some n.toReal
  | _ => none

/-- A text. -/
def string? : Json → Option String
  | .string s => some s
  | _ => none

/-- A binary64 number as a value. -/
def ofReal (x : Binary64) : Json := .number (.real x)

/-- An optional value, null standing for none. -/
def ofOption {α : Type} (write : α → Json) : Option α → Json
  | some a => write a
  | none => .null

/-! ## Choices and structures -/

/-- A choice: its name, and what stands with it. -/
def choice? : Json → Option (String × Option Json)
  | .string name => some (name, none)
  | .object [(name, content)] => some (name, some content)
  | _ => none

/-- The name of a choice with which nothing stands. -/
def bareChoice? (j : Json) : Option String :=
  match choice? j with
  | some (name, none) => some name
  | some (name, some .null) => some name
  | _ => none

/-- The values of the named fields of a structure, none for a field that is not there. -/
def fields? (names : List String) : Json → Option (List (Option Json))
  | .object members => some (names.map (Members.get? members))
  | .array elements => if elements.length = names.length then some (elements.map some) else none
  | _ => none

/-- A field that must be there. -/
def required {α : Type} (read : Json → Option α) : Option Json → Option α
  | some j => read j
  | none => none

/-- A field that may be missing or null. -/
def optional {α : Type} (read : Json → Option α) : Option Json → Option (Option α)
  | none => some none
  | some .null => some none
  | some j => (read j).map some

/-- A list of values. -/
def list? {α : Type} (read : Json → Option α) : Json → Option (List α)
  | .array elements => elements.mapM read
  | _ => none

/-- A map from texts to texts, sorted by key. -/
def textMap? : Json → Option (List (String × String))
  | .object members => do
    let pairs ← members.mapM fun m => (string? m.2).map fun s => (m.1, s)
    return pairs.mergeSort fun a b => (compare a.1 b.1).isLE
  | _ => none

end Wire

open Wire

/-! ## Session options -/

namespace ReadMode

/-- The name of a mode. -/
def name : ReadMode → String
  | .primary => "primary"
  | .primaryPreferred => "primaryPreferred"
  | .secondary => "secondary"
  | .secondaryPreferred => "secondaryPreferred"
  | .nearest => "nearest"

/-- All modes. -/
def all : List ReadMode :=
  [.primary, .primaryPreferred, .secondary, .secondaryPreferred, .nearest]

/-- Reads a mode. -/
def ofJson? (j : Json) : Option ReadMode :=
  (bareChoice? j).bind fun n => all.find? (·.name == n)

/-- Writes a mode. -/
def toJson (m : ReadMode) : Json := .string m.name

end ReadMode

namespace ReadConcern

/-- The name of a concern. -/
def name : ReadConcern → String
  | .localRead => "local"
  | .available => "available"
  | .majority => "majority"
  | .snapshot => "snapshot"

/-- All concerns. -/
def all : List ReadConcern := [.localRead, .available, .majority, .snapshot]

/-- Reads a concern. -/
def ofJson? (j : Json) : Option ReadConcern :=
  (bareChoice? j).bind fun n => all.find? (·.name == n)

/-- Writes a concern. -/
def toJson (c : ReadConcern) : Json := .string c.name

end ReadConcern

namespace WriteConcern

/-- Reads a concern. -/
def ofJson? (j : Json) : Option WriteConcern :=
  match choice? j with
  | some ("majority", none) => some .majority
  | some ("majority", some .null) => some .majority
  | some ("nodes", some content) => (natBelow? UInt32.size content).map .nodes
  | _ => none

/-- Writes a concern. -/
def toJson : WriteConcern → Json
  | .majority => .string "majority"
  | .nodes count => .object [("nodes", .ofNat count)]

end WriteConcern

namespace ReadPreference

/-- Reads a preference. -/
def ofJson? (j : Json) : Option ReadPreference :=
  match fields? ["mode", "tag_sets"] j with
  | some [mode, tagSets] => do
    let mode ← required ReadMode.ofJson? mode
    let tagSets ← required (list? textMap?) tagSets
    return ⟨mode, tagSets⟩
  | _ => none

/-- Writes a set of tags. -/
def tagsToJson (tags : List (String × String)) : Json :=
  .object (tags.map fun t => (t.1, .string t.2))

/-- Writes a preference. -/
def toJson (p : ReadPreference) : Json :=
  .object [("mode", p.mode.toJson), ("tag_sets", .array (p.tagSets.map tagsToJson))]

end ReadPreference

/-- Writes the options of a session. -/
def Session.toJson (s : Session) : Json :=
  .object
    [("causal_consistency", .bool s.causalConsistency),
     ("read_preference", s.readPreference.toJson),
     ("read_concern", s.readConcern.toJson),
     ("write_concern", s.writeConcern.toJson),
     ("simulate", .bool s.simulate)]

/-! ## Counters -/

namespace Eviction

/-- The names of the fields, in order. -/
def fieldNames : List String :=
  ["target_pct", "trigger_pct", "dirty_target_pct", "dirty_trigger_pct", "updates_target_pct",
   "updates_trigger_pct"]

/-- Reads eviction thresholds. -/
def ofJson? (j : Json) : Option Eviction :=
  match (fields? fieldNames j).bind (·.mapM (required real?)) with
  | some [target, trigger, dirtyTarget, dirtyTrigger, updatesTarget, updatesTrigger] =>
    some ⟨target, trigger, dirtyTarget, dirtyTrigger, updatesTarget, updatesTrigger⟩
  | _ => none

/-- The values of the fields, in order. -/
def values (e : Eviction) : List Binary64 :=
  [e.target, e.trigger, e.dirtyTarget, e.dirtyTrigger, e.updatesTarget, e.updatesTrigger]

/-- Writes eviction thresholds. -/
def toJson (e : Eviction) : Json := .object (fieldNames.zip (e.values.map ofReal))

end Eviction

namespace Counters

/-- The names of the numeric counters, in order. -/
def numericNames : List String :=
  ["cache_bytes_in_use", "cache_bytes_max", "cache_dirty_bytes", "cache_update_bytes",
   "read_tickets_out", "read_tickets_total", "write_tickets_out", "write_tickets_total",
   "checkpoint_running_ms", "checkpoint_interval_ms", "replication_lag_ms",
   "heap_allocated_bytes", "heap_fragmented_bytes"]

/-- The name of the last field. -/
def evictionName : String := "eviction"

/-- The numeric counters, in order. -/
def numeric (c : Counters) : List (Option Nat) :=
  [c.cacheInUse, c.cacheMax, c.cacheDirty, c.cacheUpdates, c.readTicketsOut, c.readTicketsTotal,
   c.writeTicketsOut, c.writeTicketsTotal, c.checkpointRunning, c.checkpointInterval,
   c.replicationLag, c.heapAllocated, c.heapFragmented]

/-- The counters with the given numbers, in order. -/
def ofNumeric? (eviction : Option Eviction) : List (Option Nat) → Option Counters
  | [cacheInUse, cacheMax, cacheDirty, cacheUpdates, readTicketsOut, readTicketsTotal,
     writeTicketsOut, writeTicketsTotal, checkpointRunning, checkpointInterval, replicationLag,
     heapAllocated, heapFragmented] =>
    some
      { cacheInUse, cacheMax, cacheDirty, cacheUpdates, readTicketsOut, readTicketsTotal,
        writeTicketsOut, writeTicketsTotal, checkpointRunning, checkpointInterval, replicationLag,
        heapAllocated, heapFragmented, eviction }
  | _ => none

/-- Reads counters. -/
def ofJson? (j : Json) : Option Counters := do
  let fields ← fields? (numericNames ++ [evictionName]) j
  let numbers ← (fields.take numericNames.length).mapM (optional word?)
  let eviction ← optional Eviction.ofJson? ((fields.drop numericNames.length).head?.join)
  ofNumeric? eviction numbers

/-- Writes counters, those that are not reported as null. -/
def toJson (c : Counters) : Json :=
  .object (numericNames.zip (c.numeric.map (ofOption .ofNat))
    ++ [(evictionName, ofOption Eviction.toJson c.eviction)])

end Counters

/-! ## Readings -/

/-- Writes a reading. -/
def Reading.toJson (r : Reading) : Json :=
  .object [("value", ofReal r.value), ("status", .string r.level.name)]

/-- Writes a snapshot. -/
def Snapshot.toJson (s : Snapshot) : Json :=
  .object
    [("cache", s.cache.toJson),
     ("dirty", s.dirty.toJson),
     ("updates", s.updates.toJson),
     ("read_tickets", s.readTickets.toJson),
     ("write_tickets", s.writeTickets.toJson),
     ("checkpoint", s.checkpoint.toJson),
     ("replication_lag", ofOption Reading.toJson s.replicationLag),
     ("heap_fragmentation", ofOption Reading.toJson s.heapFragmentation),
     ("missing", .array (s.missing.map .string))]

/-- Writes marks. -/
def Marks.toJson (m : Marks) : Json :=
  .object [("target", ofReal m.target), ("trigger", ofReal m.trigger)]

/-- Writes thresholds. -/
def Thresholds.toJson (t : Thresholds) : Json :=
  .object
    [("cache", t.cache.toJson),
     ("dirty", t.dirty.toJson),
     ("updates", t.updates.toJson),
     ("tickets", t.tickets.toJson),
     ("checkpoint", t.checkpoint.toJson),
     ("replication_lag_secs", t.replicationLag.toJson),
     ("fragmentation", t.fragmentation.toJson)]

/-! ## Reports -/

/-- Writes the report of a purge. -/
def Report.toJson (r : Report) : Json :=
  .object
    [("residual", .ofNat r.residual),
     ("buckets", .ofNat r.buckets),
     ("matched", .ofNat r.matched),
     ("deleted_reported", .ofNat r.deleted),
     ("failed_buckets", .ofNat r.failedBuckets),
     ("throttled_waits", .ofNat r.throttledWaits),
     ("simulated", .bool r.simulated)]

/-! ## Filters and ids -/

/-- Reads a filter. -/
def Filter.ofJson? : Json → Option Filter
  | .object fields => some ⟨fields⟩
  | _ => none

/-- Writes a filter. -/
def Filter.toJson (f : Filter) : Json := .object f.fields

/-- Reads an id. -/
def RecordId.ofJson? (j : Json) : Option RecordId := (string? j).map RecordId.mk

/-- Writes an id. -/
def RecordId.toJson (id : RecordId) : Json := .string id.text

end PacedPurge
