import PacedPurge.Load.Counters
import PacedPurge.Namespace
import PacedPurge.Store.Selection
import PacedPurge.Store.Session

/-!
# The store in memory

Collections held as ordered maps. Besides keeping records the store can be told how to behave:
which counters it reports, how long a delete takes, how many of the next deletes fail. It counts
the calls it gets and how many deletes were under way at once.
-/

namespace PacedPurge

/-- The records of a collection, ordered by id. -/
abbrev Records := Std.TreeMap RecordId Document

/-- What a store says when it is asked for its counters. -/
inductive StatusMode where
  | counters (c : Counters)
  | unsupported
  | failing (message : String)

/-- A store that keeps its collections in memory. -/
structure MemoryStore where
  collections : Std.TreeMap Namespace Records := ∅
  status : StatusMode := .counters {}
  /-- Reports that are given before `status` holds. -/
  script : List Counters := []
  statusCalls : Nat := 0
  /-- How many milliseconds a delete takes. -/
  latency : Nat := 0
  /-- How many of the next deletes fail. -/
  failures : Nat := 0
  deleteCalls : Nat := 0
  deletesInFlight : Nat := 0
  /-- The most deletes that were under way at once. -/
  peakDeletes : Nat := 0

namespace MemoryStore

/-! ## Records -/

/-- The records of a collection. -/
def records (m : MemoryStore) (ns : Namespace) : Records := (m.collections[ns]?).getD ∅

/-- The store with other records in a collection. -/
def setRecords (m : MemoryStore) (ns : Namespace) (records : Records) : MemoryStore :=
  { m with collections := m.collections.insert ns records }

/-- Adds records, each in place of the one that had its id. -/
def insertAll (m : MemoryStore) (ns : Namespace) (docs : List (RecordId × Document)) :
    MemoryStore :=
  m.setRecords ns (docs.foldl (fun r d => r.insert d.1 d.2) (m.records ns))

/-- How many records a collection has. -/
def size (m : MemoryStore) (ns : Namespace) : Nat := (m.records ns).size

/-- Whether a collection has a record. -/
def contains (m : MemoryStore) (ns : Namespace) (id : RecordId) : Bool :=
  (m.records ns).contains id

/-- The ids of the list that are there, repetitions included. -/
def existing (m : MemoryStore) (ns : Namespace) (ids : List RecordId) : List RecordId :=
  ids.filter (m.contains ns)

/-- Takes the records of listed ids away one after another: how many were there when their turn
came, and the records that are left. -/
def takeAway (records : Records) : List RecordId → Nat × Records
  | [] => (0, records)
  | id :: rest =>
    let (count, left) := takeAway (records.erase id) rest
    (if records.contains id then count + 1 else count, left)

/-- Removes records: how many went, and the store without them. -/
def remove (m : MemoryStore) (ns : Namespace) (ids : List RecordId) : Nat × MemoryStore :=
  let (count, left) := takeAway (m.records ns) ids
  (count, m.setRecords ns left)

theorem takeAway_snd (records : Records) (ids : List RecordId) :
    (takeAway records ids).2 = ids.foldl (fun r id => r.erase id) records := by
  induction ids generalizing records with
  | nil => rfl
  | cons id rest ih => exact ih (records.erase id)

theorem remove_snd (m : MemoryStore) (ns : Namespace) (ids : List RecordId) :
    (m.remove ns ids).2 = m.setRecords ns (ids.foldl (fun r id => r.erase id) (m.records ns)) :=
  congrArg (m.setRecords ns) (takeAway_snd (m.records ns) ids)

/-- Records are fewer by one when one of them is erased. -/
theorem size_erase_add_one {records : Records} {id : RecordId}
    (there : records.contains id = true) : (records.erase id).size + 1 = records.size := by
  have filled : records.isEmpty = false :=
    Std.TreeMap.isEmpty_eq_false_iff_exists_mem.mpr ⟨id, there⟩
  rw [Std.TreeMap.isEmpty_eq_size_eq_zero, beq_eq_false_iff_ne] at filled
  rw [Std.TreeMap.size_erase, if_pos there]
  exact Nat.sub_one_add_one filled

/-- **Records are fewer by what is counted**, whatever the list repeats: when an id comes up for the
second time, its record is no longer there. -/
theorem takeAway_fst_add_size (records : Records) (ids : List RecordId) :
    (takeAway records ids).1 + (takeAway records ids).2.size = records.size := by
  induction ids generalizing records with
  | nil => exact Nat.zero_add _
  | cons id rest ih =>
    have others := ih (records.erase id)
    simp only [takeAway]
    split
    · next there =>
      have one := size_erase_add_one there
      omega
    · next absent => rw [others, Std.TreeMap.size_erase, if_neg absent]

/-- The selected records of a collection. -/
def candidates (m : MemoryStore) (ns : Namespace) (s : Selection) :
    Except StoreError (List Candidate) :=
  s.candidates (m.records ns).toList

/-! ## Calls -/

/-- The rows of a query. -/
def rows (m : MemoryStore) (ns : Namespace) (q : Query) : Except StoreError (List Row) :=
  match Collation.parse q.collation with
  | .error e => .error e
  | .ok collation =>
    match m.candidates ns ⟨q.filter, collation⟩ with
    | .error e => .error e
    | .ok found => .ok (Row.window collation q.bucketSize found)

/-- How many records of a collection are selected. -/
def count (m : MemoryStore) (ns : Namespace) (filter : Filter) (collation : Option String) :
    Except StoreError Nat :=
  match Collation.parse collation with
  | .error e => .error e
  | .ok collation =>
    match m.candidates ns ⟨filter, collation⟩ with
    | .error e => .error e
    | .ok found => .ok found.length

/-- A delete begins. -/
def enterDelete (m : MemoryStore) : MemoryStore :=
  { m with
    deleteCalls := m.deleteCalls + 1
    deletesInFlight := m.deletesInFlight + 1
    peakDeletes := max m.peakDeletes (m.deletesInFlight + 1) }

/-- A delete ends. -/
def leaveDelete (m : MemoryStore) : MemoryStore :=
  { m with deletesInFlight := m.deletesInFlight - 1 }

/-- The failure that a delete is told to have. -/
def injectedFailure : StoreError := .transient "write conflict during delete"

/-- Uses up one of the failures, if any are left. -/
def takeFailure? (m : MemoryStore) : Option MemoryStore :=
  match m.failures with
  | 0 => none
  | n + 1 => some { m with failures := n }

/-- The report that is due. -/
def report (m : MemoryStore) : Except StoreError Counters × MemoryStore :=
  let counted := { m with statusCalls := m.statusCalls + 1 }
  match m.script with
  | c :: rest => (.ok c, { counted with script := rest })
  | [] =>
    match m.status with
    | .counters c => (.ok c, counted)
    | .unsupported => (.error (.unsupported "serverStatus wiredTiger section"), counted)
    | .failing message => (.error (.storage message), counted)

end MemoryStore

end PacedPurge
