import PacedPurge.Json.Parser
import PacedPurge.Load.Counters
import PacedPurge.Namespace
import PacedPurge.Store.Selection
import PacedPurge.Store.Session
import PacedPurge.Store.Tickets
import PacedPurge.Text.Octets

/-!
# The keyed store

A persistent store on ordered keys. Each collection lives in a partition whose name is made of both
names of its namespace; keys are the octets of ids and values are the texts of documents. What is
in a partition need not decode, and an entry that does not ends whatever reads it with an error.

Rows come in one of two ways. When the order of keys is the order of the rows, the partition is
read page by page, one bucket at a time, and each page sees the partition as it is at that moment.
Otherwise all selected records are collected and sorted first.
-/

namespace PacedPurge

/-- The octets under which a record is kept. -/
abbrev Key := List UInt8

/-- The entries of a partition, ordered by key: octets of an id and the text of a document. -/
abbrev Partition := Std.TreeMap Key String

/-- What the host of a store reports. -/
structure HostLoad where
  memoryInUse : Option Nat
  memoryTotal : Option Nat
  /-- The fill of the write buffer, as a share of `memoryTotal`. -/
  dirty : Nat
  deriving Inhabited

/-- A store of partitions. -/
structure KeyedStore where
  partitions : Std.TreeMap String Partition := ∅
  readTickets : Tickets := .ofTotal 128
  writeTickets : Tickets := .ofTotal 128
  /-- What the host reports once `hostScript` has been used up. -/
  host : HostLoad := ⟨some 0, some (1 <<< 30), 0⟩
  hostScript : List HostLoad := []

namespace KeyedStore

/-! ## Partitions -/

/-- Whether a name can be part of the name of a partition. -/
def isValidName (name : String) : Bool :=
  !name.isEmpty && name.toList.all fun c => c.isAlphanum || c = '_' || c = '-'

/-- The name of the partition of a collection. -/
def partitionName (ns : Namespace) : Except StoreError String :=
  if isValidName ns.database && isValidName ns.collection then
    .ok (ns.database ++ "__" ++ ns.collection)
  else .error (.invalidNamespace ns.text)

/-- The longest name that a partition can have, in octets. Names of partitions are plain ASCII, so
it is also a number of characters. -/
def maxNameLength : Nat := 255

/-- The longest key that a record can be kept or looked up under, in octets. -/
def maxKeyLength : Nat := 65535

/-- The error of work on the store that breaks off. -/
def workFailed : StoreError := .storage "keyspace task failed"

/-- The name of the partition of a collection, if a partition of that name can be opened. -/
def openName (ns : Namespace) : Except StoreError String :=
  match partitionName ns with
  | .error e => .error e
  | .ok name => if maxNameLength < name.length then .error workFailed else .ok name

/-- The key of a record. -/
def keyOf (id : RecordId) : Key := Text.octets id.text

/-- Whether a record can be kept under a key. -/
def isKeepable (key : Key) : Bool := !key.isEmpty && key.length ≤ maxKeyLength

/-- The partition of a name. -/
def partition (k : KeyedStore) (name : String) : Partition := (k.partitions[name]?).getD ∅

/-- The store with other entries in a partition. -/
def setPartition (k : KeyedStore) (name : String) (p : Partition) : KeyedStore :=
  { k with partitions := k.partitions.insert name p }

/-- The record that an entry holds, if it decodes. -/
def decode (entry : Key × String) : Except StoreError (RecordId × Document) :=
  match Text.ofOctets entry.1 with
  | .error fault => .error (.storage ("record id is not utf-8: " ++ fault.message))
  | .ok id =>
    match Json.parse entry.2 with
    | some (.object doc) => .ok (⟨id⟩, doc)
    | _ => .error .encoding

/-- The text under which a document is kept. -/
def encode (doc : Document) : String := (Json.object doc).compact

/-- Whether records can be kept under the keys of their ids. -/
def canKeep (docs : List (RecordId × Document)) : Bool := docs.all fun d => isKeepable (keyOf d.1)

/-- Adds records, each in place of the one that had its id: how many were given. An id under which
no record can be kept breaks the work off before any is added. -/
def insertAll (k : KeyedStore) (ns : Namespace) (docs : List (RecordId × Document)) :
    Except StoreError (Nat × KeyedStore) :=
  match openName ns with
  | .error e => .error e
  | .ok name =>
    if canKeep docs then
      let filled := docs.foldl (fun p d => p.insert (keyOf d.1) (encode d.2)) (k.partition name)
      .ok (docs.length, k.setPartition name filled)
    else .error workFailed

/-- What it takes for records to be added, and the store with them. -/
theorem insertAll_eq_ok_iff {k k' : KeyedStore} {ns : Namespace}
    {docs : List (RecordId × Document)} {n : Nat} :
    k.insertAll ns docs = .ok (n, k') ↔
      ∃ name, openName ns = .ok name ∧ canKeep docs = true ∧ n = docs.length ∧
        k' = k.setPartition name
          (docs.foldl (fun p d => p.insert (keyOf d.1) (encode d.2)) (k.partition name)) := by
  unfold insertAll
  rcases openName ns with e | own
  · simp only [reduceCtorEq, false_and, exists_false]
  · simp only
    split
    · next keeps =>
      simp only [Except.ok.injEq, Prod.mk.injEq, exists_eq_left', keeps, true_and, eq_comm]
    · next refuses =>
      simp only [reduceCtorEq, refuses, Bool.false_eq_true, false_and, and_false, exists_false]

/-- How many entries the partition of a collection has. -/
def size (k : KeyedStore) (ns : Namespace) : Except StoreError Nat :=
  match openName ns with
  | .error e => .error e
  | .ok name => .ok (k.partition name).size

/-- The ids of the list that are there, repetitions included. -/
def existing (p : Partition) (ids : List RecordId) : List RecordId :=
  ids.filter fun id => p.contains (keyOf id)

/-- Removes records of a partition. The count is of the ids that were there, an id counted as
often as it is listed. -/
def remove (k : KeyedStore) (name : String) (ids : List RecordId) : Nat × KeyedStore :=
  let found := existing (k.partition name) ids
  (found.length,
    k.setPartition name (found.foldl (fun p id => p.erase (keyOf id)) (k.partition name)))

/-! ## Reading -/

/-- The selected records among entries, in their order. -/
def select (s : Selection) : List (Key × String) → Except StoreError (List Candidate)
  | [] => .ok []
  | entry :: rest =>
    match decode entry with
    | .error e => .error e
    | .ok (id, doc) =>
      match s.selects id doc with
      | .error e => .error e
      | .ok chosen =>
        match select s rest with
        | .error e => .error e
        | .ok more => .ok (if chosen then s.candidate id doc :: more else more)

/-- The selected records of a collection. -/
def candidates (k : KeyedStore) (ns : Namespace) (s : Selection) :
    Except StoreError (List Candidate) :=
  match openName ns with
  | .error e => .error e
  | .ok name => select s (k.partition name).toList

/-- Counts the selected records among entries, one by one, behind `n` that have been counted. -/
def countOn (s : Selection) (n : Nat) : List (Key × String) → Except StoreError Nat
  | [] => .ok n
  | entry :: rest =>
    match decode entry with
    | .error e => .error e
    | .ok (id, doc) =>
      match s.selects id doc with
      | .error e => .error e
      | .ok chosen => countOn s (if chosen then n + 1 else n) rest

/-- How many records of a collection are selected. -/
def count (k : KeyedStore) (ns : Namespace) (s : Selection) : Except StoreError Nat :=
  match openName ns with
  | .error e => .error e
  | .ok name => countOn s 0 (k.partition name).toList

/-- **Counting and collecting** come to the same number, and stop at the same entry with the same
error. -/
theorem countOn_eq (s : Selection) (n : Nat) (entries : List (Key × String)) :
    countOn s n entries = (select s entries).map fun found => n + found.length := by
  induction entries generalizing n with
  | nil => rfl
  | cons entry rest ih =>
    unfold countOn select
    rcases decode entry with e | ⟨id, doc⟩
    · rfl
    · simp only
      rcases s.selects id doc with e | chosen
      · rfl
      · simp only [ih]
        rcases select s rest with e | more
        · rfl
        · rcases chosen with _ | _
          · rfl
          · exact congrArg Except.ok (Nat.add_right_comm n 1 more.length)

theorem count_eq (k : KeyedStore) (ns : Namespace) (s : Selection) :
    k.count ns s = (k.candidates ns s).map List.length := by
  unfold count candidates
  cases openName ns with
  | error e => rfl
  | ok name =>
    have counted := countOn_eq s 0 (k.partition name).toList
    simp only [Nat.zero_add] at counted
    exact counted

/-- Whether the selected records go in the order of their keys. -/
def isKeyOrdered (s : Selection) : Bool :=
  match s.filter.sortKey with
  | none => true
  | some key => key = idPath && s.collation = .simple

/-! ## Pages -/

/-- Where a page-by-page reading stands. -/
structure KeyScan where
  ns : Namespace
  selection : Selection
  /-- How many selected records make a page. -/
  pageSize : Nat
  /-- The last key that was visited. -/
  cursor : Option Key := none
  /-- How many pages have been read. -/
  pages : Nat := 0
  done : Bool := false
  deriving Inhabited

/-- One page: selected records, the last key visited, and whether the partition ended. -/
structure Page where
  found : List Candidate
  last : Option Key
  exhausted : Bool
  deriving Inhabited

/-- The largest page for which room can be set aside: a candidate takes 96 octets, and all of a page
fewer than 2^63. Room for a page that is no larger is taken to be granted. -/
def maxPageSize : Nat := ((1 <<< 63) - 1) / 96

/-- Reads entries until `room` selected records are found; `last` is the key visited before. -/
def readPage (s : Selection) (room : Nat) (last : Option Key) :
    List (Key × String) → Except StoreError Page
  | [] => .ok ⟨[], last, true⟩
  | entry :: rest =>
    match decode entry with
    | .error e => .error e
    | .ok (id, doc) =>
      match s.selects id doc with
      | .error e => .error e
      | .ok false => readPage s room (some entry.1) rest
      | .ok true =>
        if room ≤ 1 then .ok ⟨[s.candidate id doc], some entry.1, false⟩
        else
          match readPage s (room - 1) (some entry.1) rest with
          | .error e => .error e
          | .ok page => .ok { page with found := s.candidate id doc :: page.found }

/-- The entries behind a key, in order. -/
def entriesAfter (p : Partition) : Option Key → List (Key × String)
  | none => p.toList
  | some key => p.toList.dropWhile fun entry => (compare entry.1 key).isLE

/-- The next page of a reading. -/
def page (k : KeyedStore) (scan : KeyScan) : Except StoreError Page :=
  match openName scan.ns with
  | .error e => .error e
  | .ok name =>
    if maxPageSize < scan.pageSize then .error workFailed
    else
      readPage scan.selection scan.pageSize none (entriesAfter (k.partition name) scan.cursor)

/-- The rows of a page that is the `number`-th bucket. -/
def Page.rows (page : Page) (number : Nat) : List Row :=
  page.found.mapIdx fun index c => ⟨c.2, c.1, number, index + 1, page.found.length⟩

/-! ## Status -/

/-- The counters of the store under a load of its host. -/
def counters (k : KeyedStore) (host : HostLoad) : Counters :=
  { cacheInUse := host.memoryInUse
    cacheMax := host.memoryTotal
    cacheDirty := some host.dirty
    readTicketsOut := some k.readTickets.out
    readTicketsTotal := some k.readTickets.total
    writeTicketsOut := some k.writeTickets.out
    writeTicketsTotal := some k.writeTickets.total }

/-- The report that is due. -/
def report (k : KeyedStore) : Counters × KeyedStore :=
  match k.hostScript with
  | host :: rest => (k.counters host, { k with hostScript := rest })
  | [] => (k.counters k.host, k)

end KeyedStore

end PacedPurge
