import PacedPurge.Bucket.Arrivals
import PacedPurge.Journal
import PacedPurge.Store.Keyed
import PacedPurge.Store.Memory
import PacedPurge.Store.Transaction

/-!
# Requests

What a client can ask of a store, and how either store answers. A request is served in two moments.
At the first it *enters* the store: a ticket is taken, or a delete is counted as under way. At the
second it *leaves* again: its effect takes place, all at once, and its answer is given. Between the
two other clients may come and go.
-/

namespace PacedPurge

/-- Where the rows of a query come from. -/
inductive RowSource where
  /-- Rows that are known, with the times at which they arrive. -/
  | known (arrivals : Arrivals)
  /-- Pages still to be read; `buffered` is what is left of the last one. -/
  | paged (scan : KeyedStore.KeyScan) (buffered : List Row)

/-- What a client asks, and the type of the answer. -/
inductive Request : Type → Type where
  /-- The rows of a query. -/
  | rows (ns : Namespace) (query : Query) : Request RowSource
  /-- The next page of a reading. -/
  | page (scan : KeyedStore.KeyScan) : Request KeyedStore.Page
  /-- Remove records; the answer is how many were removed. -/
  | delete (ns : Namespace) (ids : List RecordId) (concern : WriteConcern) : Request Nat
  /-- Begin a transaction. -/
  | begin (concern : WriteConcern) : Request Transaction
  /-- Remove records within a transaction; the answer is how many are newly staged. -/
  | stage (txn : Transaction) (ns : Namespace) (ids : List RecordId) : Request (Nat × Transaction)
  /-- Carry out a transaction. -/
  | commit (txn : Transaction) : Request Unit
  /-- Give up a transaction. -/
  | abort (txn : Transaction) : Request Unit
  /-- How many records are selected. -/
  | count (ns : Namespace) (filter : Filter) (collation : Option String) : Request Nat
  /-- The counters of the store. -/
  | status : Request Counters

/-- The kinds of requests that can be disturbed on their way to the store. -/
inductive Method where
  | bucketRows
  | deleteIds
  | begin
  | count
  | status
  | stagedDelete
  | commit
  | abort
  deriving DecidableEq, Repr

/-- The kind of a request. The pages of a reading are fetched by the store itself and pass no gate,
so that nothing but the store and its entries can make one of them fail. -/
def Request.method? {α : Type} : Request α → Option Method
  | .rows .. => some .bucketRows
  | .page _ => none
  | .delete .. => some .deleteIds
  | .begin _ => some .begin
  | .stage .. => some .stagedDelete
  | .commit _ => some .commit
  | .abort _ => some .abort
  | .count .. => some .count
  | .status => some .status

/-- Whether the request removes records, now or on commit. -/
def Request.isDelete {α : Type} : Request α → Bool
  | .delete .. | .stage .. => true
  | _ => false

/-! ## The store in memory -/

namespace MemoryStore

/-- A request enters: deletes are counted, and take the time that deletes take. -/
def enter {α : Type} (m : MemoryStore) (r : Request α) : Nat × MemoryStore :=
  if r.isDelete then (m.latency, m.enterDelete) else (0, m)

/-- Removes everything that a transaction has staged. -/
def removeStaged (m : MemoryStore) (staged : List (Namespace × List RecordId)) : MemoryStore :=
  staged.foldl (fun m entry => (m.remove entry.1 entry.2).2) m

/-- A delete takes effect unless it is told to fail, and is no longer under way. -/
def leaveWith {α : Type} (m : MemoryStore) (effect : MemoryStore → α × MemoryStore) :
    Except StoreError α × MemoryStore :=
  match m.takeFailure? with
  | some failed => (.error injectedFailure, failed.leaveDelete)
  | none =>
    let (answer, after) := effect m
    (.ok answer, after.leaveDelete)

/-- A request takes effect and is answered. -/
def leave {α : Type} (m : MemoryStore) : Request α → Except StoreError α × MemoryStore
  | .rows ns query => ((m.rows ns query).map fun rows => .known (.ofRows rows), m)
  | .page _ => (.error (.unsupported "pages"), m)
  | .delete ns ids _ => m.leaveWith fun m => m.remove ns ids
  | .begin concern => (.ok (.start concern), m)
  | .stage txn ns ids => m.leaveWith fun m => (txn.stage ns (m.existing ns ids), m)
  | .commit txn => (.ok (), m.removeStaged txn.staged)
  | .abort _ => (.ok (), m)
  | .count ns filter collation => (m.count ns filter collation, m)
  | .status => m.report

end MemoryStore

/-! ## The keyed store -/

/-- Which tickets an operation needs. -/
inductive TicketKind where
  | read
  | write
  deriving DecidableEq, Repr

namespace KeyedStore

/-- The selection of a query, if its collation and its namespace make sense. -/
def openQuery (ns : Namespace) (query : Query) : Except StoreError Selection :=
  match Collation.parse query.collation with
  | .error e => .error e
  | .ok collation =>
    match partitionName ns with
    | .error e => .error e
    | .ok _ => .ok ⟨query.filter, collation⟩

/-- The ticket that a request needs; one that is answered without touching a partition needs
none. -/
def ticket? {α : Type} : Request α → Option TicketKind
  | .rows ns query =>
    match openQuery ns query with
    | .ok selection => if isKeyOrdered selection then none else some .read
    | .error _ => none
  | .page _ => some .read
  | .delete .. | .stage .. | .commit _ => some .write
  | .count _ _ collation =>
    match Collation.parse collation with
    | .ok _ => some .read
    | .error _ => none
  | .begin _ | .abort _ | .status => none

/-- The tickets of a kind. -/
def tickets (k : KeyedStore) : TicketKind → Tickets
  | .read => k.readTickets
  | .write => k.writeTickets

/-- The store after a change to the tickets of a kind. -/
def mapTickets (k : KeyedStore) (kind : TicketKind) (f : Tickets → Tickets) : KeyedStore :=
  match kind with
  | .read => { k with readTickets := f k.readTickets }
  | .write => { k with writeTickets := f k.writeTickets }

/-- Whether a request finds the ticket that it needs. -/
def admits {α : Type} (k : KeyedStore) (r : Request α) : Bool :=
  match ticket? r with
  | none => true
  | some kind => (k.tickets kind).available

/-- Whether a worker of the store serves the request: all work on partitions is theirs. -/
def handsOver {α : Type} (r : Request α) : Bool := (ticket? r).isSome

/-- A request enters with the ticket that it needs. -/
def enter {α : Type} (k : KeyedStore) (r : Request α) : KeyedStore :=
  match ticket? r with
  | none => k
  | some kind => k.mapTickets kind .take

/-- The ticket of a request is given back. -/
def release {α : Type} (k : KeyedStore) (r : Request α) : KeyedStore :=
  match ticket? r with
  | none => k
  | some kind => k.mapTickets kind .giveBack

/-- The rows of a query, read page by page where the order of keys allows it. -/
def rows (k : KeyedStore) (ns : Namespace) (query : Query) : Except StoreError RowSource :=
  match openQuery ns query with
  | .error e => .error e
  | .ok selection =>
    if isKeyOrdered selection then
      .ok (.paged { ns, selection, pageSize := max 1 query.bucketSize } [])
    else
      match k.candidates ns selection with
      | .error e => .error e
      | .ok found => .ok (.known (.ofRows (Row.window selection.collation query.bucketSize found)))

/-- The event of a query whose hint cannot be followed. -/
def hintEvents (ns : Namespace) (query : Query) : List Event :=
  match openQuery ns query, query.hint with
  | .ok _, some hint => [.hintIgnored hint]
  | _, _ => []

/-- Whether the keys of all ids are short enough to be looked up. -/
def hasKeys (ids : List RecordId) : Bool := ids.all fun id => (keyOf id).length ≤ maxKeyLength

/-- Removes records of a collection in one batch. A store of one node is a majority of its nodes, so
where the concern is one the journal is synced before the answer, unless there was nothing to
remove; `synced` is what this comes to. The batch has taken effect by then. -/
def deleteSyncing (k : KeyedStore) (synced : Except StoreError Unit) (ns : Namespace)
    (ids : List RecordId) (concern : WriteConcern) : Except StoreError Nat × KeyedStore :=
  match openName ns with
  | .error e => (.error e, k)
  | .ok name =>
    if hasKeys ids then
      let (n, k) := k.remove name ids
      if n ≠ 0 && concern = .majority then (synced.map fun _ => n, k) else (.ok n, k)
    else (.error workFailed, k)

/-- Removes records of a collection. The journal is taken to be synced whenever it has to be. -/
def delete (k : KeyedStore) (ns : Namespace) (ids : List RecordId) (concern : WriteConcern) :
    Except StoreError Nat × KeyedStore :=
  k.deleteSyncing (.ok ()) ns ids concern

section Delete

variable {k : KeyedStore} {ns : Namespace} {ids : List RecordId} {concern : WriteConcern}

theorem delete_of_refused {e : StoreError} (refused : openName ns = .error e) :
    k.delete ns ids concern = (.error e, k) := by
  simp only [delete, deleteSyncing, refused]

theorem delete_of_openName {name : String} (opens : openName ns = .ok name) :
    k.delete ns ids concern =
      if hasKeys ids then (.ok (k.remove name ids).1, (k.remove name ids).2)
      else (.error workFailed, k) := by
  simp only [delete, deleteSyncing, opens]
  split
  · split
    · rfl
    · rfl
  · rfl

/-- **What a sync does to a delete.** It can make an error of the answer, if there was something to
remove and the concern is a majority; what is removed does not depend on it. -/
theorem deleteSyncing_eq (k : KeyedStore) (synced : Except StoreError Unit) (ns : Namespace)
    (ids : List RecordId) (concern : WriteConcern) :
    k.deleteSyncing synced ns ids concern =
      ((k.delete ns ids concern).1.bind fun n =>
        if n ≠ 0 ∧ concern = .majority then synced.map fun _ => n else .ok n,
        (k.delete ns ids concern).2) := by
  cases opens : openName ns with
  | error e =>
    rw [delete_of_refused opens]
    simp only [deleteSyncing, opens]
    rfl
  | ok name =>
    rw [delete_of_openName opens]
    simp only [deleteSyncing, opens]
    by_cases short : hasKeys ids = true
    · simp only [if_pos short, Bool.and_eq_true, decide_eq_true_eq]
      split
      · next syncs => rw [Except.bind, if_pos syncs]
      · next silent => rw [Except.bind, if_neg silent]
    · simp only [if_neg short]
      rfl

end Delete

/-- The ids of a collection that are there, repetitions included. -/
def existingIn (k : KeyedStore) (ns : Namespace) (ids : List RecordId) :
    Except StoreError (List RecordId) :=
  match openName ns with
  | .error e => .error e
  | .ok name => if hasKeys ids then .ok (existing (k.partition name) ids) else .error workFailed

/-- Removes everything that a transaction has staged, up to the first collection that cannot be
addressed. -/
def removeStaged (k : KeyedStore) (concern : WriteConcern) :
    List (Namespace × List RecordId) → Except StoreError Unit × KeyedStore
  | [] => (.ok (), k)
  | (ns, ids) :: rest =>
    match k.delete ns ids concern with
    | (.error e, k) => (.error e, k)
    | (.ok _, k) => k.removeStaged concern rest

/-- The event of an abort that discards something. -/
def abortEvents (txn : Transaction) : List Event :=
  if txn.staged.isEmpty then [] else [.stagedDiscarded txn.staged.length]

/-- What a request does and answers, tickets apart. -/
def perform {α : Type} (k : KeyedStore) : Request α → Except StoreError α × KeyedStore
  | .rows ns query => (k.rows ns query, k)
  | .page scan => (k.page scan, k)
  | .delete ns ids concern => k.delete ns ids concern
  | .begin concern => (.ok (.start concern), k)
  | .stage txn ns ids => ((k.existingIn ns ids).map (txn.stage ns), k)
  | .commit txn => k.removeStaged txn.concern txn.staged
  | .abort _ => (.ok (), k)
  | .count ns filter collation =>
    (match Collation.parse collation with
      | .error e => .error e
      | .ok collation => k.count ns ⟨filter, collation⟩, k)
  | .status => let (c, k) := k.report; (.ok c, k)

/-- What is reported while a request is served. -/
def events {α : Type} : Request α → List Event
  | .rows ns query => hintEvents ns query
  | .abort txn => abortEvents txn
  | _ => []

/-- A request takes effect, is answered and gives its ticket back. -/
def leave {α : Type} (k : KeyedStore) (r : Request α) : Except StoreError α × KeyedStore :=
  let (answer, k) := k.perform r
  (answer, k.release r)

end KeyedStore

/-! ## Either store -/

/-- A store of either kind. -/
inductive Store where
  | memory (m : MemoryStore)
  | keyed (k : KeyedStore)

namespace Store

/-- Whether a request can enter now. -/
def admits {α : Type} (s : Store) (r : Request α) : Bool :=
  match s with
  | .memory _ => true
  | .keyed k => k.admits r

/-- Whether a worker of the store serves the request while the client sees to other things. -/
def handsOver {α : Type} (s : Store) (r : Request α) : Bool :=
  match s with
  | .memory _ => false
  | .keyed _ => KeyedStore.handsOver r

/-- A request enters: how many milliseconds it stays at least. -/
def enter {α : Type} (s : Store) (r : Request α) : Nat × Store :=
  match s with
  | .memory m => let (busy, m) := m.enter r; (busy, .memory m)
  | .keyed k => (0, .keyed (k.enter r))

/-- A request takes effect and is answered. -/
def leave {α : Type} (s : Store) (r : Request α) : Except StoreError α × Store :=
  match s with
  | .memory m => let (answer, m) := m.leave r; (answer, .memory m)
  | .keyed k => let (answer, k) := k.leave r; (answer, .keyed k)

/-- Adds records to a collection, each in place of the one that had its id: how many were given. -/
def insertAll (s : Store) (ns : Namespace) (docs : List (RecordId × Document)) :
    Except StoreError (Nat × Store) :=
  match s with
  | .memory m => .ok (docs.length, .memory (m.insertAll ns docs))
  | .keyed k => (k.insertAll ns docs).map fun r => (r.1, .keyed r.2)

/-- What is reported while a request is served. -/
def events {α : Type} (s : Store) (r : Request α) : List Event :=
  match s with
  | .memory _ => []
  | .keyed _ => KeyedStore.events r

end Store

end PacedPurge
