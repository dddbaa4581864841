import PacedPurge.Scenario.Step

/-!
# Performing a scenario

What each step does to the site and to the transactions and bucket sources that are kept open, and
what it answers.
-/

namespace PacedPurge

namespace Scenario

/-- Where a scenario stands. -/
structure State where
  site : Site
  transactions : List (String × Transaction) := []
  sources : List (String × BucketSource) := []

/-- The entry of a name. -/
def find? {α : Type} (entries : List (String × α)) (name : String) : Option α :=
  (entries.find? (·.1 == name)).map (·.2)

/-- The entries without that of a name. -/
def without {α : Type} (entries : List (String × α)) (name : String) : List (String × α) :=
  entries.filter (·.1 != name)

/-- The entries with one for a name, in place of the one that it had. -/
def withEntry {α : Type} (entries : List (String × α)) (name : String) (a : α) :
    List (String × α) :=
  (name, a) :: without entries name

namespace State

/-- Puts a transaction under a name. -/
def keepTransaction (s : State) (name : String) (t : Transaction) : State :=
  { s with transactions := withEntry s.transactions name t }

/-- Lets the transaction of a name go. -/
def dropTransaction (s : State) (name : String) : State :=
  { s with transactions := without s.transactions name }

/-- Puts a bucket source under a name. -/
def keepSource (s : State) (name : String) (b : BucketSource) : State :=
  { s with sources := withEntry s.sources name b }

/-- Changes the store if it is kept in memory. -/
def mapMemory (s : State) (f : MemoryStore → MemoryStore) : State :=
  match s.site.store with
  | .memory m => { s with site := { s.site with store := .memory (f m) } }
  | .keyed _ => s

/-- The answer to a call whose answer is a number. -/
def ofCount : Except StoreError Nat → Reply
  | .ok n => .number n
  | .error e => .failed e

/-- The answer to a call that has nothing to say. -/
def ofUnit : Except StoreError Unit → Reply
  | .ok _ => .done
  | .error e => .failed e

/-- Adds records: how many were given. -/
def insert (s : State) (ns : Namespace) (docs : List (RecordId × Document)) : Reply × State :=
  match s.site.store.insertAll ns docs with
  | .error e => (.failed e, s)
  | .ok (n, store) => (.number n, { s with site := { s.site with store } })

/-- How many records a collection has. -/
def size (s : State) (ns : Namespace) : Reply :=
  match s.site.store with
  | .memory m => .number (m.size ns)
  | .keyed k => ofCount (k.size ns)

/-- Whether a collection in memory has the records. -/
def contains (s : State) (ns : Namespace) (ids : List RecordId) : Reply :=
  match s.site.store with
  | .memory m => .flags (ids.map (m.contains ns))
  | .keyed _ => .flags (ids.map fun _ => false)

/-- What a store in memory has counted. -/
def gauges (s : State) : Reply :=
  match s.site.store with
  | .memory m => .gauges m.statusCalls m.deleteCalls m.peakDeletes
  | .keyed _ => .gauges 0 0 0

/-- How many write tickets are out. -/
def writeTicketsOut (s : State) : Nat :=
  match s.site.store with
  | .memory _ => 0
  | .keyed k => k.writeTickets.out

/-- The deletes of batches. -/
def deletes (ns : Namespace) (session : Session) (batches : List (List RecordId)) :
    List (Request Nat) :=
  batches.map fun ids => .delete ns ids session.writeConcern

/-- Whether a call is still under way. -/
def isPending {α : Type} (c : Numbered α) : Bool :=
  match c.outcome with
  | .waiting _ => true
  | .answered _ => false

/-- Opens a query and gives all its rows. A stream has no more rows than `fuel`. -/
def rows (fuel : Nat) (s : State) (ns : Namespace) (query : Query) : Reply × State :=
  match s.site.call (.rows ns query) with
  | (.error e, site) => (.failed e, { s with site })
  | (.ok source, site) =>
    let (rows, site) := source.drain fuel site
    (.deliveries rows, { s with site })

/-- Stages deletes in the transaction of a name. -/
def stage (s : State) (name : String) (ns : Namespace) (ids : List RecordId) : Reply × State :=
  match find? s.transactions name with
  | none => (.noTransaction, s)
  | some txn =>
    match s.site.call (.stage txn ns ids) with
    | (.error e, site) => (.failed e, { s with site })
    | (.ok (n, txn), site) => (.number n, { s with site }.keepTransaction name txn)

/-- Commits the transaction of a name, which is gone afterwards whatever comes of it. -/
def commit (s : State) (name : String) : Reply × State :=
  match find? s.transactions name with
  | none => (.noTransaction, s)
  | some txn =>
    let (answer, site) := s.site.call (.commit txn)
    (ofUnit answer, { s with site }.dropTransaction name)

/-- Aborts the transaction of a name, which is gone afterwards whatever comes of it. -/
def abort (s : State) (name : String) : Reply × State :=
  match find? s.transactions name with
  | none => (.noTransaction, s)
  | some txn =>
    let (answer, site) := s.site.call (.abort txn)
    (.aborted answer site.journal.toList, { s with site }.dropTransaction name)

/-- Plays a pool to its end. -/
def pool (fuel : Nat) (s : State) (settings : PoolSettings) (source : BucketSource) :
    Reply × State :=
  let (p, site) := (Pool.start settings source s.site).play Pool.promptly fuel s.site
  if p.isOver then
    (.pooled settings.width p.verdict p.results.reverse site.journal.toList, { s with site })
  else (.unfinished, { s with site })

/-- Does one step on an empty journal; `fuel` bounds the moves of a pool and the rows of a
stream. -/
def perform (fuel : Nat) (before : State) (step : Step) : Reply × State :=
  let s := { before with site := { before.site with journal := #[] } }
  match step with
  | .insert ns docs => s.insert ns docs
  | .size ns => (s.size ns, s)
  | .contains ns ids => (s.contains ns ids, s)
  | .setStatus mode => (.done, s.mapMemory fun m => { m with status := mode })
  | .script sequence => (.done, s.mapMemory fun m => { m with script := m.script ++ sequence })
  | .latency ms => (.done, s.mapMemory fun m => { m with latency := ms })
  | .failNext count => (.done, s.mapMemory fun m => { m with failures := count })
  | .gauges => (s.gauges, s)
  | .disturb kind items =>
    (.done, { s with site := { s.site with gate := s.site.gate ++ items.map (kind, ·) } })
  | .reopen => (.done, { s with transactions := [], sources := [] })
  | .status =>
    match s.site.call .status with
    | (.error e, site) => (.failed e, { s with site })
    | (.ok c, site) => (.counters c, { s with site })
  | .rows ns query => s.rows fuel ns query
  | .count ns filter collation =>
    let (answer, site) := s.site.call (.count ns filter collation)
    (ofCount answer, { s with site })
  | .delete ns ids session =>
    let (answer, site) := s.site.call (.delete ns ids session.writeConcern)
    (ofCount answer, { s with site })
  | .deleteTogether ns batches session =>
    let (results, site) := (Together.start (deletes ns session batches)).finish s.site
    (.answers results, { s with site })
  | .crowdDeletes ns batches session =>
    let (calls, site) := (Together.start (deletes ns session batches)).crowd s.site
    let out := { s with site }.writeTicketsOut
    let (results, site) := calls.finish site
    (.crowded (calls.tasks.map isPending) out results, { s with site })
  | .begin name session =>
    match s.site.call (.begin session.writeConcern) with
    | (.error e, site) => (.failed e, { s with site })
    | (.ok txn, site) => (.done, { s with site }.keepTransaction name txn)
  | .stage name ns ids => s.stage name ns ids
  | .commit name => s.commit name
  | .abort name => s.abort name
  | .forget name => (.flag (find? s.transactions name).isSome, s.dropTransaction name)
  | .openSource name ns query =>
    match BucketSource.openQuery ns query s.site with
    | (.error e, site) => (.notOpened e, { s with site })
    | (.ok source, site) =>
      (.opened site.journal.toList, { s with site }.keepSource name source)
  | .nextBucket name =>
    match find? s.sources name with
    | none => (.noSource, s)
    | some source =>
      let (answer, source, site) := source.next s.site
      (.bucket answer source.emitted, { s with site }.keepSource name source)
  | .sample thresholds =>
    match Snapshot.take thresholds s.site with
    | (.error e, site) => (.notSampled e, { s with site })
    | (.ok snapshot, site) => (.snapshot snapshot site.journal.toList, { s with site })
  | .execute task =>
    match Execution.run task s.site with
    | (some result, site) => (.executed task.ns result site.journal.toList, { s with site })
    | (none, site) => (.unfinished, { s with site })
  | .verify ns filter collation simulate =>
    match Verification.take ns filter collation simulate s.site with
    | (.error e, site) => (.notVerified ns e, { s with site })
    | (.ok v, site) => (.verified v site.journal.toList, { s with site })
  | .poolOnRows settings rows bucketSize =>
    s.pool fuel settings (.ofRows (.known (.ofList rows)) bucketSize)
  | .poolOnQuery settings query =>
    match BucketSource.openQuery settings.ns query s.site with
    | (.error e, site) => (.notOpened e, { s with site })
    | (.ok source, site) => { s with site }.pool fuel settings source
  | .run plan =>
    match plan.run fuel s.site with
    | (some answer, site) => (.ran answer site.journal.toList, { s with site })
    | (none, site) => (.unfinished, { s with site })

/-- Does steps one after another. -/
def performAll (fuel : Nat) (s : State) : List Step → List Reply
  | [] => []
  | step :: rest =>
    let (reply, s) := s.perform fuel step
    reply :: s.performAll fuel rest

end State

end Scenario

end PacedPurge
