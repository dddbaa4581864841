import PacedPurge.Document.Collation
import PacedPurge.Duration
import PacedPurge.Load.Thresholds
import PacedPurge.Namespace
import PacedPurge.Number.Decimal
import PacedPurge.Store.Session

/-!
# Plans

Everything that a purge has to be told, and what a plan must satisfy before it is carried out. A
plan is safe unless it says otherwise: its deletes are simulated.
-/

namespace PacedPurge

/-- What a purge is told. -/
structure Plan where
  database : String
  collection : String
  filter : Filter := .matchAll
  hint : Option String := none
  collation : Option String := none
  /-- Deletes are simulated. -/
  safeguard : Bool := true
  bucketSize : Nat := 100
  /-- How many buckets may be under way at a time; one for each core if not given. -/
  concurrency : Option Nat := none
  /-- How often a bucket is tried again after a transient error. -/
  retries : UInt32 := 0
  /-- The least time between two reports of progress. -/
  progressInterval : Option Duration := none
  thresholds : Thresholds := .standard
  deriving Inhabited

/-- What is wrong with a plan. -/
inductive PlanFault where
  | noDatabase
  | noCollection
  | noBucketSize
  | noConcurrency
  | collation (error : StoreError)
  /-- Medium would begin above high. -/
  | crossedMarks (resource : String) (marks : Marks)

namespace PlanFault

/-- The wording of a fault, outermost text first. -/
def chain : PlanFault → List String
  | .noDatabase => ["database name is required"]
  | .noCollection => ["collection name is required"]
  | .noBucketSize => ["bucket size must be at least 1"]
  | .noConcurrency => ["concurrency must be at least 1"]
  | .collation error => ["invalid collation", error.message]
  | .crossedMarks resource marks =>
    [resource ++ " target " ++ Decimal.plain.number marks.target ++ " exceeds trigger "
      ++ Decimal.plain.number marks.trigger]

/-- The store's error behind the fault. -/
def storeError? : PlanFault → Option StoreError
  | .collation error => some error
  | _ => none

end PlanFault

namespace Plan

/-- The least width that a plan has when it gives none. -/
def leastWidth : Nat := 4

/-- How many buckets may be under way at a time on a machine with so many cores. -/
def width (p : Plan) (cores : Nat := 1) : Nat :=
  match p.concurrency with
  | some n => max 1 n
  | none => max cores leastWidth

/-- The collection to purge. -/
def target (p : Plan) : Namespace := ⟨p.database, p.collection⟩

/-- The session in which the plan is carried out. -/
def session (p : Plan) : Session := .purging p.safeguard

/-- The rows that the plan asks for. -/
def query (p : Plan) : Query := ⟨p.filter, p.bucketSize, p.hint, p.collation⟩

/-- The marks that a plan is checked for. -/
def checkedMarks (t : Thresholds) : List (String × Marks) :=
  [("cache", t.cache), ("dirty", t.dirty), ("updates", t.updates), ("tickets", t.tickets),
   ("checkpoint", t.checkpoint)]

/-- Whether a name is empty but for blanks. -/
def isBlankName (name : String) : Bool := (Text.trim name).isEmpty

/-- The first fault of the plan, if it has one. -/
def fault? (p : Plan) : Option PlanFault :=
  if isBlankName p.database then some .noDatabase
  else if isBlankName p.collection then some .noCollection
  else if p.bucketSize < 1 then some .noBucketSize
  else if p.concurrency = some 0 then some .noConcurrency
  else
    match Collation.parse p.collation with
    | .error e => some (.collation e)
    | .ok _ =>
      match (checkedMarks p.thresholds).find? fun m => m.2.trigger < m.2.target with
      | some m => some (.crossedMarks m.1 m.2)
      | none => none

end Plan

end PacedPurge
