import PacedPurge.Namespace
import PacedPurge.RecordId
import PacedPurge.Store.Session

/-!
# Transactions

A transaction notes which records are to be removed, collection by collection, and removes nothing
before it is committed. An id is noted once, so that staging it again counts for nothing.
-/

namespace PacedPurge

/-- Deletes that have been staged. -/
structure Transaction where
  concern : WriteConcern
  /-- The staged ids of each collection that a statement has addressed. -/
  staged : List (Namespace × List RecordId)
  deriving DecidableEq, Repr, Inhabited

namespace Transaction

/-- Nothing staged. -/
def start (concern : WriteConcern) : Transaction := ⟨concern, []⟩

/-- The staged ids of a collection. -/
def stagedIn (t : Transaction) (ns : Namespace) : List RecordId :=
  ((t.staged.find? (·.1 == ns)).map (·.2)).getD []

/-- The ids that are new to a list of distinct ones, each once. -/
def fresh (known : List RecordId) : List RecordId → List RecordId
  | [] => []
  | id :: rest =>
    if known.contains id then fresh known rest else id :: fresh (id :: known) rest

/-- Puts the ids of a collection in place of those it had. -/
def setStaged (staged : List (Namespace × List RecordId)) (ns : Namespace)
    (ids : List RecordId) : List (Namespace × List RecordId) :=
  match staged with
  | [] => [(ns, ids)]
  | entry :: rest =>
    if entry.1 == ns then (ns, ids) :: rest else entry :: setStaged rest ns ids

/-- Stages ids of a collection: how many were new, and the transaction with them. -/
def stage (t : Transaction) (ns : Namespace) (ids : List RecordId) : Nat × Transaction :=
  let new := fresh (t.stagedIn ns) ids
  (new.length, { t with staged := setStaged t.staged ns (t.stagedIn ns ++ new) })

end Transaction

end PacedPurge
