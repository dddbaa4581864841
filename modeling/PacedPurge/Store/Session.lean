import PacedPurge.Filter.Basic

/-!
# Sessions and queries

How a client wants to be served: which nodes it reads from, how durable its writes must be, and
whether its deletes are to be simulated; and what it asks a store for when it wants buckets.
-/

namespace PacedPurge

/-- Which nodes serve a read. -/
inductive ReadMode where
  | primary
  | primaryPreferred
  | secondary
  | secondaryPreferred
  | nearest
  deriving DecidableEq, Repr, Inhabited

/-- A mode, and the tags of the nodes to prefer, set after set. Each set is sorted by key. -/
structure ReadPreference where
  mode : ReadMode
  tagSets : List (List (String × String))
  deriving DecidableEq, Repr, Inhabited

/-- What a read must have waited for. -/
inductive ReadConcern where
  | localRead
  | available
  | majority
  | snapshot
  deriving DecidableEq, Repr, Inhabited

/-- How many nodes must hold a write before it counts. -/
inductive WriteConcern where
  | majority
  | nodes (count : Nat)
  deriving DecidableEq, Repr, Inhabited

/-- How a client wants to be served. -/
structure Session where
  causalConsistency : Bool
  readPreference : ReadPreference
  readConcern : ReadConcern
  writeConcern : WriteConcern
  /-- Deletes are rolled back. -/
  simulate : Bool
  deriving DecidableEq, Repr, Inhabited

/-- Reads go to nodes set apart for analysis where there are any. -/
def ReadPreference.analytics : ReadPreference :=
  ⟨.secondaryPreferred, [[("nodeType", "ANALYTICS")], []]⟩

/-- The session of a purge. -/
def Session.purging (simulate : Bool) : Session :=
  { causalConsistency := true
    readPreference := .analytics
    readConcern := .majority
    writeConcern := .majority
    simulate := simulate }

/-- The rows that a client asks for. -/
structure Query where
  filter : Filter
  bucketSize : Nat
  hint : Option String
  collation : Option String
  deriving Inhabited

end PacedPurge
