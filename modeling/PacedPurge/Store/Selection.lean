import PacedPurge.Bucket.Row
import PacedPurge.Filter.Matching
import PacedPurge.StoreError

/-!
# Selecting records

The records of a collection that a filter selects. Records are examined in the order of their ids,
and the first one on which the filter makes no sense ends the selection with an error.
-/

namespace PacedPurge

/-- A filter with the way in which strings compare. -/
structure Selection where
  filter : Filter
  collation : Collation
  deriving Inhabited

namespace Selection

/-- Whether the record is selected. -/
def selects (s : Selection) (id : RecordId) (doc : Document) : Except StoreError Bool :=
  match s.filter.accepts s.collation id doc with
  | .ok b => .ok b
  | .error fault => .error (.invalidFilter fault.message)

/-- The record as a candidate: the value of the sort key, null when the filter has none. -/
def candidate (s : Selection) (id : RecordId) (doc : Document) : Candidate :=
  match s.filter.sortKey with
  | some key => (doc.lookup id key, id)
  | none => (.null, id)

/-- The selected records, in the order in which they were given. -/
def candidates (s : Selection) : List (RecordId × Document) → Except StoreError (List Candidate)
  | [] => .ok []
  | (id, doc) :: rest =>
    match s.selects id doc with
    | .error e => .error e
    | .ok chosen =>
      match s.candidates rest with
      | .error e => .error e
      | .ok more => .ok (if chosen then s.candidate id doc :: more else more)

end Selection

end PacedPurge
