import PacedPurge.Document.Order
import PacedPurge.RecordId

/-!
# Rows

The records that a filter selects, in the order in which they are to go, cut into buckets of one
size. A row names its record, the value by which it was sorted, and its place: the number of its
bucket, its number within the bucket, and how many rows the bucket has. The last bucket may be
smaller than the others.
-/

namespace PacedPurge

/-- One selected record and its place. -/
structure Row where
  id : RecordId
  sortValue : Json
  /-- The number of the bucket, from 1. -/
  bucket : Nat
  /-- The number of the row within the bucket, from 1. -/
  running : Nat
  /-- How many rows the bucket has. -/
  total : Nat
  deriving Inhabited

/-- A selected record: the value by which it is sorted, and its id. -/
abbrev Candidate := Json × RecordId

namespace Row

/-- The order in which candidates go: by sort value, then by id. -/
def candidateOrder (collation : Collation) (a b : Candidate) : Ordering :=
  (Json.order collation a.1 b.1).then (compare a.2 b.2)

/-- The candidates in the order in which they go. -/
def sorted (collation : Collation) (candidates : List Candidate) : List Candidate :=
  candidates.mergeSort fun a b => candidateOrder collation a b != .gt

/-- The row of the candidate at an index, of `count` candidates in buckets of `size`. Its bucket is
the number of sizes that it takes to reach it, rounded up. -/
def place (size count index : Nat) (c : Candidate) : Row :=
  let ordinal := index + 1
  let bucket := (ordinal + size - 1) / size
  let start := (bucket - 1) * size
  { id := c.2
    sortValue := c.1
    bucket
    running := ordinal - start
    total := min size (count - start) }

/-- The place of a row by quotient and remainder. -/
theorem place_eq {size : Nat} (positive : 0 < size) (count index : Nat) (c : Candidate) :
    place size count index c =
      ⟨c.2, c.1, index / size + 1, index % size + 1, min size (count - index / size * size)⟩ := by
  have bucket : (index + 1 + size - 1) / size = index / size + 1 := by
    rw [Nat.add_right_comm, Nat.add_sub_cancel, Nat.add_div_right index positive]
  have parted : index / size * size + index % size = index := Nat.div_add_mod' index size
  have running : index + 1 - index / size * size = index % size + 1 := by omega
  simp only [place, bucket, Nat.add_sub_cancel, running]

/-- The rows of candidates that are in order. -/
def placeAll (size : Nat) (candidates : List Candidate) : List Row :=
  candidates.mapIdx fun index c => place size candidates.length index c

/-- The rows of the candidates, in buckets of `size`; a size of 0 counts as 1. -/
def window (collation : Collation) (size : Nat) (candidates : List Candidate) : List Row :=
  placeAll (max 1 size) (sorted collation candidates)

end Row

end PacedPurge
