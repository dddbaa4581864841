import PacedPurge.Bucket.Row

/-!
# Assembling buckets

A bucket is put together from rows that arrive one by one. A row must continue the bucket under
way, or open the next one when none is; a row out of place is an error. The bucket is complete when
its running count reaches its total, so nothing beyond it is ever read.
-/

namespace PacedPurge

/-- Consecutive records that go together. -/
structure Bucket where
  ordinal : Nat
  ids : List RecordId
  /-- How many records the bucket has. -/
  size : Nat
  /-- How many records have gone out, this bucket included. -/
  cumulative : Nat
  firstKey : Json
  lastKey : Json
  size_eq : size = ids.length

instance : Inhabited Bucket := ⟨⟨0, [], 0, 0, .null, .null, rfl⟩⟩

/-- A bucket under way. -/
structure PartBucket where
  number : Nat
  total : Nat
  /-- The records so far, the latest first. -/
  taken : List RecordId
  firstKey : Json

/-- How many records have been taken into the bucket. -/
def PartBucket.count (p : PartBucket) : Nat := p.taken.length

/-- Why rows make no bucket. -/
inductive RowFault where
  /-- The row claims a bucket that is empty or larger than the limit. -/
  | outsideLimit (bucket total limit : Nat)
  /-- The row does not continue the bucket under way. -/
  | outOfSequence (id : RecordId) (bucket running pending count : Nat)
  /-- The row does not open the next bucket. -/
  | wrongOpening (id : RecordId) (bucket running expected : Nat)
  deriving DecidableEq, Repr

/-- The wording of a fault. -/
def RowFault.message : RowFault → String
  | .outsideLimit bucket total limit =>
    s!"bucket {bucket} reports size {total} outside 1..={limit}"
  | .outOfSequence id bucket running pending count =>
    s!"row {id} out of sequence: bucket {bucket} running {running} " ++
      s!"while assembling bucket {pending} at {count}"
  | .wrongOpening id bucket running expected =>
    s!"row {id} opens bucket {bucket} at running count {running}; expected bucket {expected} at 1"

/-- Buckets being assembled from rows. -/
structure Assembly where
  /-- The largest total that a row may claim. -/
  limit : Nat
  pending : Option PartBucket := none
  /-- The number of the latest complete bucket. -/
  last : Nat := 0
  /-- How many records the complete buckets have. -/
  emitted : Nat := 0

namespace Assembly

/-- Nothing assembled yet; a limit of 0 counts as 1. -/
def start (bucketSize : Nat) : Assembly := { limit := max 1 bucketSize }

/-- The bucket that the row belongs to, with the rows before it, if the row is in its place. -/
def bucketFor (a : Assembly) (row : Row) : Except RowFault PartBucket :=
  if row.total < 1 || a.limit < row.total then
    .error (.outsideLimit row.bucket row.total a.limit)
  else
    match a.pending with
    | some p =>
      if row.bucket = p.number && row.running = p.count + 1 && row.total = p.total then .ok p
      else .error (.outOfSequence row.id row.bucket row.running p.number p.count)
    | none =>
      if row.bucket = a.last + 1 && row.running = 1 then
        .ok ⟨row.bucket, row.total, [], row.sortValue⟩
      else .error (.wrongOpening row.id row.bucket row.running (a.last + 1))

/-- Takes in a row: the bucket that it completes, if it completes one. -/
def accept (a : Assembly) (row : Row) : Except RowFault (Option Bucket × Assembly) :=
  match a.bucketFor row with
  | .error fault => .error fault
  | .ok p =>
    let taken := row.id :: p.taken
    if row.running = p.total then
      let emitted := a.emitted + taken.length
      let bucket : Bucket :=
        { ordinal := p.number
          ids := taken.reverse
          size := taken.length
          cumulative := emitted
          firstKey := p.firstKey
          lastKey := row.sortValue
          size_eq := List.length_reverse.symm }
      .ok (some bucket, { a with pending := none, last := p.number, emitted := emitted })
    else .ok (none, { a with pending := some { p with taken := taken } })

end Assembly

end PacedPurge
