import PacedPurge.Document.Path
import PacedPurge.Rehearsal.Generator

/-!
# Records for a rehearsal

Made-up records on which a purge can be rehearsed: numbered, of random size, and a share of them
marked as expired. The same seed makes the same records.
-/

namespace PacedPurge

/-- How many records to make, and of which kind. -/
structure Rehearsal where
  count : Nat := 10000
  /-- How many of a hundred records are to be expired, about. -/
  expiredPercent : Nat := 50
  seed : UInt64 := 1
  deriving DecidableEq, Repr, Inhabited

namespace Rehearsal

/-- A number with zeros before it, of eight digits at least. -/
def eightDigits (n : Nat) : String :=
  let digits := (Nat.repr n).toList
  String.ofList (List.replicate (8 - digits.length) '0' ++ digits)

/-- The id of the record of a number. -/
def idOf (n : Nat) : RecordId := ⟨"doc-" ++ eightDigits n⟩

/-- The status of a record. -/
def status (expired : Bool) : String := if expired then "expired" else "active"

/-- The record of a number, drawn from a generator: first whether it is expired, then its size. -/
def record (expiredPercent n : Nat) (g : Generator) : (RecordId × Document) × Generator :=
  let (percent, g) := g.percent
  let (size, g) := g.inRange 1 4096
  ((idOf n,
    [("seq", .ofNat n), ("status", .string (status (percent < expiredPercent))),
     ("size", .ofNat size)]), g)

/-- The records from a number on. -/
def recordsFrom (expiredPercent : Nat) : Nat → Nat → Generator → List (RecordId × Document)
  | 0, _, _ => []
  | count + 1, n, g =>
    let (made, g) := record expiredPercent n g
    made :: recordsFrom expiredPercent count (n + 1) g

/-- The records of a rehearsal. -/
def records (r : Rehearsal) : List (RecordId × Document) :=
  recordsFrom (min 100 r.expiredPercent) r.count 0 (.ofSeed r.seed)

end Rehearsal

end PacedPurge
