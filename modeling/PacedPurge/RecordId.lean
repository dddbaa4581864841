import Std.Data.TreeMap

/-!
# Record ids

A record is known by a text that is unique in its collection. Ids are ordered by code points,
which is also the order of their octets.
-/

namespace PacedPurge

/-- The id of a record. -/
structure RecordId where
  text : String
  deriving DecidableEq, Repr, Hashable, Inhabited

namespace RecordId

instance : Ord RecordId := ⟨compareOn text⟩

instance : ToString RecordId := ⟨text⟩

theorem compare_eq (a b : RecordId) : compare a b = compare a.text b.text := rfl

instance : Std.TransOrd RecordId :=
  inferInstanceAs (Std.TransCmp (compareOn text))

instance : Std.LawfulEqOrd RecordId where
  eq_of_compare {a b} h := by
    cases a; cases b
    exact congrArg RecordId.mk (Std.LawfulEqOrd.eq_of_compare h)

end RecordId

end PacedPurge
