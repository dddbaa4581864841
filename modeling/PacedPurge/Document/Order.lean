import PacedPurge.Document.Collation
import PacedPurge.Json.Value

/-!
# The order of values

One order for values of every kind. Kinds come first: null, numbers, strings, objects, arrays,
booleans. Numbers compare as binary64 numbers, strings by the collation, arrays element by element
and objects member by member in written order, key before value; where one runs out, the shorter
comes first.
-/

namespace PacedPurge

namespace Json

/-- The place of a value's kind among the kinds. -/
def rank : Json → Nat
  | .null => 0
  | .number _ => 1
  | .string _ => 2
  | .object _ => 3
  | .array _ => 4
  | .bool _ => 5

mutual

/-- The order of two values under a collation. -/
def order (collation : Collation) : Json → Json → Ordering
  | .number x, .number y => x.toReal.compare y.toReal
  | .string x, .string y => compare (collation.fold x) (collation.fold y)
  | .object xs, .object ys => orderMembers collation xs ys
  | .array xs, .array ys => orderElements collation xs ys
  | .bool x, .bool y => compare x y
  | x, y => compare x.rank y.rank

/-- The order of two arrays: the first difference decides, then the length. -/
def orderElements (collation : Collation) : List Json → List Json → Ordering
  | [], [] => .eq
  | [], _ :: _ => .lt
  | _ :: _, [] => .gt
  | x :: xs, y :: ys => (order collation x y).then (orderElements collation xs ys)

/-- The order of two objects: the first difference of a key or a value decides, then the number
of members. -/
def orderMembers (collation : Collation) : List (String × Json) → List (String × Json) → Ordering
  | [], [] => .eq
  | [], _ :: _ => .lt
  | _ :: _, [] => .gt
  | (j, x) :: xs, (k, y) :: ys =>
    (compare j k).then ((order collation x y).then (orderMembers collation xs ys))

end

/-- Whether two values compare equal. -/
def alike (collation : Collation) (x y : Json) : Bool := order collation x y == .eq

end Json

end PacedPurge
