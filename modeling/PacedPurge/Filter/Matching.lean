import PacedPurge.Document.Order
import PacedPurge.Document.Path
import PacedPurge.Filter.Basic

/-!
# Matching

Whether a document satisfies a filter. Conditions are examined in written order up to the first
one that fails. A condition is a plain value, which the field must compare equal to, or a non-empty
object of operators, each of which must hold. A condition that makes no sense is an error, but only
when the examination reaches it.
-/

namespace PacedPurge

/-- What can be asked of the value of a field. -/
inductive Operator where
  | eq
  | ne
  | gt
  | gte
  | lt
  | lte
  | isIn
  | notIn
  | present
  deriving DecidableEq, Repr

namespace Operator

/-- The name of an operator in a filter. -/
def name : Operator → String
  | .eq => "$eq"
  | .ne => "$ne"
  | .gt => "$gt"
  | .gte => "$gte"
  | .lt => "$lt"
  | .lte => "$lte"
  | .isIn => "$in"
  | .notIn => "$nin"
  | .present => "$exists"

/-- All operators. -/
def all : List Operator := [.eq, .ne, .gt, .gte, .lt, .lte, .isIn, .notIn, .present]

/-- The operator of a name. -/
def ofName? (name : String) : Option Operator := all.find? (·.name == name)

end Operator

/-- What is wrong with a condition. -/
inductive FilterFault where
  /-- An operator stands where a field belongs. -/
  | topLevelOperator (field : String)
  /-- The operand is a list of candidates but no array is given. -/
  | needsArray (operator field : String)
  /-- The operand says yes or no but no boolean is given. -/
  | needsBoolean (field : String)
  | unknownOperator (operator field : String)
  deriving DecidableEq, Repr

/-- The wording of a fault. -/
def FilterFault.message : FilterFault → String
  | .topLevelOperator field => s!"top-level operator {field} is not supported"
  | .needsArray operator field => s!"{operator} on {field} needs an array"
  | .needsBoolean field => s!"$exists on {field} needs a boolean"
  | .unknownOperator operator field => s!"unknown operator {operator} on {field}"

/-- The operators of a condition, if it is a non-empty object of nothing but operators. -/
def operators? : Json → Option Members
  | .object members =>
    if !members.isEmpty && (Members.keys members).all isOperatorName then some members else none
  | _ => none

/-- The record that a filter is held against, and how strings compare. -/
structure Subject where
  id : RecordId
  doc : Document
  collation : Collation

namespace Subject

/-- The value of a field. -/
def value (s : Subject) (field : String) : Json := s.doc.lookup s.id field

/-- Whether the field stands in one of the given orders to a value of its own kind. -/
def inOrder (s : Subject) (field : String) (operand : Json) (wanted : Ordering → Bool) : Bool :=
  (s.value field).rank == operand.rank && wanted (Json.order s.collation (s.value field) operand)

/-- Whether an operator holds of a field. -/
def satisfies (s : Subject) (field : String) (op : Operator) (operand : Json) :
    Except FilterFault Bool :=
  match op with
  | .eq => .ok (Json.alike s.collation (s.value field) operand)
  | .ne => .ok (!Json.alike s.collation (s.value field) operand)
  | .gt => .ok (s.inOrder field operand (· == .gt))
  | .gte => .ok (s.inOrder field operand (· != .lt))
  | .lt => .ok (s.inOrder field operand (· == .lt))
  | .lte => .ok (s.inOrder field operand (· != .gt))
  | .isIn =>
    match operand with
    | .array candidates => .ok (candidates.any (Json.alike s.collation (s.value field)))
    | _ => .error (.needsArray op.name field)
  | .notIn =>
    match operand with
    | .array candidates => .ok (!candidates.any (Json.alike s.collation (s.value field)))
    | _ => .error (.needsArray op.name field)
  | .present =>
    match operand with
    | .bool wanted => .ok (s.doc.hasField field == wanted)
    | _ => .error (.needsBoolean field)

/-- Whether all operators hold of a field, examined up to the first that does not. -/
def satisfiesAll (s : Subject) (field : String) : Members → Except FilterFault Bool
  | [] => .ok true
  | (name, operand) :: rest =>
    match Operator.ofName? name with
    | none => .error (.unknownOperator name field)
    | some op =>
      match s.satisfies field op operand with
      | .error fault => .error fault
      | .ok false => .ok false
      | .ok true => s.satisfiesAll field rest

/-- Whether a field meets its condition. -/
def meets (s : Subject) (field : String) (condition : Json) : Except FilterFault Bool :=
  if isOperatorName field then .error (.topLevelOperator field)
  else
    match operators? condition with
    | some operators => s.satisfiesAll field operators
    | none => .ok (Json.alike s.collation (s.value field) condition)

/-- Whether all fields meet their conditions, examined up to the first that does not. -/
def meetsAll (s : Subject) : Members → Except FilterFault Bool
  | [] => .ok true
  | (field, condition) :: rest =>
    match s.meets field condition with
    | .error fault => .error fault
    | .ok false => .ok false
    | .ok true => s.meetsAll rest

end Subject

/-- Whether a record satisfies the filter. -/
def Filter.accepts (f : Filter) (collation : Collation) (id : RecordId) (doc : Document) :
    Except FilterFault Bool :=
  (Subject.mk id doc collation).meetsAll f.fields

end PacedPurge
