import PacedPurge.Number.Binary64

/-!
# JSON values

The values that documents and filters are made of. An object is the list of its members in the
order in which they were written, because that order shows: the first field of a filter is its
sort key, and objects are compared member by member. A number keeps its kind, so `1` and `1.0` are
two values that compare equal.
-/

namespace PacedPurge

/-- A number as it is written: with neither fraction nor exponent, or with one of them. -/
inductive Number where
  | integer (n : Int)
  | real (x : Binary64)
  deriving DecidableEq

/-- The binary64 number nearest to the value. -/
def Number.toReal : Number → Binary64
  | .integer n => Binary64.ofInt n
  | .real x => x

/-- A JSON value, objects in written order. -/
inductive Json where
  | null
  | bool (b : Bool)
  | number (n : Number)
  | string (s : String)
  | array (elements : List Json)
  | object (members : List (String × Json))
  deriving Inhabited

/-- The members of an object, in written order. -/
abbrev Members := List (String × Json)

namespace Members

/-- The value under a key. -/
def get? (members : Members) (key : String) : Option Json :=
  (List.find? (fun m => m.1 == key) members).map (·.2)

/-- Puts a value under a key: a key that is there keeps its place, a new one goes to the end. -/
def put (members : Members) (key : String) (value : Json) : Members :=
  match members with
  | [] => [(key, value)]
  | m :: rest => if m.1 == key then (key, value) :: rest else m :: put rest key value

/-- The keys in written order. -/
def keys (members : Members) : List String := members.map (·.1)

/-- The members as they stand when a later value replaces an earlier one of the same key. -/
def collapse (members : Members) : Members := members.foldl (fun acc m => put acc m.1 m.2) []

@[simp] theorem get?_nil (key : String) : get? [] key = none := rfl

@[simp] theorem put_nil (key : String) (value : Json) : put [] key value = [(key, value)] := rfl

end Members

namespace Json

/-- The integer as a value. -/
def ofInt (n : Int) : Json := .number (.integer n)

/-- The natural number as a value. -/
def ofNat (n : Nat) : Json := .number (.integer n)

/-- The value under a key of an object; no other value has members. -/
def get? : Json → String → Option Json
  | .object members, key => Members.get? members key
  | _, _ => none

end Json

end PacedPurge
