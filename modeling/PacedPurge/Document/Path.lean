import PacedPurge.Json.Value
import PacedPurge.RecordId

/-!
# Paths into a document

A path names a place in a document: its segments, parted by points, are the keys to follow through
nested objects. The path `_id` names the id of the record. A place that is not there reads as null
(`Document.lookup`); whether it is there is a question of its own (`Document.hasField`).
-/

namespace PacedPurge

/-- A document: the members of an object. -/
abbrev Document := Members

/-- The path that names the id of a record. -/
def idPath : String := "_id"

/-- The pieces between points. -/
def splitAtPoints : List Char → List (List Char)
  | [] => [[]]
  | c :: rest =>
    match splitAtPoints rest with
    | [] => [[c]]
    | s :: ss => if c = '.' then [] :: s :: ss else (c :: s) :: ss

/-- The segments of a path; there is always at least one. -/
def segments (path : String) : List String := (splitAtPoints path.toList).map String.ofList

/-- The value at the end of a way through nested objects, null where the way breaks off. -/
def Json.walk (value : Json) : List String → Json
  | [] => value
  | s :: rest =>
    match value.get? s with
    | some next => next.walk rest
    | none => .null

/-- Whether a way through nested objects can be followed to its end. -/
def Json.leads (value : Json) : List String → Bool
  | [] => true
  | s :: rest =>
    match value.get? s with
    | some next => next.leads rest
    | none => false

namespace Document

/-- The value at a path, null if nothing is there. -/
def lookup (id : RecordId) (doc : Document) (path : String) : Json :=
  if path = idPath then .string id.text else (Json.object doc).walk (segments path)

/-- Whether something is at a path. -/
def hasField (doc : Document) (path : String) : Bool :=
  path = idPath || (Json.object doc).leads (segments path)

end Document

end PacedPurge
