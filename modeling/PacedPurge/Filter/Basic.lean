import PacedPurge.Json.Parser
import PacedPurge.Json.Printer

/-!
# Filters

A filter is an object whose members are conditions on fields, in written order. Its first field
that is no operator is the sort key of the rows it selects.
-/

namespace PacedPurge

/-- Conditions on the fields of a document, in written order. -/
structure Filter where
  fields : Members
  deriving Inhabited

/-- Why a text is no filter. -/
inductive FilterTextError where
  | notJson
  | notObject (value : Json)

namespace FilterTextError

/-- The wording of an error. -/
def message : FilterTextError → String
  | .notJson => "filter is not valid JSON"
  | .notObject value => "filter must be a JSON object, got " ++ value.compact

end FilterTextError

/-- Whether a name is that of an operator. -/
def isOperatorName (name : String) : Bool :=
  match name.toList with
  | '$' :: _ => true
  | _ => false

namespace Filter

/-- The filter without conditions. -/
def matchAll : Filter := ⟨[]⟩

/-- Whether the filter has no conditions. -/
def isMatchAll (f : Filter) : Bool := f.fields.isEmpty

/-- The filter that a text writes. -/
def parse (text : String) : Except FilterTextError Filter :=
  match Json.parse text with
  | none => .error .notJson
  | some (.object fields) => .ok ⟨fields⟩
  | some other => .error (.notObject other)

/-- The field by which the selected rows are sorted. -/
def sortKey (f : Filter) : Option String := f.fields.keys.find? (!isOperatorName ·)

/-- The compact text of the filter. -/
def text (f : Filter) : String := (Json.object f.fields).compact

@[simp] theorem sortKey_matchAll : matchAll.sortKey = none := rfl

end Filter

end PacedPurge
