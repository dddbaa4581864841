import PacedPurge.StoreError
import PacedPurge.Text.Blank
import PacedPurge.Text.LowerCase

/-!
# Collations

Two ways to compare strings: as they are, or in lower case.
-/

namespace PacedPurge

/-- How strings are compared. -/
inductive Collation where
  | simple
  | caseInsensitive
  deriving DecidableEq, Repr, Inhabited

namespace Collation

/-- The collation of a name; blanks around the name do not count, and no name means the simple
one. -/
def parse (name : Option String) : Except StoreError Collation :=
  match name.map Text.trim with
  | none => .ok .simple
  | some "" => .ok .simple
  | some "simple" => .ok .simple
  | some "case_insensitive" => .ok .caseInsensitive
  | some "ci" => .ok .caseInsensitive
  | some other => .error (.invalidFilter ("unsupported collation " ++ Text.quoted other))

/-- The text by which a string is compared. -/
def fold : Collation → String → String
  | .simple, s => s
  | .caseInsensitive, s => Text.lowerCase s

end Collation

end PacedPurge
