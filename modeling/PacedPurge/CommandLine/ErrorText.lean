/-!
# The text of an error

How an error and its causes are shown to whoever called the command: the outermost text on the
first line, and below it what caused it, indented and, if there are several causes, numbered.
-/

namespace PacedPurge.CommandLine

/-- The lines of a text. -/
def linesOf : List Char → List (List Char)
  | [] => [[]]
  | c :: rest =>
    match linesOf rest with
    | [] => [[c]]
    | line :: lines => if c = '\n' then [] :: line :: lines else (c :: line) :: lines

/-- A text whose first line stands behind `first` and every other line behind `other`. -/
def hang (first other text : String) : String :=
  first ++ ("\n" ++ other).intercalate ((linesOf text.toList).map String.ofList)

/-- A number moved to the right in a column of five. -/
def inColumn (n : Nat) : String :=
  let digits := (Nat.repr n).toList
  String.ofList (List.replicate (5 - digits.length) ' ' ++ digits)

/-- The causes of an error, each on lines of its own. -/
def causeTexts : List String → List String
  | [cause] => [hang "    " "    " cause]
  | causes => causes.mapIdx fun index cause => hang (inColumn index ++ ": ") "       " cause

/-- The text of an error: its wording, outermost text first. -/
def errorText : List String → String
  | [] => "Error: \n"
  | [outermost] => "Error: " ++ outermost ++ "\n"
  | outermost :: causes =>
    "Error: " ++ outermost ++ "\n\nCaused by:\n" ++ "\n".intercalate (causeTexts causes) ++ "\n"

end PacedPurge.CommandLine
