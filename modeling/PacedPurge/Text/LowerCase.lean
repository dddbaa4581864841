import PacedPurge.Text.CaseTable

/-!
# Lower case

The full lower-case mapping of a text. Every character maps on its own, to one character or (for
the dotted capital `İ`) to two, except the capital sigma: at the end of a word it becomes `ς` and
elsewhere `σ`. A sigma ends a word when, looking through the characters that do not count, a cased
letter stands before it and none stands after it.
-/

namespace PacedPurge.Text

/-- The lower-case counterpart of one character, apart from its neighbours. -/
def lowerChar (c : Char) : List Char :=
  if c.toNat < 0x80 then [c.toLower]
  else if c.toNat = 0x130 then ['i', Char.ofNat 0x307]
  else
    match caseRuns.find? (·.covers c.toNat) with
    | some r => [Char.ofNat ((c.toNat : Int) + r.distance).toNat]
    | none => [c]

/-- Whether the first character that counts has case. -/
def nextIsCased (cs : List Char) : Bool :=
  match cs.dropWhile caseIgnorableRanges.holds with
  | [] => false
  | c :: _ => casedRanges.holds c

/-- Lower-cases what is left of a text; `before` is what came before it, nearest first. -/
def lowerFrom : List Char → List Char → List Char
  | _, [] => []
  | before, c :: rest =>
    let here :=
      if c = 'Σ' then
        if nextIsCased before && !nextIsCased rest then ['ς'] else ['σ']
      else lowerChar c
    here ++ lowerFrom (c :: before) rest

/-- The text in lower case. -/
def lowerCase (s : String) : String := String.ofList (lowerFrom [] s.toList)

end PacedPurge.Text
