import PacedPurge.Json.Value
import PacedPurge.Number.Decimal

/-!
# Writing JSON

The compact text of a value, without blanks, and the indented one. Members stand in the order of
the object. Of the characters of a string only the quote, the backslash and the controls below the
space are escaped.
-/

namespace PacedPurge

/-- Numbers in JSON text: ties go to the even digit, and digits stand in place from `0.00001` to
below `10 ^ 16`, always with a fraction. -/
def Decimal.jsonLayout : Decimal.Layout := ⟨.toEven, some (-5, 16), true⟩

/-- The text of a number. -/
def Number.text : Number → String
  | .integer n => toString n
  | .real x => Decimal.jsonLayout.number x

namespace Json

/-- A hexadecimal digit in lower case. -/
def hexChar (n : Nat) : Char := Nat.digitChar n

/-- One character of a string. -/
def stringChar (c : Char) : List Char :=
  if c = '"' then ['\\', '"']
  else if c = '\\' then ['\\', '\\']
  else if c = '\x08' then ['\\', 'b']
  else if c = '\x0c' then ['\\', 'f']
  else if c = '\n' then ['\\', 'n']
  else if c = '\r' then ['\\', 'r']
  else if c = '\t' then ['\\', 't']
  else if c.toNat < 0x20 then ['\\', 'u', '0', '0', hexChar (c.toNat / 16), hexChar (c.toNat % 16)]
  else [c]

/-- A string between its quotes. -/
def stringChars (s : String) : List Char := '"' :: s.toList.flatMap stringChar ++ ['"']

mutual

/-- The characters of the compact text. -/
def chars : Json → List Char
  | .null => ['n', 'u', 'l', 'l']
  | .bool true => ['t', 'r', 'u', 'e']
  | .bool false => ['f', 'a', 'l', 's', 'e']
  | .number n => n.text.toList
  | .string s => stringChars s
  | .array [] => ['[', ']']
  | .array (e :: es) => '[' :: chars e ++ elementChars es
  | .object [] => ['\x7b', '\x7d']
  | .object ((k, v) :: ms) => '\x7b' :: stringChars k ++ ':' :: chars v ++ memberChars ms

/-- The elements behind the first one, and the closing bracket. -/
def elementChars : List Json → List Char
  | [] => [']']
  | e :: es => ',' :: chars e ++ elementChars es

/-- The members behind the first one, and the closing brace. -/
def memberChars : List (String × Json) → List Char
  | [] => ['\x7d']
  | (k, v) :: ms => ',' :: stringChars k ++ ':' :: chars v ++ memberChars ms

end

/-- The compact text. -/
def compact (j : Json) : String := String.ofList (chars j)

/-- The start of a new line, `level` levels in. -/
def newline (level : Nat) : List Char := '\n' :: List.replicate (2 * level) ' '

mutual

/-- The characters of the indented text, two blanks a level, `level` levels in. -/
def indentedChars (level : Nat) : Json → List Char
  | .array (e :: es) =>
    '[' :: newline (level + 1) ++ indentedChars (level + 1) e ++ indentedElements level es
  | .object ((k, v) :: ms) =>
    '\x7b' :: newline (level + 1) ++ stringChars k ++ ':' :: ' ' :: indentedChars (level + 1) v
      ++ indentedMembers level ms
  | other => chars other

/-- The elements behind the first one, each on its line, and the closing bracket. -/
def indentedElements (level : Nat) : List Json → List Char
  | [] => newline level ++ [']']
  | e :: es =>
    ',' :: newline (level + 1) ++ indentedChars (level + 1) e ++ indentedElements level es

/-- The members behind the first one, each on its line, and the closing brace. -/
def indentedMembers (level : Nat) : List (String × Json) → List Char
  | [] => newline level ++ ['\x7d']
  | (k, v) :: ms =>
    ',' :: newline (level + 1) ++ stringChars k ++ ':' :: ' ' :: indentedChars (level + 1) v
      ++ indentedMembers level ms

end

/-- The indented text. -/
def indented (j : Json) : String := String.ofList (indentedChars 0 j)

end Json

end PacedPurge
