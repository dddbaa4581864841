/-!
# Unsigned decimals

Reading an unsigned number of a bounded width: an optional plus and then ASCII digits, nothing
else. The first character that decides settles which of two faults is reported.
-/

namespace PacedPurge

/-- Why a text is no number. -/
inductive UnsignedFault where
  | empty
  | invalidDigit
  | tooLarge
  deriving DecidableEq, Repr

/-- The wording of a fault. -/
def UnsignedFault.message : UnsignedFault → String
  | .empty => "cannot parse integer from empty string"
  | .invalidDigit => "invalid digit found in string"
  | .tooLarge => "number too large to fit in target type"

namespace Unsigned

/-- Goes on with a number below `bound`. -/
def readDigits (bound n : Nat) : List Char → Except UnsignedFault Nat
  | [] => .ok n
  | c :: rest =>
    if '0' ≤ c && c ≤ '9' then
      let n := 10 * n + (c.toNat - '0'.toNat)
      if n < bound then readDigits bound n rest else .error .tooLarge
    else .error .invalidDigit

/-- The number below `bound` that a text writes. -/
def parse (bound : Nat) (text : String) : Except UnsignedFault Nat :=
  match text.toList with
  | [] => .error .empty
  | ['+'] => .error .invalidDigit
  | '+' :: rest => readDigits bound 0 rest
  | cs => readDigits bound 0 cs

end Unsigned

end PacedPurge
