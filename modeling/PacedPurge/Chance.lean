/-!
# Chance

Random words and numbers drawn from them. A source is a list of words of 64 bits; past its end it
gives zeros. A number below `n` is drawn without bias: the word times `n` is split into an upper
half, which is the number, and a lower half, and a word whose lower half lies beyond the largest
zone of whole multiples is thrown away.
-/

namespace PacedPurge

/-- A source of random words. -/
structure Chance where
  /-- The words still to come. -/
  words : List UInt64
  /-- How many words have been taken. -/
  used : Nat := 0
  deriving Inhabited

namespace Chance

/-- How far a number can be moved to the left in a word of `width` bits without loss. -/
def leadingZeros (width n : Nat) : Nat := width - (n.log2 + 1)

/-- The largest lower half that is accepted when drawing below `n`: whole multiples of `n`,
as many as fit when `n` is moved up to the top of its word. -/
def zone (width n : Nat) : Nat := (n <<< leadingZeros width n) % (1 <<< width) - 1

/-- Draws a number below `n` from the words, of which `used` were taken before. -/
def belowFrom (n used : Nat) : List UInt64 → Nat × Chance
  | [] => (0, ⟨[], used + 1⟩)
  | w :: rest =>
    let product := w.toNat * n
    if product % UInt64.size ≤ zone 64 n then (product / UInt64.size, ⟨rest, used + 1⟩)
    else belowFrom n (used + 1) rest

/-- Draws a number below `n`. -/
def below (n : Nat) (c : Chance) : Nat × Chance := belowFrom n c.used c.words

/-- Draws a number from `first` up to below `bound`. -/
def inRange (first bound : Nat) (c : Chance) : Nat × Chance :=
  let (n, rest) := c.below (bound - first)
  (first + n, rest)

end Chance

end PacedPurge
