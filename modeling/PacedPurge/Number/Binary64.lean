/-!
# Finite binary64 numbers

The finite floating-point numbers of 64 bits, kept as a sign and the bit pattern below it. The
pattern of a number without its sign grows with the number, so the order of these numbers is the
order of integers (`Binary64.key`), and the two zeros are one number in that order.

Arithmetic is exact on natural numbers and rounds once, to the nearest number and on a tie to the
even pattern (`Binary64.nearest`). A number without its sign is a whole count of the smallest
positive number (`Binary64.units`), so a product or quotient is rounded from one fraction.

Infinities and NaN are outside: no text that a document may hold writes them, and the marks of a
load are taken to be finite.
-/

namespace PacedPurge

/-- How many bit patterns lie between one power of two and the next. -/
def Binary64.octave : Nat := 1 <<< 52

/-- The least bit pattern that is no longer finite. -/
def Binary64.bound : Nat := 2047 * octave

/-- A finite binary64 number: its sign and the bits below the sign. -/
structure Binary64 where
  negative : Bool
  magnitude : Nat
  finite : magnitude < Binary64.bound
  deriving DecidableEq

namespace Binary64

instance : Inhabited Binary64 := ⟨⟨false, 0, by decide⟩⟩

/-- Positive zero. -/
def zero : Binary64 := ⟨false, 0, by decide⟩

/-- Negative zero. -/
def negativeZero : Binary64 := ⟨true, 0, by decide⟩

/-- The place of the number in the order of all of them; both zeros stand at 0. -/
def key (x : Binary64) : Int := if x.negative then -(x.magnitude : Int) else x.magnitude

/-- The order of the numbers by value. -/
def compare (x y : Binary64) : Ordering := Ord.compare x.key y.key

instance : LT Binary64 := ⟨fun x y => x.key < y.key⟩

instance : LE Binary64 := ⟨fun x y => x.key ≤ y.key⟩

instance (x y : Binary64) : Decidable (x < y) := inferInstanceAs (Decidable (x.key < y.key))

instance (x y : Binary64) : Decidable (x ≤ y) := inferInstanceAs (Decidable (x.key ≤ y.key))

/-! ## Significand and scale -/

/-- How many doublings lie between the significand and the smallest positive number. -/
def scaleOf (magnitude : Nat) : Nat := magnitude / octave - 1

/-- The significand of a bit pattern: the stored fraction, with the leading bit that only the
smallest numbers lack. -/
def significandOf (magnitude : Nat) : Nat :=
  if magnitude < octave then magnitude else octave + magnitude % octave

/-- The number without its sign, counted in smallest positive numbers. -/
def units (magnitude : Nat) : Nat := significandOf magnitude <<< scaleOf magnitude

/-! ## Rounding -/

/-- How many smallest positive numbers make one, as a power of two. -/
def unitExponent : Nat := 1074

/-- The bit pattern nearest to the fraction `num / den`, where a tie goes to the even pattern.
The pattern is not bounded: from `bound` on it stands for a number that is too large. -/
def nearest (num den : Nat) : Nat :=
  let scaled := num <<< unitExponent
  let whole := scaled / den
  let scale := if whole < 2 * octave then 0 else whole.log2 - 52
  let step := den <<< scale
  let low := scaled / step
  let excess := scaled % step
  let up := step < 2 * excess || (2 * excess == step && low % 2 == 1)
  scale * octave + (if up then low + 1 else low)

/-- The number with the given sign and bit pattern, if the pattern is finite. -/
def ofMagnitude? (negative : Bool) (magnitude : Nat) : Option Binary64 :=
  if h : magnitude < bound then some ⟨negative, magnitude, h⟩ else none

/-- The positive number with the given bit pattern, or the largest finite one past the end. -/
def ofMagnitude (magnitude : Nat) : Binary64 :=
  ⟨false, min magnitude (bound - 1), Nat.lt_of_le_of_lt (Nat.min_le_right ..) (by decide)⟩

/-- The number nearest to a natural number. -/
def ofNat (n : Nat) : Binary64 := ofMagnitude (nearest n 1)

/-- The same number with the sign turned. -/
def neg (x : Binary64) : Binary64 := { x with negative := !x.negative }

/-- The number nearest to an integer. -/
def ofInt (n : Int) : Binary64 :=
  if n < 0 then (ofNat n.natAbs).neg else ofNat n.natAbs

/-- The rounded quotient of two numbers without their signs, as a bit pattern. -/
def quotientMagnitude (a b : Nat) : Nat := nearest (units a) (units b)

/-- The rounded product of two numbers without their signs, as a bit pattern. -/
def productMagnitude (a b : Nat) : Nat :=
  nearest (units a * units b) (1 <<< (2 * unitExponent))

/-- The rounded quotient of two numbers of one sign, the largest finite number past the end. -/
def div (x y : Binary64) : Binary64 := ofMagnitude (quotientMagnitude x.magnitude y.magnitude)

/-- The rounded product of two numbers of one sign, the largest finite number past the end. -/
def mul (x y : Binary64) : Binary64 := ofMagnitude (productMagnitude x.magnitude y.magnitude)

/-! ## The order -/

@[simp] theorem key_zero : zero.key = 0 := rfl

@[simp] theorem key_negativeZero : negativeZero.key = 0 := rfl

theorem key_ofMagnitude_nonneg (m : Nat) : 0 ≤ (ofMagnitude m).key := by
  simp [key, ofMagnitude]

end Binary64

end PacedPurge
