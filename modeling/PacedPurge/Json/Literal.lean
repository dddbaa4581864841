import PacedPurge.Json.Value

/-!
# Number literals

Reading a number. A literal without fraction and exponent that fits in 64 bits, signed or not, is
an integer; every other literal is a binary64 number, `-0` among them.

The binary64 number of a literal is not always the nearest one. Its digits count as far as they
fit in 64 bits without sign; that integer is rounded once, and then multiplied or divided by a
power of ten, which rounds a second time. A power past `10 ^ 308` is taken in steps. A literal too
large to be finite is refused.
-/

namespace PacedPurge

/-- The parts of a number literal, digits as numbers below ten. -/
structure Literal where
  negative : Bool
  whole : List Nat
  fraction : Option (List Nat)
  exponent : Option Int
  deriving Repr

namespace Literal

/-! ## Scanning -/

/-- The digit that a character writes. -/
def digit? (c : Char) : Option Nat :=
  if '0' ≤ c && c ≤ '9' then some (c.toNat - '0'.toNat) else none

/-- The digits at the front, and what follows them. -/
def digits : List Char → List Nat × List Char
  | [] => ([], [])
  | c :: rest =>
    match digit? c with
    | some d => let (ds, after) := digits rest; (d :: ds, after)
    | none => ([], c :: rest)

/-- The number that digits write. -/
def ofDigits (ds : List Nat) : Nat := ds.foldl (fun n d => 10 * n + d) 0

/-- The digits before the point: a zero alone, or digits that do not begin with one. -/
def scanWhole : List Char → Option (List Nat × List Char)
  | '0' :: rest =>
    match rest with
    | c :: _ => if (digit? c).isSome then none else some ([0], rest)
    | [] => some ([0], [])
  | cs =>
    match digits cs with
    | ([], _) => none
    | found => some found

/-- A point and at least one digit, if a point is there. -/
def scanFraction : List Char → Option (Option (List Nat) × List Char)
  | '.' :: rest =>
    match digits rest with
    | ([], _) => none
    | (ds, after) => some (some ds, after)
  | cs => some (none, cs)

/-- The sign of an exponent, positive unless a minus is written. -/
def scanSign : List Char → Bool × List Char
  | '-' :: rest => (true, rest)
  | '+' :: rest => (false, rest)
  | cs => (false, cs)

/-- The letter, a sign and at least one digit, if the letter is there. -/
def scanExponent : List Char → Option (Option Int × List Char)
  | c :: rest =>
    if c = 'e' || c = 'E' then
      let (negative, rest) := scanSign rest
      match digits rest with
      | ([], _) => none
      | (ds, after) =>
        let size : Int := ofDigits ds
        some (some (if negative then -size else size), after)
    else some (none, c :: rest)
  | [] => some (none, [])

/-- The literal without its sign. -/
def scanUnsigned (negative : Bool) (cs : List Char) : Option (Literal × List Char) := do
  let (whole, cs) ← scanWhole cs
  let (fraction, cs) ← scanFraction cs
  let (exponent, cs) ← scanExponent cs
  return (⟨negative, whole, fraction, exponent⟩, cs)

/-- The literal at the front, and what follows it. -/
def scan : List Char → Option (Literal × List Char)
  | '-' :: rest => scanUnsigned true rest
  | cs => scanUnsigned false cs

/-! ## Value -/

/-- The least number that does not fit in 64 bits. -/
def wordBound : Nat := UInt64.size

/-- Appends digits to a number as long as it fits in 64 bits: the number and the digits that were
left over. -/
def fill (n : Nat) : List Nat → Nat × List Nat
  | [] => (n, [])
  | d :: rest => if 10 * n + d < wordBound then fill (10 * n + d) rest else (n, d :: rest)

/-- The power of ten as a bit pattern. -/
def powerOfTen (e : Nat) : Nat := Binary64.nearest (Nat.pow 10 e) 1

/-- The largest power of ten that is finite. -/
def maxPower : Nat := 308

/-- The bit pattern times a power of ten, none if it is no longer finite. -/
def scaled (magnitude : Nat) (exponent : Int) : Option Nat :=
  if 0 ≤ exponent then
    if exponent ≤ maxPower then
      let product := Binary64.productMagnitude magnitude (powerOfTen exponent.toNat)
      if product < Binary64.bound then some product else none
    else if magnitude = 0 then some 0 else none
  else if -exponent ≤ maxPower then
    some (Binary64.quotientMagnitude magnitude (powerOfTen exponent.natAbs))
  else if magnitude = 0 then some 0
  else
    scaled (Binary64.quotientMagnitude magnitude (powerOfTen maxPower)) (exponent + maxPower)
termination_by exponent.natAbs
decreasing_by simp only [maxPower] at *; omega

/-- The literal as a binary64 number. -/
def real? (l : Literal) : Option Binary64 :=
  let (size, left) := fill 0 l.whole
  let (size, leftAfter) := fill size (l.fraction.getD [])
  let behindPoint := (l.fraction.getD []).length - leftAfter.length
  let exponent := (left.length : Int) - behindPoint + l.exponent.getD 0
  (scaled (Binary64.nearest size 1) exponent).bind (Binary64.ofMagnitude? l.negative)

/-- The integer that the literal writes, if it writes one that fits in 64 bits. -/
def integer? (l : Literal) : Option Int :=
  match l.fraction, l.exponent with
  | none, none =>
    let size := ofDigits l.whole
    if l.negative then if size ≠ 0 && size ≤ 1 <<< 63 then some (-(size : Int)) else none
    else if size < wordBound then some size else none
  | _, _ => none

/-- The number that the literal writes, none if it is too large. -/
def number? (l : Literal) : Option Number :=
  match l.integer? with
  | some n => some (.integer n)
  | none => l.real?.map .real

end Literal

end PacedPurge
