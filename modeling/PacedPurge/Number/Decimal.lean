import PacedPurge.Number.Binary64

/-!
# Shortest decimals

The decimal text of a binary64 number: the fewest digits from which the number can be read back,
and of those the ones nearest to its value. Where two are equally near, formats differ in which of
them they take (`Decimal.Tie`). The digits are found in exact arithmetic (`Decimal.shortest`); how
they are laid out is a record of the few choices that formats differ in (`Decimal.Layout`).
-/

namespace PacedPurge

/-- A positive decimal number `digits · 10 ^ exponent`. -/
structure Decimal where
  digits : Nat
  exponent : Int
  deriving DecidableEq, Repr

namespace Decimal

/-! ## Which digits -/

/-- The points that round to one bit pattern: from `low` to `high`, around `value`, all counted in
quarters of the smallest positive number. The ends belong to it when the significand is even. -/
structure Interval where
  low : Nat
  value : Nat
  high : Nat
  closed : Bool

/-- The points that round to the bit pattern. Below a power of two the numbers lie twice as
close. -/
def Interval.ofMagnitude (magnitude : Nat) : Interval :=
  let value := 4 * Binary64.units magnitude
  let gap := 1 <<< Binary64.scaleOf magnitude
  let tight := magnitude % Binary64.octave == 0 && 1 < magnitude / Binary64.octave
  { low := value - (if tight then gap else 2 * gap)
    value := value
    high := value + 2 * gap
    closed := magnitude % 2 == 0 }

/-- Whether the point `num / den` lies in the interval. -/
def Interval.holds (i : Interval) (num den : Nat) : Bool :=
  if i.closed then i.low * den ≤ num && num ≤ i.high * den
  else i.low * den < num && num < i.high * den

/-- One as quarters of the smallest positive number. -/
def quartersInOne : Nat := 1 <<< (Binary64.unitExponent + 2)

/-- The fraction `10 ^ exponent` in quarters of the smallest positive number. -/
def gridStep (exponent : Int) : Nat × Nat :=
  match exponent with
  | .ofNat e => (quartersInOne * Nat.pow 10 e, 1)
  | .negSucc e => (quartersInOne, Nat.pow 10 (e + 1))

/-- Whether `10 ^ exponent` is at most the value. -/
def reaches (value : Nat) (exponent : Int) : Bool :=
  let step := gridStep exponent
  step.1 ≤ value * step.2

/-- The exponent of the leading digit of a positive value given in quarters of the smallest
positive number: a guess from its binary length, put right by one. -/
def leadingExponent (value : Nat) : Int :=
  let guess := ((value.log2 : Int) - (Binary64.unitExponent + 2 : Nat)) * 30103 / 100000
  if reaches value (guess + 1) then guess + 1
  else if reaches value guess then guess
  else guess - 1

/-- Which of two decimals stands for a value that lies midway between them. -/
inductive Tie where
  /-- The one whose last digit is even. -/
  | toEven
  /-- The one farther from zero. -/
  | away
  deriving DecidableEq, Repr

/-- Whether a tie goes to the lower of two neighbours, given its digits. -/
def Tie.goesDown (tie : Tie) (below : Nat) : Bool :=
  match tie with
  | .toEven => below % 2 == 0
  | .away => false

/-- The decimal on the grid of `10 ^ exponent` that lies in the interval and is nearest to its
value; none if no point of the grid lies in the interval. -/
def onGrid (tie : Tie) (i : Interval) (exponent : Int) : Option Decimal :=
  let step := gridStep exponent
  let below := i.value * step.2 / step.1
  let excess := i.value * step.2 % step.1
  let lowHit := below != 0 && i.holds (below * step.1) step.2
  let highHit := i.holds ((below + 1) * step.1) step.2
  let lowNearer := 2 * excess < step.1 || (2 * excess == step.1 && tie.goesDown below)
  if lowHit && (lowNearer || !highHit) then some ⟨below, exponent⟩
  else if highHit then some ⟨below + 1, exponent⟩
  else none

/-- The first grid with a hit, of `count` grids from the one of `exponent` downwards. -/
def firstHit (tie : Tie) (i : Interval) : Nat → Int → Decimal
  | 0, exponent => ⟨i.value, exponent⟩
  | count + 1, exponent =>
    match onGrid tie i exponent with
    | some d => d
    | none => firstHit tie i count (exponent - 1)

/-- Drops zeros from the end of the digits, at most `count` of them. -/
def dropZeros : Nat → Decimal → Decimal
  | 0, d => d
  | count + 1, d =>
    if d.digits % 10 == 0 then dropZeros count ⟨d.digits / 10, d.exponent + 1⟩ else d

/-- The shortest decimal that reads back as the bit pattern, which is not that of zero. -/
def shortest (tie : Tie) (magnitude : Nat) : Decimal :=
  let i := Interval.ofMagnitude magnitude
  dropZeros 17 (firstHit tie i 18 (leadingExponent i.value))

/-! ## How they are laid out -/

/-- Which digits a format takes, and where it writes them in place or names an exponent. -/
structure Layout where
  tie : Tie
  /-- The exponents of the leading digit that are written in place; none means all of them. -/
  inPlace : Option (Int × Int)
  /-- Whether a whole number written in place shows an empty fraction. -/
  emptyFraction : Bool

/-- Digits in place: the point stands where the exponent puts it. -/
def placed (emptyFraction : Bool) (d : Decimal) : String :=
  let digits := (Nat.repr d.digits).toList
  let point : Int := digits.length + d.exponent
  if 0 ≤ d.exponent then
    String.ofList (digits ++ List.replicate d.exponent.toNat '0'
      ++ (if emptyFraction then ['.', '0'] else []))
  else if 0 < point then
    String.ofList (digits.take point.toNat ++ '.' :: digits.drop point.toNat)
  else
    String.ofList ('0' :: '.' :: List.replicate (-point).toNat '0' ++ digits)

/-- One digit before the point, the others behind it, and a signed exponent. -/
def withExponent (d : Decimal) : String :=
  let digits := (Nat.repr d.digits).toList
  let lead : Int := digits.length + d.exponent - 1
  let fraction := match digits.drop 1 with
    | [] => []
    | more => '.' :: more
  let sign := if 0 ≤ lead then '+' else '-'
  String.ofList (digits.take 1 ++ fraction ++ 'e' :: sign :: (Nat.repr lead.natAbs).toList)

/-- The text of a positive decimal in the layout. -/
def Layout.text (layout : Layout) (d : Decimal) : String :=
  let lead : Int := (Nat.repr d.digits).length + d.exponent - 1
  match layout.inPlace with
  | none => placed layout.emptyFraction d
  | some (least, bound) =>
    if least ≤ lead && lead < bound then placed layout.emptyFraction d else withExponent d

/-- The text of a number in the layout. -/
def Layout.number (layout : Layout) (x : Binary64) : String :=
  let sign := if x.negative then "-" else ""
  if x.magnitude == 0 then sign ++ (if layout.emptyFraction then "0.0" else "0")
  else sign ++ layout.text (shortest layout.tie x.magnitude)

/-- The layout of numbers in messages: ties go away from zero, and digits always stand in place,
those of whole numbers without a fraction. -/
def plain : Layout := ⟨.away, none, false⟩

end Decimal

end PacedPurge
