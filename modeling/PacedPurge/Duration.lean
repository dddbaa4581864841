import PacedPurge.Text.Blank

/-!
# Durations

Spans of time as people write them: `1h 30m`, `2.5s`, `3days`. A text is a sequence of groups, each
a number and a unit; blanks may stand between groups, before the unit, and even between the digits
of a number. A fraction must come out even in nanoseconds (in seconds, from hours up). A single `0`
needs no unit.

Whole seconds fit in 64 bits, as does every number on the way; what does not fit is refused.
-/

namespace PacedPurge

/-- A span of time, counted in nanoseconds. -/
structure Duration where
  nanos : Nat
  deriving DecidableEq, Repr, Inhabited

namespace Duration

/-- How many nanoseconds a second has. -/
def perSecond : Nat := 1000000000

/-- Milliseconds as a duration. -/
def ofMillis (ms : Nat) : Duration := ⟨ms * 1000000⟩

/-- The whole seconds. -/
def seconds (d : Duration) : Nat := d.nanos / perSecond

/-- The nanoseconds beyond the whole seconds. -/
def subsecond (d : Duration) : Nat := d.nanos % perSecond

/-! ## Units -/

/-- The units of a duration, from the smallest. -/
inductive TimeUnit where
  | nanosecond
  | microsecond
  | millisecond
  | second
  | minute
  | hour
  | day
  | week
  | month
  | year
  deriving DecidableEq, Repr

namespace TimeUnit

/-- The spellings of a unit; case matters, as `m` is a minute and `M` a month. -/
def spellings : TimeUnit → List String
  | .nanosecond => ["nanos", "nsec", "ns"]
  | .microsecond => ["usec", "us", "µs"]
  | .millisecond => ["millis", "msec", "ms"]
  | .second => ["seconds", "second", "secs", "sec", "s"]
  | .minute => ["minutes", "minute", "min", "mins", "m"]
  | .hour => ["hours", "hour", "hr", "hrs", "h"]
  | .day => ["days", "day", "d"]
  | .week => ["weeks", "week", "wk", "wks", "w"]
  | .month => ["months", "month", "M"]
  | .year => ["years", "year", "yr", "yrs", "y"]

/-- All units. -/
def all : List TimeUnit :=
  [.nanosecond, .microsecond, .millisecond, .second, .minute, .hour, .day, .week, .month, .year]

/-- The unit of a spelling. -/
def ofSpelling? (s : String) : Option TimeUnit := all.find? (·.spellings.contains s)

/-- A unit in nanoseconds. -/
def nanos : TimeUnit → Nat
  | .nanosecond => 1
  | .microsecond => 1000
  | .millisecond => 1000000
  | .second => perSecond
  | .minute => 60 * perSecond
  | .hour => 3600 * perSecond
  | .day => 86400 * perSecond
  | .week => 604800 * perSecond
  | .month => 2630016 * perSecond
  | .year => 31557600 * perSecond

/-- The grain in which whole numbers of the unit are counted: nanoseconds below the second. -/
def wholeGrain : TimeUnit → Nat
  | .nanosecond | .microsecond | .millisecond => 1
  | _ => perSecond

/-- The grain in which fractions of the unit must come out even: seconds from the hour up. -/
def fractionGrain : TimeUnit → Nat
  | .nanosecond | .microsecond | .millisecond | .second | .minute => 1
  | _ => perSecond

end TimeUnit

/-! ## Reading -/

/-- The number, if it fits in 64 bits. -/
def word? (n : Nat) : Option Nat := if n < UInt64.size then some n else none

/-- Adds nanoseconds of a grain to what has been read, if all sums on the way fit in 64 bits. -/
def add? (total grain count : Nat) : Option Nat := do
  let total' := total + count * grain
  if grain = 1 then
    let _ ← word? (total % perSecond + count)
  let _ ← word? (total' / perSecond)
  return total'

/-- Whether the character can stand in a unit. -/
def isUnitChar (c : Char) : Bool := ('a' ≤ c && c ≤ 'z') || ('A' ≤ c && c ≤ 'Z') || c = 'µ'

/-- Whether the character is a decimal digit. -/
def isDigit (c : Char) : Bool := '0' ≤ c && c ≤ '9'

/-- The number that a digit writes. -/
def digitOf (c : Char) : Nat := c.toNat - '0'.toNat

/-- Goes on with a number up to a point, a unit or the end; blanks do not count. -/
def readNumber (n : Nat) : List Char → Option (Nat × List Char)
  | [] => some (n, [])
  | c :: rest =>
    if isDigit c then (word? (10 * n + digitOf c)).bind fun n => readNumber n rest
    else if Text.isBlank c then readNumber n rest
    else if isUnitChar c || c = '.' then some (n, c :: rest)
    else none

/-- A proper fraction. -/
structure Fraction where
  numerator : Nat
  denominator : Nat

/-- Goes on with a fraction up to a unit or the end; at least one digit must have been there. -/
def readFraction (f : Fraction) : List Char → Option (Fraction × List Char)
  | [] => if f.denominator = 1 then none else some (f, [])
  | c :: rest =>
    if isDigit c then do
      let numerator ← word? (10 * f.numerator + digitOf c)
      let denominator ← word? (10 * f.denominator)
      readFraction ⟨numerator, denominator⟩ rest
    else if Text.isBlank c then readFraction f rest
    else if isUnitChar c then if f.denominator = 1 then none else some (f, c :: rest)
    else none

/-- The fraction behind a number, if a point follows it. -/
def readFraction? : List Char → Option (Option Fraction × List Char)
  | '.' :: rest => (readFraction ⟨0, 1⟩ rest).map fun r => (some r.1, r.2)
  | cs => some (none, cs)

/-- Adds a number of a unit to what has been read. -/
def addGroup (total n : Nat) (fraction : Option Fraction) (unit : TimeUnit) : Option Nat := do
  let count ← word? (n * (unit.nanos / unit.wholeGrain))
  let total ← add? total unit.wholeGrain count
  match fraction with
  | none => return total
  | some f =>
    if unit = .nanosecond then none
    else
      let scaled ← word? (f.numerator * (unit.nanos / unit.fractionGrain))
      if scaled % f.denominator = 0 then add? total unit.fractionGrain (scaled / f.denominator)
      else none

/-- Reads groups up to the end of the text. -/
def readGroups (fuel total : Nat) (cs : List Char) : Option Nat :=
  match fuel with
  | 0 => none
  | fuel + 1 =>
    match cs.dropWhile Text.isBlank with
    | [] => some total
    | c :: rest =>
      if isDigit c then do
        let (n, rest) ← readNumber (digitOf c) rest
        let (fraction, rest) ← readFraction? rest
        let unit ← TimeUnit.ofSpelling? (String.ofList (rest.takeWhile isUnitChar))
        let rest := rest.dropWhile isUnitChar
        let total ← addGroup total n fraction unit
        match rest with
        | [] => return total
        | c :: _ => if isDigit c || Text.isBlank c then readGroups fuel total rest else none
      else none

/-- The duration that a text writes. -/
def parse (text : String) : Option Duration :=
  if text = "0" then some ⟨0⟩
  else if text.toList.all Text.isBlank then none
  else (readGroups (text.length + 1) 0 text.toList).map Duration.mk

/-! ## Writing -/

/-- A count with its unit, if it is not zero. -/
def item (count : Nat) (unit : String) : List String :=
  if count = 0 then [] else [toString count ++ unit]

/-- A count with a unit that takes an `s` above one, if it is not zero. -/
def itemPlural (count : Nat) (unit : String) : List String :=
  item count (if 1 < count then unit ++ "s" else unit)

/-- The text of a duration: every unit that occurs, from years to nanoseconds. -/
def text (d : Duration) : String :=
  let secs := d.seconds
  let inYear := secs % 31557600
  let inMonth := inYear % 2630016
  let inDay := inMonth % 86400
  let sub := d.subsecond
  if d.nanos = 0 then "0s"
  else " ".intercalate
    (itemPlural (secs / 31557600) "year" ++ itemPlural (inYear / 2630016) "month"
      ++ itemPlural (inMonth / 86400) "day" ++ item (inDay / 3600) "h"
      ++ item (inDay % 3600 / 60) "m" ++ item (inDay % 60) "s" ++ item (sub / 1000000) "ms"
      ++ item (sub / 1000 % 1000) "us" ++ item (sub % 1000) "ns")

end Duration

end PacedPurge
