import PacedPurge.Chance

/-!
# A generator of words

A generator with a state of four words of 64 bits, each step of which mixes the state by shifts,
rotations and sums and gives one word. Equal seeds give equal words, so what is drawn from it can
be drawn again.

The state comes from a seed of 64 bits through a linear congruential sequence: each of its terms
gives 32 bits, and two of them make a word.
-/

namespace PacedPurge

/-- The state of a generator. -/
structure Generator where
  a : UInt64
  b : UInt64
  c : UInt64
  d : UInt64
  deriving DecidableEq, Repr, Inhabited

namespace Generator

/-! ## Seeding -/

/-- The next term of the seeding sequence. -/
def seedStep (s : UInt64) : UInt64 := s * 6364136223846793005 + 11634580027462260723

/-- The bits of a term: its upper half, mixed, and turned as far as its top five bits say. -/
def seedBits (s : UInt64) : UInt32 :=
  let x := (((s >>> 18) ^^^ s) >>> 27).toUInt32
  let turn := (s >>> 59).toUInt32
  (x >>> turn) ||| (x <<< (32 - turn))

/-- The word that the two terms behind a term make, the lower half first, and the second term. -/
def seedWord (s : UInt64) : UInt64 × UInt64 :=
  let low := seedStep s
  let high := seedStep low
  ((seedBits low).toUInt64 ||| ((seedBits high).toUInt64 <<< 32), high)

/-- The generator of a seed. -/
def ofSeed (seed : UInt64) : Generator :=
  let (a, s) := seedWord seed
  let (b, s) := seedWord s
  let (c, s) := seedWord s
  let (d, _) := seedWord s
  ⟨a, b, c, d⟩

/-! ## Words -/

/-- The word turned to the left. -/
def turnLeft (x bits : UInt64) : UInt64 := (x <<< bits) ||| (x >>> (64 - bits))

/-- The word that is due. -/
def word (g : Generator) : UInt64 := turnLeft (g.a + g.d) 23 + g.a

/-- The state after the word that is due. -/
def step (g : Generator) : Generator :=
  let c := g.c ^^^ g.a
  let d := g.d ^^^ g.b
  ⟨g.a ^^^ d, g.b ^^^ c, c ^^^ (g.b <<< 17), turnLeft d 45⟩

/-- The upper half of the word that is due. -/
def half (g : Generator) : UInt32 := (g.word >>> 32).toUInt32

/-! ## Numbers -/

/-- Draws a number below `n`: the upper half of `n` times the half word that is due, if the lower
half lies within the zone; otherwise the next half word is tried. After `tries` of them the least
number stands. -/
def below (n zone : Nat) (tries : Nat) (g : Generator) : Nat × Generator :=
  match tries with
  | 0 => (0, g)
  | tries + 1 =>
    let product := g.half.toNat * n
    if product % UInt32.size ≤ zone then (product / UInt32.size, g.step)
    else below n zone tries g.step

/-- How many half words are tried for one number. The zones in use refuse at most one half word in
four thousand. -/
def tries : Nat := 1000

/-- The largest zone for numbers below `n`: all whole multiples of `n` that fit in 32 bits. -/
def widestZone (n : Nat) : Nat := UInt32.size - 1 - (UInt32.size - n) % n

/-- Draws a percentage below a hundred. -/
def percent (g : Generator) : Nat × Generator := below 100 (widestZone 100) tries g

/-- Draws a number from `first` up to below `bound`. -/
def inRange (first bound : Nat) (g : Generator) : Nat × Generator :=
  let (n, g) := below (bound - first) (Chance.zone 32 (bound - first)) tries g
  (first + n, g)

end Generator

end PacedPurge
