import Mathlib
import PacedPurge.Number.Binary64

/-!
# Integers as binary64 numbers

The order of binary64 numbers is read off their bit patterns.  Here it is tied to what the patterns
stand for.  Every number is a whole count of the smallest positive one (`Binary64.value`), the count
grows with the pattern (`Binary64.units_strictMono`), and so the order of numbers is the order of
their counts (`Binary64.compare_eq_compare_value`).

An integer is rounded to 53 binary digits, to the nearest such number and on a tie to the even one
(`Binary64.roundInt`); that is what the binary64 number made of it stands for (`value_ofInt`).
Rounding keeps the order of integers, though not strictly (`roundInt_mono`), and an integer of at
most 53 digits compares with all others as if nothing had been rounded (`roundInt_eq_iff`,
`lt_roundInt_iff`).
-/

namespace PacedPurge

namespace Binary64

/-! ## What a bit pattern stands for -/

theorem octave_pos : 0 < octave := by decide

/-- A pattern as `nearest` builds it, from a significand and a scale.  A significand that rounding
has carried up to the next power of two gives the first pattern of the next octave. -/
theorem units_pattern {scale low : Nat} (least : octave ≤ low) (most : low ≤ 2 * octave) :
    units (scale * octave + low) = low * 2 ^ scale := by
  have large : ¬scale * octave + low < octave := by omega
  obtain carried | below := Nat.eq_or_lt_of_le most
  · have pattern : scale * octave + low = (scale + 2) * octave := by
      rw [carried]
      ring
    have exponent : scaleOf ((scale + 2) * octave) = scale + 1 := by
      rw [scaleOf, Nat.mul_div_cancel _ octave_pos]
      omega
    have significand : significandOf ((scale + 2) * octave) = octave := by
      rw [← pattern, significandOf, if_neg large, pattern, Nat.mul_mod_left, Nat.add_zero]
    rw [pattern, units, exponent, significand, carried, Nat.shiftLeft_eq, Nat.pow_succ]
    ring
  · have pattern : scale * octave + low = (low - octave) + octave * (scale + 1) := by
      have whole := Nat.sub_add_cancel least
      calc
        scale * octave + low = scale * octave + ((low - octave) + octave) := by rw [whole]
        _ = (low - octave) + octave * (scale + 1) := by ring
    have within : low - octave < octave := by omega
    have exponent : scaleOf (scale * octave + low) = scale := by
      rw [scaleOf, pattern, Nat.add_mul_div_left _ _ octave_pos, Nat.div_eq_of_lt within]
      omega
    have significand : significandOf (scale * octave + low) = low := by
      rw [significandOf, if_neg large, pattern, Nat.add_mul_mod_self_left, Nat.mod_eq_of_lt within]
      omega
    rw [units, exponent, significand, Nat.shiftLeft_eq]

theorem units_of_lt {m : Nat} (small : m < octave) : units m = m := by
  have exponent : scaleOf m = 0 := by
    rw [scaleOf, Nat.div_eq_of_lt small]
  rw [units, exponent, significandOf, if_pos small, Nat.shiftLeft_zero]

/-- **The number grows with its pattern.** -/
theorem units_strictMono : StrictMono units := by
  apply strictMono_nat_of_lt_succ
  intro m
  by_cases small : m < octave
  · rw [units_of_lt small]
    by_cases next : m + 1 < octave
    · rw [units_of_lt next]
      exact Nat.lt_succ_self m
    · have first : m + 1 = 0 * octave + octave := by omega
      rw [first, units_pattern (Nat.le_refl _) (by omega)]
      omega
  · -- Both patterns lie in one octave, the first of the next one included.
    have least : octave ≤ m := Nat.le_of_not_lt small
    have positive : 0 < m / octave := Nat.div_pos least octave_pos
    have rest : m % octave < octave := Nat.mod_lt _ octave_pos
    have pattern : m = (m / octave - 1) * octave + (octave + m % octave) := by
      have split := Nat.div_add_mod m octave
      have scale : m / octave = (m / octave - 1) + 1 := by omega
      calc
        m = octave * (m / octave) + m % octave := split.symm
        _ = octave * ((m / octave - 1) + 1) + m % octave := by rw [← scale]
        _ = (m / octave - 1) * octave + (octave + m % octave) := by ring
    have here : units ((m / octave - 1) * octave + (octave + m % octave)) = _ :=
      units_pattern (Nat.le_add_right octave (m % octave)) (by omega)
    have there : units ((m / octave - 1) * octave + (octave + m % octave + 1)) = _ :=
      units_pattern (by omega) (by omega)
    rw [← Nat.add_assoc, ← pattern] at there
    rw [← pattern] at here
    rw [here, there]
    exact Nat.mul_lt_mul_of_pos_right (Nat.lt_succ_self _) (Nat.two_pow_pos _)

/-- The number, counted in smallest positive ones. -/
def value (x : Binary64) : Int :=
  if x.negative then -(units x.magnitude : Int) else units x.magnitude

/-- The count of a place in the order of numbers. -/
def valueAt (key : Int) : Int := key.sign * units key.natAbs

theorem valueAt_natCast (m : Nat) : valueAt m = units m := by
  unfold valueAt
  obtain rfl | positive := Nat.eq_zero_or_pos m
  · rfl
  · rw [Int.sign_eq_one_of_pos (Int.natCast_pos.mpr positive), Int.natAbs_natCast, Int.one_mul]

theorem valueAt_neg (key : Int) : valueAt (-key) = -valueAt key := by
  rw [valueAt, Int.sign_neg, Int.natAbs_neg, Int.neg_mul, valueAt]

theorem valueAt_key (x : Binary64) : valueAt x.key = x.value := by
  unfold key value
  split
  · rw [valueAt_neg, valueAt_natCast]
  · exact valueAt_natCast _

theorem valueAt_strictMono : StrictMono valueAt := by
  intro a b hab
  have grows : ∀ {m n : Nat}, m < n → (units m : Int) < units n := fun h =>
    Int.ofNat_lt.mpr (units_strictMono h)
  have zero : units 0 = 0 := units_of_lt octave_pos
  obtain ⟨m, rfl | rfl⟩ := Int.eq_nat_or_neg a
  · obtain ⟨n, rfl | rfl⟩ := Int.eq_nat_or_neg b
    · rw [valueAt_natCast, valueAt_natCast]
      exact grows (by omega)
    · omega
  · obtain ⟨n, rfl | rfl⟩ := Int.eq_nat_or_neg b
    · rw [valueAt_neg, valueAt_natCast, valueAt_natCast]
      obtain rfl | positive := Nat.eq_zero_or_pos m
      · have := grows (m := 0) (n := n) (by omega)
        rw [zero] at this ⊢
        omega
      · have := grows positive
        omega
    · rw [valueAt_neg, valueAt_neg, valueAt_natCast, valueAt_natCast]
      have := grows (m := n) (n := m) (by omega)
      omega

/-- **The order of numbers is the order of what they stand for.** -/
theorem compare_eq_compare_value (x y : Binary64) :
    x.compare y = Ord.compare x.value y.value := by
  rw [← valueAt_key, ← valueAt_key, ← cmp_eq_compare, valueAt_strictMono.cmp_map_eq,
    cmp_eq_compare]
  rfl

/-! ## Rounding integers -/

/-- How far the numbers of 53 binary digits lie apart around a natural number. -/
def grain (n : Nat) : Nat := 2 ^ (n.log2 - 52)

/-- The multiple of a distance that lies nearest to a natural number, counted in that distance; on a
tie the even one. -/
def nearestMultiple (n g : Nat) : Nat :=
  if g < 2 * (n % g) || (2 * (n % g) == g && n / g % 2 == 1) then n / g + 1 else n / g

/-- A natural number rounded to 53 binary digits. -/
def roundNat (n : Nat) : Nat := nearestMultiple n (grain n) * grain n

/-- An integer rounded to 53 binary digits. -/
def roundInt (n : Int) : Int := n.sign * roundNat n.natAbs

theorem div_le_nearestMultiple (n g : Nat) : n / g ≤ nearestMultiple n g := by
  unfold nearestMultiple
  split
  · exact Nat.le_succ _
  · exact Nat.le_refl _

theorem nearestMultiple_le (n g : Nat) : nearestMultiple n g ≤ n / g + 1 := by
  unfold nearestMultiple
  split
  · exact Nat.le_refl _
  · exact Nat.le_succ _

theorem nearestMultiple_one (n : Nat) : nearestMultiple n 1 = n := by
  simp [nearestMultiple, Nat.mod_one]

/-- Of a finer count the nearest multiple is the same. -/
theorem nearestMultiple_mul {k : Nat} (hk : 0 < k) (n g : Nat) :
    nearestMultiple (n * k) (g * k) = nearestMultiple n g := by
  have less : g * k < 2 * (n % g * k) ↔ g < 2 * (n % g) := by
    rw [← Nat.mul_assoc]
    exact Nat.mul_lt_mul_right hk
  have same : 2 * (n % g * k) = g * k ↔ 2 * (n % g) = g := by
    rw [← Nat.mul_assoc]
    exact Nat.mul_left_inj hk.ne'
  unfold nearestMultiple
  rw [Nat.mul_div_mul_right _ _ hk, Nat.mul_mod_mul_right]
  simp only [Bool.or_eq_true, Bool.and_eq_true, decide_eq_true_eq, beq_iff_eq, less, same]

theorem nearestMultiple_mono {a b : Nat} (hab : a ≤ b) (g : Nat) :
    nearestMultiple a g ≤ nearestMultiple b g := by
  obtain apart | together := Nat.lt_or_eq_of_le (Nat.div_le_div_right (c := g) hab)
  · calc
      nearestMultiple a g ≤ a / g + 1 := nearestMultiple_le a g
      _ ≤ b / g := apart
      _ ≤ nearestMultiple b g := div_le_nearestMultiple b g
  · have rest : a % g ≤ b % g := by
      have ha := Nat.div_add_mod a g
      have hb := Nat.div_add_mod b g
      rw [together] at ha
      omega
    unfold nearestMultiple
    rw [together]
    split
    · next up =>
      have up' : g < 2 * (b % g) || (2 * (b % g) == g && b / g % 2 == 1) := by
        simp only [Bool.or_eq_true, Bool.and_eq_true, decide_eq_true_eq, beq_iff_eq] at up ⊢
        omega
      rw [if_pos up']
    · split
      · exact Nat.le_succ _
      · exact Nat.le_refl _

theorem grain_pos (n : Nat) : 0 < grain n := Nat.two_pow_pos _

theorem roundNat_of_lt {n : Nat} (short : n < 2 ^ 53) : roundNat n = n := by
  have digits : n.log2 - 52 = 0 := by
    obtain rfl | positive := Nat.eq_zero_or_pos n
    · rfl
    · have := (Nat.log2_lt positive.ne').mpr short
      omega
  rw [roundNat, grain, digits, Nat.pow_zero, nearestMultiple_one, Nat.mul_one]

/-- Rounding stays between the powers of two around a number. -/
theorem roundNat_bounds {n : Nat} (positive : 0 < n) :
    2 ^ n.log2 ≤ roundNat n ∧ roundNat n ≤ 2 ^ (n.log2 + 1) := by
  have least : 2 ^ n.log2 ≤ n := Nat.log2_self_le positive.ne'
  have most : n < 2 ^ (n.log2 + 1) := Nat.lt_log2_self
  by_cases short : n < 2 ^ 53
  · rw [roundNat_of_lt short]
    exact ⟨least, most.le⟩
  · have long : 52 ≤ n.log2 := by
      have := (Nat.le_log2 positive.ne').mpr (Nat.le_of_not_lt short)
      omega
    have lower : 2 ^ 52 * grain n = 2 ^ n.log2 := by
      rw [grain, ← Nat.pow_add, Nat.add_sub_cancel' long]
    have upper : 2 ^ 53 * grain n = 2 ^ (n.log2 + 1) := by
      rw [Nat.pow_succ 2 n.log2, ← lower]
      ring
    constructor
    · rw [← lower]
      apply Nat.mul_le_mul_right
      refine Nat.le_trans ?_ (div_le_nearestMultiple n _)
      rw [Nat.le_div_iff_mul_le (grain_pos n), lower]
      exact least
    · rw [← upper]
      apply Nat.mul_le_mul_right
      refine Nat.le_trans (nearestMultiple_le n _) ?_
      apply Nat.succ_le_of_lt
      rw [Nat.div_lt_iff_lt_mul (grain_pos n), upper]
      exact most

theorem roundNat_mono : Monotone roundNat := by
  intro a b hab
  obtain rfl | positive := Nat.eq_zero_or_pos a
  · exact Nat.zero_le _
  have positive' : 0 < b := Nat.lt_of_lt_of_le positive hab
  have digits : a.log2 ≤ b.log2 := by
    rw [Nat.le_log2 positive'.ne']
    exact Nat.le_trans (Nat.log2_self_le positive.ne') hab
  obtain fewer | same := Nat.lt_or_eq_of_le digits
  · calc
      roundNat a ≤ 2 ^ (a.log2 + 1) := (roundNat_bounds positive).2
      _ ≤ 2 ^ b.log2 := Nat.pow_le_pow_right Nat.two_pos fewer
      _ ≤ roundNat b := (roundNat_bounds positive').1
  · have grains : grain a = grain b := by rw [grain, grain, same]
    rw [roundNat, roundNat, grains]
    exact Nat.mul_le_mul_right _ (nearestMultiple_mono hab _)

/-! ## Integers made into numbers -/

theorem octave_eq : octave = 2 ^ 52 := by decide

theorem log2_mul_two_pow {n : Nat} (positive : 0 < n) (k : Nat) :
    (n * 2 ^ k).log2 = n.log2 + k := by
  have nonzero : n * 2 ^ k ≠ 0 := (Nat.mul_pos positive (Nat.two_pow_pos k)).ne'
  rw [Nat.log2_eq_iff nonzero]
  constructor
  · rw [Nat.pow_add]
    exact Nat.mul_le_mul_right _ (Nat.log2_self_le positive.ne')
  · rw [Nat.add_right_comm, Nat.pow_add]
    exact Nat.mul_lt_mul_of_pos_right Nat.lt_log2_self (Nat.two_pow_pos k)

section Scaled

variable {n scale : Nat} (positive : 0 < n) (hscale : scale + 52 = n.log2 + unitExponent)

include positive hscale

/-- A rounded number at the scale of its leading digit. -/
theorem nearestMultiple_scaled :
    nearestMultiple (n * 2 ^ unitExponent) (2 ^ scale) * 2 ^ scale =
      roundNat n * 2 ^ unitExponent := by
  by_cases long : 52 ≤ n.log2
  · have step : 2 ^ scale = grain n * 2 ^ unitExponent := by
      have split : scale = n.log2 - 52 + unitExponent := by omega
      rw [grain, ← Nat.pow_add, ← split]
    rw [step, nearestMultiple_mul (Nat.two_pow_pos _), roundNat, Nat.mul_assoc]
  · have whole : n * 2 ^ unitExponent = n * 2 ^ (52 - n.log2) * 2 ^ scale := by
      have split : unitExponent = 52 - n.log2 + scale := by omega
      rw [Nat.mul_assoc, ← Nat.pow_add, ← split]
    have short : n < 2 ^ 53 := by
      rw [← Nat.log2_lt positive.ne']
      omega
    have exact_multiple := nearestMultiple_mul (Nat.two_pow_pos scale) (n * 2 ^ (52 - n.log2)) 1
    rw [Nat.one_mul, nearestMultiple_one] at exact_multiple
    rw [roundNat_of_lt short, whole, exact_multiple]

/-- The pattern of a natural number: its significand, rounded, at the scale of its leading digit. -/
theorem nearest_natural :
    ∃ low, octave ≤ low ∧ low ≤ 2 * octave ∧ nearest n 1 = scale * octave + low ∧
      low * 2 ^ scale = roundNat n * 2 ^ unitExponent := by
  have product := nearestMultiple_scaled positive hscale
  obtain ⟨least, most⟩ := roundNat_bounds positive
  have exponents : ∀ k, 2 ^ (n.log2 + k) * 2 ^ unitExponent = 2 ^ (52 + k) * 2 ^ scale := by
    intro k
    have same : n.log2 + k + unitExponent = 52 + k + scale := by omega
    rw [← Nat.pow_add, ← Nat.pow_add, same]
  refine ⟨_, ?_, ?_, ?_, product⟩
  · apply Nat.le_of_mul_le_mul_right _ (Nat.two_pow_pos scale)
    rw [product, octave_eq]
    calc
      2 ^ 52 * 2 ^ scale = 2 ^ n.log2 * 2 ^ unitExponent := (exponents 0).symm
      _ ≤ roundNat n * 2 ^ unitExponent := Nat.mul_le_mul_right _ least
  · apply Nat.le_of_mul_le_mul_right _ (Nat.two_pow_pos scale)
    rw [product, octave_eq]
    calc
      roundNat n * 2 ^ unitExponent ≤ 2 ^ (n.log2 + 1) * 2 ^ unitExponent :=
        Nat.mul_le_mul_right _ most
      _ = 2 * 2 ^ 52 * 2 ^ scale := exponents 1
  · have whole : ¬n * 2 ^ unitExponent < 2 * octave := by
      have large : 2 * octave ≤ 2 ^ unitExponent := by
        have more : 2 ^ 53 ≤ 2 ^ unitExponent := Nat.pow_le_pow_right Nat.two_pos (by decide)
        rw [octave_eq]
        exact more
      exact Nat.not_lt.mpr (Nat.le_trans large (Nat.le_mul_of_pos_left _ positive))
    have digits : (n * 2 ^ unitExponent).log2 - 52 = scale := by
      rw [log2_mul_two_pow positive]
      omega
    unfold nearest
    simp only [Nat.shiftLeft_eq, Nat.div_one, if_neg whole, digits, Nat.one_mul]
    rfl

end Scaled

theorem exists_scale (n : Nat) : ∃ scale, scale + 52 = n.log2 + unitExponent := by
  refine ⟨n.log2 + unitExponent - 52, Nat.sub_add_cancel ?_⟩
  exact Nat.le_trans (by decide : 52 ≤ unitExponent) (Nat.le_add_left _ _)

/-- How many smallest positive numbers make one. -/
def perOne : Nat := 2 ^ unitExponent

/-- **What is made of a natural number** stands for the rounded number. -/
theorem units_nearest (n : Nat) : units (nearest n 1) = roundNat n * perOne := by
  obtain rfl | positive := Nat.eq_zero_or_pos n
  · decide +kernel
  · obtain ⟨scale, hscale⟩ := exists_scale n
    obtain ⟨low, least, most, pattern, product⟩ := nearest_natural positive hscale
    rw [pattern, units_pattern least most, product, perOne]

/-- Numbers of up to 1023 binary digits are within the range. -/
theorem nearest_lt_bound {n : Nat} (small : n.log2 < 1023) : nearest n 1 < bound := by
  obtain rfl | positive := Nat.eq_zero_or_pos n
  · decide +kernel
  · obtain ⟨scale, hscale⟩ := exists_scale n
    obtain ⟨low, -, most, pattern, -⟩ := nearest_natural positive hscale
    have scale_le : scale ≤ 2044 := by
      have : unitExponent = 1074 := rfl
      omega
    calc
      nearest n 1 = scale * octave + low := pattern
      _ ≤ 2044 * octave + 2 * octave := Nat.add_le_add (Nat.mul_le_mul_right _ scale_le) most
      _ < bound := by decide +kernel

theorem magnitude_ofNat {n : Nat} (small : n.log2 < 1023) :
    (ofNat n).magnitude = nearest n 1 :=
  Nat.min_eq_left (Nat.le_sub_one_of_lt (nearest_lt_bound small))

theorem value_neg (x : Binary64) : x.neg.value = -x.value := by
  obtain ⟨negative, m, finite⟩ := x
  cases negative with
  | true => exact (Int.neg_neg _).symm
  | false => rfl

theorem value_ofNat {n : Nat} (small : n.log2 < 1023) :
    (ofNat n).value = roundNat n * perOne := by
  have positive : (ofNat n).negative = false := rfl
  rw [value, positive, magnitude_ofNat small, units_nearest, Int.natCast_mul]
  exact if_neg Bool.false_ne_true

/-- **What is made of an integer** stands for the rounded integer. -/
theorem value_ofInt {n : Int} (small : n.natAbs.log2 < 1023) :
    (ofInt n).value = roundInt n * perOne := by
  obtain negative | rfl | positive := Int.lt_trichotomy n 0
  · rw [ofInt, if_pos negative, value_neg, value_ofNat small, roundInt,
      Int.sign_eq_neg_one_of_neg negative, Int.neg_one_mul, Int.neg_mul]
  · have nothing : (ofInt 0).value = 0 := by decide +kernel
    rw [nothing, roundInt, Int.sign_zero, Int.zero_mul, Int.zero_mul]
  · rw [ofInt, if_neg (by omega), value_ofNat small, roundInt, Int.sign_eq_one_of_pos positive,
      Int.one_mul]

/-- **The order of integers as numbers** is the order of the rounded integers. -/
theorem compare_ofInt {a b : Int} (ha : a.natAbs.log2 < 1023) (hb : b.natAbs.log2 < 1023) :
    (ofInt a).compare (ofInt b) = Ord.compare (roundInt a) (roundInt b) := by
  have grows : StrictMono fun n : Int => n * perOne := by
    intro x y hxy
    exact Int.mul_lt_mul_of_pos_right hxy (Int.natCast_pos.mpr (Nat.two_pow_pos _))
  rw [compare_eq_compare_value, value_ofInt ha, value_ofInt hb, ← cmp_eq_compare,
    grows.cmp_map_eq (roundInt a) (roundInt b), cmp_eq_compare]

/-! ## What rounding keeps -/

theorem roundInt_neg (n : Int) : roundInt (-n) = -roundInt n := by
  rw [roundInt, Int.sign_neg, Int.natAbs_neg, Int.neg_mul, roundInt]

theorem roundInt_natCast (n : Nat) : roundInt n = roundNat n := by
  unfold roundInt
  obtain rfl | positive := Nat.eq_zero_or_pos n
  · rfl
  · rw [Int.sign_eq_one_of_pos (Int.natCast_pos.mpr positive), Int.natAbs_natCast, Int.one_mul]

/-- Rounding never turns the order of integers round. -/
theorem roundInt_mono : Monotone roundInt := by
  intro a b hab
  have grows : ∀ {m n : Nat}, m ≤ n → (roundNat m : Int) ≤ roundNat n := fun h =>
    Int.ofNat_le.mpr (roundNat_mono h)
  obtain ⟨m, rfl | rfl⟩ := Int.eq_nat_or_neg a
  · obtain ⟨n, rfl | rfl⟩ := Int.eq_nat_or_neg b
    · rw [roundInt_natCast, roundInt_natCast]
      exact grows (by omega)
    · obtain rfl : m = 0 := by omega
      obtain rfl : n = 0 := by omega
      exact Int.le_refl _
  · obtain ⟨n, rfl | rfl⟩ := Int.eq_nat_or_neg b
    · rw [roundInt_neg, roundInt_natCast, roundInt_natCast]
      omega
    · rw [roundInt_neg, roundInt_neg, roundInt_natCast, roundInt_natCast]
      exact Int.neg_le_neg (grows (by omega))

theorem roundInt_of_lt {n : Int} (short : n.natAbs < 2 ^ 53) : roundInt n = n := by
  rw [roundInt, roundNat_of_lt short, Int.sign_mul_natAbs]

/-- An integer that is not short stays so, on its side. -/
theorem roundInt_far {v : Int} (long : ¬v.natAbs < 2 ^ 53) :
    (2 ^ 53 ≤ v ∧ 2 ^ 53 ≤ roundInt v) ∨ (v ≤ -2 ^ 53 ∧ roundInt v ≤ -2 ^ 53) := by
  have upper : roundInt (2 ^ 53) = 2 ^ 53 := by decide +kernel
  by_cases positive : 0 ≤ v
  · have high : 2 ^ 53 ≤ v := by omega
    have rounded := roundInt_mono high
    rw [upper] at rounded
    exact .inl ⟨high, rounded⟩
  · have low : v ≤ -2 ^ 53 := by omega
    have rounded := roundInt_mono low
    rw [roundInt_neg, upper] at rounded
    exact .inr ⟨low, rounded⟩

/-- No integer but a short one itself is rounded to it. -/
theorem roundInt_eq_iff {n : Int} (short : n.natAbs < 2 ^ 53) (v : Int) :
    roundInt v = n ↔ v = n := by
  by_cases other : v.natAbs < 2 ^ 53
  · rw [roundInt_of_lt other]
  · have far := roundInt_far other
    omega

/-- An integer is rounded above a short one exactly if it lies above it. -/
theorem lt_roundInt_iff {n : Int} (short : n.natAbs < 2 ^ 53) (v : Int) :
    n < roundInt v ↔ n < v := by
  by_cases other : v.natAbs < 2 ^ 53
  · rw [roundInt_of_lt other]
  · have far := roundInt_far other
    omega

end Binary64

end PacedPurge
