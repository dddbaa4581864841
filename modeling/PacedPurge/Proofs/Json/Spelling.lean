import PacedPurge.Json.Parser
import PacedPurge.Json.Printer
import PacedPurge.Proofs.Filter.Integers
import PacedPurge.Proofs.Number.Digits

/-!
# Number literals as they are written

A literal is spelled by its sign, the digits before the point, those behind it if there is a point,
and an exponent with a sign of its own if there is one (`Literal.Spelling`).  Such a literal is
scanned up to its end whenever what follows could not go on with it (`Spelling.scan_chars`): a comma
or a closing bracket ends a number, and so does the end of the text.

Every number is written as such a literal.  An integer has neither point nor exponent, and is read
back if it fits in 64 bits (`Spelling.integer?_ofInt`).  The text of a real always has one of them,
whichever way its digits are laid out (`Decimal.exists_spelling_number`), so it is never taken for
an integer (`Spelling.integer?_literal`).
-/

namespace PacedPurge

namespace Literal

/-! ## Digits -/

/-- What a digit counts. -/
def digitValue (c : Char) : Nat := c.toNat - '0'.toNat

theorem digit?_of_isDigit {c : Char} (h : c.isDigit = true) : digit? c = some (digitValue c) := by
  unfold digit?
  rw [between_digits, if_pos h]
  rfl

theorem digit?_of_not_isDigit {c : Char} (h : c.isDigit = false) : digit? c = none := by
  unfold digit?
  rw [between_digits, h]
  rfl

/-- One digit or more. -/
structure Numeral where
  chars : List Char
  areDigits : ∀ c ∈ chars, c.isDigit = true
  nonempty : chars ≠ []

/-- The digits before a point: the first is a zero only if it is the only one. -/
structure Whole extends Numeral where
  unpadded : chars.head? = some '0' → chars = ['0']

/-- The digits of a numeral as numbers. -/
def Numeral.values (ds : Numeral) : List Nat := ds.chars.map digitValue

theorem ofDigits_map (cs : List Char) :
    ofDigits (cs.map digitValue) = Nat.ofDigitChars 10 cs 0 := by
  unfold ofDigits
  rw [List.foldl_map]
  rfl

/-- Digits end where no digit follows. -/
def EndsDigits (rest : List Char) : Prop := ∀ c ∈ rest.head?, c.isDigit = false

/-- A number ends where nothing follows that could go on with it. -/
def Ends (rest : List Char) : Prop :=
  ∀ c ∈ rest.head?, c.isDigit = false ∧ c ≠ '.' ∧ c ≠ 'e' ∧ c ≠ 'E'

theorem Ends.digits {rest : List Char} (h : Ends rest) : EndsDigits rest := fun c hc => (h c hc).1

theorem endsDigits_cons {c : Char} (h : c.isDigit = false) (rest : List Char) :
    EndsDigits (c :: rest) := by
  intro d hd
  obtain rfl := Option.some.inj hd
  exact h

/-- Digits are taken up to their end. -/
theorem digits_append {cs rest : List Char} (areDigits : ∀ c ∈ cs, c.isDigit = true)
    (stop : EndsDigits rest) : digits (cs ++ rest) = (cs.map digitValue, rest) := by
  induction cs with
  | nil =>
    rcases rest with _ | ⟨c, rest⟩
    · rfl
    · simp only [List.nil_append, digits, digit?_of_not_isDigit (stop c rfl), List.map_nil]
  | cons c cs ih =>
    have first := digit?_of_isDigit (areDigits c List.mem_cons_self)
    have others := ih fun d hd => areDigits d (List.mem_cons_of_mem c hd)
    simp only [List.cons_append, digits, first, others, List.map_cons]

theorem Numeral.digits_append (ds : Numeral) {rest : List Char} (stop : EndsDigits rest) :
    digits (ds.chars ++ rest) = (ds.values, rest) :=
  Literal.digits_append ds.areDigits stop

theorem Numeral.values_ne_nil (ds : Numeral) : ds.values ≠ [] := by
  unfold values
  rw [ne_eq, List.map_eq_nil_iff]
  exact ds.nonempty

theorem Whole.scanWhole_append (ds : Whole) {rest : List Char} (stop : EndsDigits rest) :
    scanWhole (ds.chars ++ rest) = some (ds.values, rest) := by
  obtain ⟨⟨cs, areDigits, nonempty⟩, unpadded⟩ := ds
  rcases cs with _ | ⟨c, cs⟩
  · exact absurd rfl nonempty
  · by_cases zero : c = '0'
    · subst zero
      have alone := unpadded rfl
      simp only [List.cons.injEq, true_and] at alone
      subst alone
      rcases rest with _ | ⟨d, rest⟩
      · rfl
      · have stops := digit?_of_not_isDigit (stop d rfl)
        simp only [List.cons_append, List.nil_append, scanWhole, stops]
        rfl
    · have read := Literal.digits_append areDigits stop
      unfold scanWhole
      split
      · next heq =>
        simp only [List.cons_append, List.cons.injEq] at heq
        exact absurd heq.1 zero
      · rw [read]
        rfl

/-! ## Literals -/

/-- How a literal is written: the exponent as its sign and its digits. -/
structure Spelling where
  negative : Bool
  whole : Whole
  fraction : Option Numeral
  exponent : Option (Bool × Numeral)

namespace Spelling

/-- The characters behind the point, and the point. -/
def fractionChars (s : Spelling) : List Char :=
  match s.fraction with
  | none => []
  | some ds => '.' :: ds.chars

/-- The exponent with its letter. -/
def exponentChars (s : Spelling) : List Char :=
  match s.exponent with
  | none => []
  | some (negative, ds) => 'e' :: (if negative then '-' else '+') :: ds.chars

/-- The characters of the literal without its sign. -/
def unsignedChars (s : Spelling) : List Char := s.whole.chars ++ s.fractionChars ++ s.exponentChars

/-- The characters of the literal. -/
def chars (s : Spelling) : List Char :=
  if s.negative then '-' :: s.unsignedChars else s.unsignedChars

/-- The literal that is written. -/
def literal (s : Spelling) : Literal where
  negative := s.negative
  whole := s.whole.values
  fraction := s.fraction.map Numeral.values
  exponent := s.exponent.map fun e =>
    let size : Int := ofDigits e.2.values
    if e.1 then -size else size

variable (s : Spelling) {rest : List Char}

theorem scanExponent_append (stop : Ends rest) :
    scanExponent (s.exponentChars ++ rest) = some (s.literal.exponent, rest) := by
  unfold exponentChars literal
  rcases s.exponent with _ | ⟨negative, ds⟩
  · rcases rest with _ | ⟨c, rest⟩
    · rfl
    · obtain ⟨-, -, small, large⟩ := stop c rfl
      simp [scanExponent, small, large]
  · have read := ds.digits_append stop.digits
    have some_digits := ds.values_ne_nil
    rcases negative with _ | _
    · simp only [Bool.false_eq_true, if_false, List.cons_append, scanExponent, scanSign, read]
      rcases hvalues : ds.values with _ | ⟨d, more⟩
      · exact absurd hvalues some_digits
      · simp [hvalues]
    · simp only [if_true, List.cons_append, scanExponent, scanSign, read]
      rcases hvalues : ds.values with _ | ⟨d, more⟩
      · exact absurd hvalues some_digits
      · simp [hvalues]

/-- Neither an exponent nor the end of a number could go on with digits. -/
theorem endsDigits_exponent (stop : Ends rest) : EndsDigits (s.exponentChars ++ rest) := by
  unfold exponentChars
  rcases s.exponent with _ | ⟨negative, ds⟩
  · exact stop.digits
  · exact endsDigits_cons (by decide) _

theorem scanFraction_append (stop : Ends rest) :
    scanFraction (s.fractionChars ++ s.exponentChars ++ rest) =
      some (s.literal.fraction, s.exponentChars ++ rest) := by
  have follows := s.endsDigits_exponent stop
  rw [List.append_assoc]
  unfold fractionChars literal
  rcases s.fraction with _ | ds
  · have no_point : (s.exponentChars ++ rest).head? ≠ some '.' := by
      unfold exponentChars
      rcases s.exponent with _ | ⟨negative, ds⟩
      · intro point
        exact absurd rfl (stop '.' point).2.1
      · simp
    rw [List.nil_append]
    unfold scanFraction
    split
    · next heq =>
      rw [heq] at no_point
      exact absurd rfl no_point
    · rfl
  · have read := ds.digits_append follows
    simp only [List.cons_append, scanFraction, read]
    rcases hvalues : ds.values with _ | ⟨d, more⟩
    · exact absurd hvalues ds.values_ne_nil
    · simp [hvalues]

theorem endsDigits_fraction (stop : Ends rest) :
    EndsDigits (s.fractionChars ++ s.exponentChars ++ rest) := by
  rw [List.append_assoc]
  unfold fractionChars
  rcases s.fraction with _ | ds
  · exact s.endsDigits_exponent stop
  · exact endsDigits_cons (by decide) _

theorem scanUnsigned_append (stop : Ends rest) :
    scanUnsigned s.negative (s.unsignedChars ++ rest) = some (s.literal, rest) := by
  have whole := s.whole.scanWhole_append (s.endsDigits_fraction stop)
  have fraction := s.scanFraction_append stop
  have exponent := s.scanExponent_append stop
  unfold unsignedChars
  rw [List.append_assoc] at fraction
  simp only [List.append_assoc, scanUnsigned] at whole ⊢
  rw [whole]
  simp only [Option.bind_eq_bind, Option.bind_some]
  rw [fraction]
  simp only [Option.bind_some]
  rw [exponent]
  rfl

theorem exists_digit : ∃ c more, s.unsignedChars = c :: more ∧ c.isDigit = true := by
  unfold unsignedChars
  rcases hwhole : s.whole.chars with _ | ⟨c, more⟩
  · exact absurd hwhole s.whole.nonempty
  · refine ⟨c, _, rfl, s.whole.areDigits c ?_⟩
    rw [hwhole]
    exact List.mem_cons_self

/-- What is written begins with a minus or a digit. -/
theorem exists_first : ∃ c more, s.chars = c :: more ∧ (c = '-' ∨ c.isDigit = true) := by
  unfold chars
  split
  · exact ⟨'-', _, rfl, .inl rfl⟩
  · obtain ⟨c, more, begins, digit⟩ := s.exists_digit
    exact ⟨c, more, begins, .inr digit⟩

/-- **A literal is scanned up to its end.** -/
theorem scan_chars (stop : Ends rest) : scan (s.chars ++ rest) = some (s.literal, rest) := by
  have read := s.scanUnsigned_append stop
  unfold chars
  rcases hsign : s.negative with _ | _
  · obtain ⟨c, more, begins, digit⟩ := s.exists_digit
    rw [hsign, begins] at read
    rw [if_neg Bool.false_ne_true, begins]
    unfold scan
    split
    · next heq =>
      obtain rfl : c = '-' := (List.cons.inj heq).1
      exact absurd digit (by decide)
    · exact read
  · rw [hsign] at read
    exact read

/-- A literal with a point or an exponent is no integer. -/
theorem integer?_literal (h : s.fraction.isSome = true ∨ s.exponent.isSome = true) :
    s.literal.integer? = none := by
  unfold integer? literal
  rcases h with point | exponent
  · obtain ⟨ds, hds⟩ := Option.isSome_iff_exists.mp point
    simp [hds]
  · obtain ⟨e, he⟩ := Option.isSome_iff_exists.mp exponent
    simp [he]

end Spelling

/-! ## Integers -/

/-- Only the digits of zero begin with a zero. -/
theorem eq_zero_of_padded (n : Nat) (padded : (Nat.toDigits 10 n).head? = some '0') : n = 0 := by
  induction n using Nat.strongRecOn with
  | _ n ih =>
    by_cases small : n < 10
    · have digit : ∀ m < 10, Nat.digitChar m = '0' → m = 0 := by decide
      rw [Nat.toDigits_of_lt_base small] at padded
      exact digit n small (Option.some.inj padded)
    · rw [Nat.toDigits_of_base_le (by decide) (by omega), List.head?_append] at padded
      have front : (Nat.toDigits 10 (n / 10)).head? = some '0' := by
        rcases hfront : Nat.toDigits 10 (n / 10) with _ | ⟨c, more⟩
        · exact absurd hfront Nat.toDigits_ne_nil
        · rw [hfront] at padded
          exact padded
      have less := ih (n / 10) (by omega) front
      omega

/-- The digits of a natural number. -/
def Whole.ofNat (n : Nat) : Whole where
  chars := (toString n).toList
  areDigits _ := isDigit_of_mem_toString
  nonempty := toString_ne_nil n
  unpadded first := by
    rw [Nat.toString_eq_repr, Nat.toList_repr] at first
    rw [eq_zero_of_padded n first]
    decide

theorem Whole.chars_zero : (ofNat 0).chars = ['0'] := rfl

/-- How an integer is written. -/
def Spelling.ofInt (n : Int) : Spelling := ⟨n < 0, .ofNat n.natAbs, none, none⟩

theorem Spelling.chars_ofInt (n : Int) : (ofInt n).chars = (toString n).toList := by
  have whole : (ofInt n).unsignedChars = n.natAbs.repr.toList := by
    simp [unsignedChars, fractionChars, exponentChars, ofInt, Whole.ofNat, Nat.toString_eq_repr]
  rw [Int.toString_eq_repr, Int.repr_eq_if, chars, whole]
  have sign : (ofInt n).negative = decide (n < 0) := rfl
  by_cases negative : n < 0
  · have size : (-n).toNat = n.natAbs := by omega
    rw [sign, decide_eq_true negative, if_pos rfl, if_neg (by omega), size, String.toList_append]
    rfl
  · have size : n.toNat = n.natAbs := by omega
    rw [sign, decide_eq_false negative, if_neg Bool.false_ne_true, if_pos (by omega), size]

/-- An integer of 64 bits is read back. -/
theorem Spelling.integer?_ofInt {n : Int} (word : Number.IsWord n) :
    (ofInt n).literal.integer? = some n := by
  have size : ofDigits (ofInt n).literal.whole = n.natAbs := by
    show ofDigits (Numeral.values _) = _
    unfold Numeral.values
    rw [ofDigits_map]
    exact ofDigitChars_toString n.natAbs
  obtain ⟨least, most⟩ := word
  have sign : (ofInt n).literal.negative = decide (n < 0) := rfl
  have plain : (ofInt n).literal.fraction = none ∧ (ofInt n).literal.exponent = none := ⟨rfl, rfl⟩
  have wide : (1 <<< 63 : Nat) = 2 ^ 63 := by decide
  have bound : wordBound = 2 ^ 64 := by decide
  simp only [integer?, plain, size, sign, wide, bound]
  by_cases negative : n < 0
  · have fits : (n.natAbs ≠ 0 && n.natAbs ≤ 2 ^ 63) = true := by
      simp only [Bool.and_eq_true, decide_eq_true_eq]
      omega
    rw [decide_eq_true negative, if_pos rfl, if_pos fits]
    exact congrArg some (by omega)
  · rw [decide_eq_false negative, if_neg Bool.false_ne_true, if_pos (by omega)]
    exact congrArg some (by omega)

end Literal

/-! ## Reals -/

namespace Decimal

theorem digits_onGrid_ne_zero {tie : Tie} {i : Interval} {exponent : Int} {d : Decimal}
    (h : onGrid tie i exponent = some d) : d.digits ≠ 0 := by
  simp only [onGrid] at h
  split at h
  · next below =>
    obtain rfl := Option.some.inj h
    simp only [Bool.and_eq_true, bne_iff_ne] at below
    exact below.1.1
  · split at h
    · obtain rfl := Option.some.inj h
      exact Nat.succ_ne_zero _
    · cases h

theorem digits_firstHit_ne_zero {tie : Tie} {i : Interval} (positive : i.value ≠ 0) (count : Nat)
    (exponent : Int) : (firstHit tie i count exponent).digits ≠ 0 := by
  induction count generalizing exponent with
  | zero => exact positive
  | succ count ih =>
    simp only [firstHit]
    split
    · next hit => exact digits_onGrid_ne_zero hit
    · exact ih (exponent - 1)

theorem digits_dropZeros_ne_zero (count : Nat) {d : Decimal} (h : d.digits ≠ 0) :
    (dropZeros count d).digits ≠ 0 := by
  induction count generalizing d with
  | zero => exact h
  | succ count ih =>
    simp only [dropZeros]
    split
    · next round =>
      apply ih
      rw [beq_iff_eq] at round
      show d.digits / 10 ≠ 0
      omega
    · exact h

/-- No number but zero is written with the digit zero alone. -/
theorem digits_shortest_ne_zero (tie : Tie) {magnitude : Nat} (h : magnitude ≠ 0) :
    (shortest tie magnitude).digits ≠ 0 := by
  apply digits_dropZeros_ne_zero
  apply digits_firstHit_ne_zero
  have positive : Binary64.units magnitude ≠ 0 := by
    unfold Binary64.units Binary64.significandOf
    rw [Nat.shiftLeft_eq]
    apply Nat.mul_ne_zero
    · have octave := Binary64.octave_pos
      split
      · exact h
      · omega
    · exact Nat.pos_iff_ne_zero.mp (Nat.two_pow_pos _)
  show 4 * Binary64.units magnitude ≠ 0
  omega

variable {d : Decimal}

open Literal

/-- Digits that do not begin with a zero. -/
structure Leading (cs : List Char) : Prop where
  areDigits : ∀ c ∈ cs, c.isDigit = true
  nonempty : cs ≠ []
  nonzero : cs.head? ≠ some '0'

theorem leading_digits (h : d.digits ≠ 0) : Leading (Nat.repr d.digits).toList where
  areDigits _ hc := isDigit_of_mem_toString hc
  nonempty := toString_ne_nil d.digits
  nonzero first := h (eq_zero_of_padded d.digits (by rwa [Nat.toList_repr] at first))

namespace Leading

variable {cs : List Char} (h : Leading cs)

include h

theorem take {n : Nat} (some_taken : n ≠ 0) : Leading (cs.take n) where
  areDigits c hc := h.areDigits c (List.mem_of_mem_take hc)
  nonempty nothing := by
    rcases List.take_eq_nil_iff.mp nothing with none_taken | empty
    · exact some_taken none_taken
    · exact h.nonempty empty
  nonzero := by
    rw [List.head?_take, if_neg some_taken]
    exact h.nonzero

theorem append_zeros (n : Nat) : Leading (cs ++ List.replicate n '0') where
  areDigits c hc := by
    rcases List.mem_append.mp hc with own | zero
    · exact h.areDigits c own
    · obtain ⟨-, rfl⟩ := List.mem_replicate.mp zero
      decide
  nonempty nothing := h.nonempty (List.append_eq_nil_iff.mp nothing).1
  nonzero := by
    rcases cs with _ | ⟨c, cs⟩
    · exact absurd rfl h.nonempty
    · exact h.nonzero

/-- Such digits can stand before a point. -/
def whole : Whole := ⟨⟨cs, h.areDigits, h.nonempty⟩, fun first => absurd first h.nonzero⟩

end Leading

/-- Digits in place always show a point. -/
theorem exists_spelling_placed (h : d.digits ≠ 0) (negative : Bool) :
    ∃ s : Spelling, s.negative = negative ∧ s.unsignedChars = (placed true d).toList ∧
      s.fraction.isSome = true := by
  have leading := leading_digits h
  unfold placed
  generalize (Nat.repr d.digits).toList = digits at leading ⊢
  simp only
  split
  · refine ⟨⟨negative, (leading.append_zeros d.exponent.toNat).whole,
      some (Whole.ofNat 0).toNumeral, none⟩, rfl, ?_, rfl⟩
    simp [Spelling.unsignedChars, Spelling.fractionChars, Spelling.exponentChars, Leading.whole,
      Whole.chars_zero]
  · next fractional =>
    split
    · next inside =>
      let point := (digits.length + d.exponent).toNat
      have short : point < digits.length := by omega
      let behind : Numeral := ⟨digits.drop point,
        fun c hc => leading.areDigits c (List.mem_of_mem_drop hc), by
          rw [ne_eq, List.drop_eq_nil_iff]
          omega⟩
      refine ⟨⟨negative, (leading.take (n := point) (by omega)).whole, some behind, none⟩,
        rfl, ?_, rfl⟩
      simp [Spelling.unsignedChars, Spelling.fractionChars, Spelling.exponentChars, Leading.whole,
        behind, point]
    · let behind : Numeral :=
        ⟨List.replicate (-(digits.length + d.exponent)).toNat '0' ++ digits, by
          intro c hc
          rcases List.mem_append.mp hc with zero | own
          · obtain ⟨-, rfl⟩ := List.mem_replicate.mp zero
            decide
          · exact leading.areDigits c own,
        fun nothing => leading.nonempty (List.append_eq_nil_iff.mp nothing).2⟩
      refine ⟨⟨negative, .ofNat 0, some behind, none⟩, rfl, ?_, rfl⟩
      simp [Spelling.unsignedChars, Spelling.fractionChars, Spelling.exponentChars,
        Whole.chars_zero, behind]

/-- One digit before the point, and an exponent. -/
theorem exists_spelling_withExponent (h : d.digits ≠ 0) (negative : Bool) :
    ∃ s : Spelling, s.negative = negative ∧ s.unsignedChars = (withExponent d).toList ∧
      s.exponent.isSome = true := by
  have leading := leading_digits h
  unfold withExponent
  generalize (Nat.repr d.digits).toList = digits at leading ⊢
  simp only
  generalize digits.length + d.exponent - 1 = lead
  let front := (leading.take Nat.one_ne_zero).whole
  let exponent : Bool × Numeral := (decide (lead < 0), (Whole.ofNat lead.natAbs).toNumeral)
  have written : (if exponent.1 then '-' else '+') :: exponent.2.chars =
      (if 0 ≤ lead then '+' else '-') :: (Nat.repr lead.natAbs).toList := by
    refine congrArg₂ List.cons ?_ rfl
    show (if decide (lead < 0) = true then '-' else '+') = _
    by_cases small : lead < 0
    · rw [decide_eq_true small, if_pos rfl, if_neg (by omega)]
    · rw [decide_eq_false small, if_neg Bool.false_ne_true, if_pos (by omega)]
  rcases hbehind : digits.drop 1 with _ | ⟨c, more⟩
  · refine ⟨⟨negative, front, none, some exponent⟩, rfl, ?_, rfl⟩
    simp only [Spelling.unsignedChars, Spelling.fractionChars, Spelling.exponentChars, written]
    rw [String.toList_ofList]
    rfl
  · let behind : Numeral := ⟨c :: more, fun d hd => leading.areDigits d
      (List.mem_of_mem_drop (hbehind ▸ hd)), List.cons_ne_nil c more⟩
    refine ⟨⟨negative, front, some behind, some exponent⟩, rfl, ?_, rfl⟩
    simp only [Spelling.unsignedChars, Spelling.fractionChars, Spelling.exponentChars, written]
    rw [String.toList_ofList]
    rfl

/-- Positive reals show a point or an exponent. -/
theorem exists_spelling_text (h : d.digits ≠ 0) (negative : Bool) :
    ∃ s : Spelling, s.negative = negative ∧ s.unsignedChars = (jsonLayout.text d).toList ∧
      (s.fraction.isSome = true ∨ s.exponent.isSome = true) := by
  unfold Layout.text jsonLayout
  simp only
  split
  · obtain ⟨s, sign, text, point⟩ := exists_spelling_placed h negative
    exact ⟨s, sign, text, .inl point⟩
  · obtain ⟨s, sign, text, exponent⟩ := exists_spelling_withExponent h negative
    exact ⟨s, sign, text, .inr exponent⟩

/-- **Every real is written as a literal with a point or an exponent.** -/
theorem exists_spelling_number (x : Binary64) :
    ∃ s : Spelling, s.chars = (jsonLayout.number x).toList ∧
      (s.fraction.isSome = true ∨ s.exponent.isSome = true) := by
  have written : ∀ (s : Spelling) (text : String), s.negative = x.negative →
      s.unsignedChars = text.toList →
      s.chars = ((if x.negative then "-" else "") ++ text).toList := by
    intro s text sign unsigned
    unfold Spelling.chars
    rw [sign, unsigned, String.toList_append]
    split
    · rfl
    · rfl
  unfold Layout.number
  simp only
  split
  · let zero : Spelling := ⟨x.negative, .ofNat 0, some (Whole.ofNat 0).toNumeral, none⟩
    exact ⟨zero, written zero "0.0" rfl rfl, .inl rfl⟩
  · next nonzero =>
    rw [beq_iff_eq] at nonzero
    have positive := digits_shortest_ne_zero jsonLayout.tie nonzero
    obtain ⟨s, sign, text, kind⟩ := exists_spelling_text positive x.negative
    exact ⟨s, written s _ sign text, kind⟩

end Decimal

end PacedPurge
