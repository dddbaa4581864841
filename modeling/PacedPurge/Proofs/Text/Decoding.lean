import PacedPurge.Text.Octets

/-!
# Octets and texts

Reading octets and writing a text as octets undo each other.  Octets that can be read are the octets
of the text that was read (`octets_of_ofOctets`): the reader accepts no overlong form, so there is
one way to write each character, and two different keys of a store never stand for the same record.
And what is written can be read (`ofOctets_octets`), so the key of a record always names it.

Each length of a character has lemmas of its own; `octets_of_charsFrom` and `charsFrom_octets` are
the inductions over the reader and over the text that put them together.
-/

namespace PacedPurge.Text

/-! ## Writing one character -/

theorem val_ofNat_of_valid {n : Nat} (h : n.isValidChar) : (Char.ofNat n).val.toNat = n := by
  rw [Char.ofNat, dif_pos h]
  rfl

theorem ofNat_eq_octet {n : Nat} {b : UInt8} (h : n = b.toNat) : UInt8.ofNat n = b := by
  rw [h, UInt8.ofNat_toNat]

/-- The values of a continuing octet. -/
theorem bounds_of_isTail {b : UInt8} (h : isTail b) : 128 ≤ b.toNat ∧ b.toNat < 192 := by
  simp only [isTail, Bool.and_eq_true, decide_eq_true_eq, UInt8.le_iff_toNat_le] at h
  simp only [UInt8.reduceToNat] at h
  omega

/-- The second octet of three continues the character, and keeps it out of the shorter forms and
of the surrogates. -/
theorem bounds_of_secondOfThree {a b : UInt8} (h : secondOfThree a b) :
    (128 ≤ b.toNat ∧ b.toNat < 192) ∧ (a.toNat = 224 → 160 ≤ b.toNat) ∧
      (a.toNat = 237 → b.toNat < 160) := by
  unfold secondOfThree isTail at h
  simp only [← UInt8.toNat_inj] at h
  split at h
  · simp only [Bool.and_eq_true, decide_eq_true_eq, UInt8.le_iff_toNat_le, UInt8.reduceToNat] at *
    omega
  · split at h <;>
      simp only [Bool.and_eq_true, decide_eq_true_eq, UInt8.le_iff_toNat_le,
        UInt8.reduceToNat] at * <;>
      omega

/-- The second octet of four continues the character, and keeps it out of the shorter forms and
within the code points. -/
theorem bounds_of_secondOfFour {a b : UInt8} (h : secondOfFour a b) :
    (128 ≤ b.toNat ∧ b.toNat < 192) ∧ (a.toNat = 240 → 144 ≤ b.toNat) ∧
      (a.toNat = 244 → b.toNat < 144) := by
  unfold secondOfFour isTail at h
  simp only [← UInt8.toNat_inj] at h
  split at h
  · simp only [Bool.and_eq_true, decide_eq_true_eq, UInt8.le_iff_toNat_le, UInt8.reduceToNat] at *
    omega
  · split at h <;>
      simp only [Bool.and_eq_true, decide_eq_true_eq, UInt8.le_iff_toNat_le,
        UInt8.reduceToNat] at * <;>
      omega

theorem encode_one {a : UInt8} (ha : a < 0x80) :
    String.utf8EncodeChar (Char.ofNat a.toNat) = [a] := by
  simp only [UInt8.lt_iff_toNat_lt, UInt8.reduceToNat] at ha
  have hv : a.toNat.isValidChar := Or.inl (by omega)
  rw [String.utf8EncodeChar, val_ofNat_of_valid hv]
  rw [if_pos (by omega), UInt8.ofNat_toNat]

theorem encode_two {a b : UInt8} (ha : 0xC2 ≤ a ∧ a ≤ 0xDF) (hb : isTail b) :
    String.utf8EncodeChar (Char.ofNat (a.toNat % 32 * 64 + tailBits b)) = [a, b] := by
  have tail := bounds_of_isTail hb
  simp only [UInt8.le_iff_toNat_le, UInt8.reduceToNat] at ha
  unfold tailBits
  have hv : (a.toNat % 32 * 64 + b.toNat % 64).isValidChar := Or.inl (by omega)
  rw [String.utf8EncodeChar, val_ofNat_of_valid hv]
  rw [if_neg (by omega), if_pos (by omega)]
  rw [ofNat_eq_octet (b := a) (by omega), ofNat_eq_octet (b := b) (by omega)]

theorem encode_three {a b c : UInt8} (ha : 0xE0 ≤ a ∧ a ≤ 0xEF) (hb : secondOfThree a b)
    (hc : isTail c) :
    String.utf8EncodeChar
      (Char.ofNat ((a.toNat % 16 * 64 + tailBits b) * 64 + tailBits c)) = [a, b, c] := by
  have tail := bounds_of_isTail hc
  obtain ⟨second, low, high⟩ := bounds_of_secondOfThree hb
  simp only [UInt8.le_iff_toNat_le, UInt8.reduceToNat] at ha
  unfold tailBits
  have hv : ((a.toNat % 16 * 64 + b.toNat % 64) * 64 + c.toNat % 64).isValidChar := by
    unfold Nat.isValidChar
    omega
  rw [String.utf8EncodeChar, val_ofNat_of_valid hv]
  rw [if_neg (by omega), if_neg (by omega), if_pos (by omega)]
  rw [ofNat_eq_octet (b := a) (by omega), ofNat_eq_octet (b := b) (by omega),
    ofNat_eq_octet (b := c) (by omega)]

theorem encode_four {a b c d : UInt8} (ha : 0xF0 ≤ a ∧ a ≤ 0xF4) (hb : secondOfFour a b)
    (hc : isTail c) (hd : isTail d) :
    String.utf8EncodeChar
      (Char.ofNat (((a.toNat % 8 * 64 + tailBits b) * 64 + tailBits c) * 64 + tailBits d))
        = [a, b, c, d] := by
  have third := bounds_of_isTail hc
  have fourth := bounds_of_isTail hd
  obtain ⟨second, low, high⟩ := bounds_of_secondOfFour hb
  simp only [UInt8.le_iff_toNat_le, UInt8.reduceToNat] at ha
  unfold tailBits
  have hv : (((a.toNat % 8 * 64 + b.toNat % 64) * 64 + c.toNat % 64) * 64
      + d.toNat % 64).isValidChar := by
    unfold Nat.isValidChar
    omega
  rw [String.utf8EncodeChar, val_ofNat_of_valid hv]
  rw [if_neg (by omega), if_neg (by omega), if_neg (by omega)]
  rw [ofNat_eq_octet (b := a) (by omega), ofNat_eq_octet (b := b) (by omega),
    ofNat_eq_octet (b := c) (by omega), ofNat_eq_octet (b := d) (by omega)]

/-! ## What is read is what was written -/

/-- What a character adds to a reading that goes on well. -/
theorem exists_of_map_cons {c : Char} {read : Except OctetFault (List Char)} {cs : List Char}
    (h : (c :: ·) <$> read = .ok cs) : ∃ rest, read = .ok rest ∧ cs = c :: rest := by
  cases read with
  | error fault => cases h
  | ok rest => exact ⟨rest, rfl, (Except.ok.inj h).symm⟩

/-- The characters that are read from octets write these octets. -/
theorem octets_of_charsFrom (index : Nat) (bytes : List UInt8) {cs : List Char}
    (h : charsFrom index bytes = .ok cs) : cs.flatMap String.utf8EncodeChar = bytes := by
  -- The induction follows the reader; only the four cases that read a character survive.
  fun_induction charsFrom index bytes generalizing cs <;> try (cases h; done)
  case case1 => cases h; rfl
  case case2 ha ih =>
    obtain ⟨rest, hrest, rfl⟩ := exists_of_map_cons h
    rw [List.flatMap_cons, encode_one ha, ih hrest, List.singleton_append]
  case case4 ha _ _ hb ih =>
    obtain ⟨rest, hrest, rfl⟩ := exists_of_map_cons h
    simp only [Bool.and_eq_true, decide_eq_true_eq] at ha
    rw [List.flatMap_cons, encode_two ha hb, ih hrest]
    rfl
  case case8 ha _ hb _ _ hc ih =>
    obtain ⟨rest, hrest, rfl⟩ := exists_of_map_cons h
    simp only [Bool.and_eq_true, decide_eq_true_eq] at ha
    rw [List.flatMap_cons, encode_three ha hb hc, ih hrest]
    rfl
  case case14 ha _ hb _ hc _ _ hd ih =>
    obtain ⟨rest, hrest, rfl⟩ := exists_of_map_cons h
    simp only [Bool.and_eq_true, decide_eq_true_eq] at ha
    rw [List.flatMap_cons, encode_four ha hb hc hd, ih hrest]
    rfl

/-- **Decoding loses nothing.** Octets that write a text are the octets of that text. -/
theorem octets_of_ofOctets {bytes : List UInt8} {s : String} (h : ofOctets bytes = .ok s) :
    octets s = bytes := by
  unfold ofOctets at h
  cases hread : charsFrom 0 bytes with
  | error fault =>
    rw [hread] at h
    cases h
  | ok cs =>
    rw [hread] at h
    cases h
    rw [octets, String.toList_ofList]
    exact octets_of_charsFrom 0 bytes hread

/-! ## What is written is read -/

theorem toNat_ofNat_of_lt {n : Nat} (h : n < 256) : (UInt8.ofNat n).toNat = n := by
  rw [UInt8.toNat_ofNat']
  exact Nat.mod_eq_of_lt h

theorem isTail_ofNat {n : Nat} (low : 128 ≤ n) (high : n < 192) : isTail (UInt8.ofNat n) := by
  simp only [isTail, Bool.and_eq_true, decide_eq_true_eq, UInt8.le_iff_toNat_le,
    UInt8.reduceToNat, toNat_ofNat_of_lt (show n < 256 by omega)]
  omega

theorem secondOfThree_ofNat {a : UInt8} {n : Nat} (low : 128 ≤ n) (high : n < 192)
    (short : a.toNat = 224 → 160 ≤ n) (surrogate : a.toNat = 237 → n < 160) :
    secondOfThree a (UInt8.ofNat n) := by
  unfold secondOfThree
  simp only [← UInt8.toNat_inj]
  split
  · simp only [Bool.and_eq_true, decide_eq_true_eq, UInt8.le_iff_toNat_le, UInt8.reduceToNat,
      toNat_ofNat_of_lt (show n < 256 by omega)] at *
    omega
  · split
    · simp only [Bool.and_eq_true, decide_eq_true_eq, UInt8.le_iff_toNat_le, UInt8.reduceToNat,
        toNat_ofNat_of_lt (show n < 256 by omega)] at *
      omega
    · exact isTail_ofNat low high

theorem secondOfFour_ofNat {a : UInt8} {n : Nat} (low : 128 ≤ n) (high : n < 192)
    (short : a.toNat = 240 → 144 ≤ n) (beyond : a.toNat = 244 → n < 144) :
    secondOfFour a (UInt8.ofNat n) := by
  unfold secondOfFour
  simp only [← UInt8.toNat_inj]
  split
  · simp only [Bool.and_eq_true, decide_eq_true_eq, UInt8.le_iff_toNat_le, UInt8.reduceToNat,
      toNat_ofNat_of_lt (show n < 256 by omega)] at *
    omega
  · split
    · simp only [Bool.and_eq_true, decide_eq_true_eq, UInt8.le_iff_toNat_le, UInt8.reduceToNat,
        toNat_ofNat_of_lt (show n < 256 by omega)] at *
      omega
    · exact isTail_ofNat low high

theorem charsFrom_one (index : Nat) {a : UInt8} (rest : List UInt8) (ha : a.toNat < 128) :
    charsFrom index (a :: rest) = (Char.ofNat a.toNat :: ·) <$> charsFrom (index + 1) rest := by
  have within : a < 0x80 := by simpa only [UInt8.lt_iff_toNat_lt, UInt8.reduceToNat] using ha
  rw [charsFrom.eq_def]
  simp only [if_pos within]

theorem charsFrom_two (index : Nat) {a b : UInt8} (rest : List UInt8)
    (ha : 194 ≤ a.toNat ∧ a.toNat ≤ 223) (hb : isTail b) :
    charsFrom index (a :: b :: rest) =
      (Char.ofNat (a.toNat % 32 * 64 + tailBits b) :: ·) <$> charsFrom (index + 2) rest := by
  have h0 : ¬ a < 0x80 := by simp only [UInt8.lt_iff_toNat_lt, UInt8.reduceToNat]; omega
  have h1 : (decide (0xC2 ≤ a) && decide (a ≤ 0xDF)) = true := by
    simpa only [Bool.and_eq_true, decide_eq_true_eq, UInt8.le_iff_toNat_le,
      UInt8.reduceToNat] using ha
  rw [charsFrom.eq_def]
  simp only [if_neg h0, if_pos h1, if_pos hb]

theorem charsFrom_three (index : Nat) {a b c : UInt8} (rest : List UInt8)
    (ha : 224 ≤ a.toNat ∧ a.toNat ≤ 239) (hb : secondOfThree a b) (hc : isTail c) :
    charsFrom index (a :: b :: c :: rest) =
      (Char.ofNat ((a.toNat % 16 * 64 + tailBits b) * 64 + tailBits c) :: ·) <$>
        charsFrom (index + 3) rest := by
  have h0 : ¬ a < 0x80 := by simp only [UInt8.lt_iff_toNat_lt, UInt8.reduceToNat]; omega
  have h1 : ¬ (decide (0xC2 ≤ a) && decide (a ≤ 0xDF)) = true := by
    simp only [Bool.and_eq_true, decide_eq_true_eq, UInt8.le_iff_toNat_le, UInt8.reduceToNat]
    omega
  have h2 : (decide (0xE0 ≤ a) && decide (a ≤ 0xEF)) = true := by
    simpa only [Bool.and_eq_true, decide_eq_true_eq, UInt8.le_iff_toNat_le,
      UInt8.reduceToNat] using ha
  rw [charsFrom.eq_def]
  simp only [if_neg h0, if_neg h1, if_pos h2, if_pos hb, if_pos hc]

theorem charsFrom_four (index : Nat) {a b c d : UInt8} (rest : List UInt8)
    (ha : 240 ≤ a.toNat ∧ a.toNat ≤ 244) (hb : secondOfFour a b) (hc : isTail c)
    (hd : isTail d) :
    charsFrom index (a :: b :: c :: d :: rest) =
      (Char.ofNat (((a.toNat % 8 * 64 + tailBits b) * 64 + tailBits c) * 64 + tailBits d) :: ·) <$>
        charsFrom (index + 4) rest := by
  have h0 : ¬ a < 0x80 := by simp only [UInt8.lt_iff_toNat_lt, UInt8.reduceToNat]; omega
  have h1 : ¬ (decide (0xC2 ≤ a) && decide (a ≤ 0xDF)) = true := by
    simp only [Bool.and_eq_true, decide_eq_true_eq, UInt8.le_iff_toNat_le, UInt8.reduceToNat]
    omega
  have h2 : ¬ (decide (0xE0 ≤ a) && decide (a ≤ 0xEF)) = true := by
    simp only [Bool.and_eq_true, decide_eq_true_eq, UInt8.le_iff_toNat_le, UInt8.reduceToNat]
    omega
  have h3 : (decide (0xF0 ≤ a) && decide (a ≤ 0xF4)) = true := by
    simpa only [Bool.and_eq_true, decide_eq_true_eq, UInt8.le_iff_toNat_le,
      UInt8.reduceToNat] using ha
  rw [charsFrom.eq_def]
  simp only [if_neg h0, if_neg h1, if_neg h2, if_pos h3, if_pos hb, if_pos hc, if_pos hd]

theorem tailBits_ofNat {n : Nat} (low : 128 ≤ n) (high : n < 192) :
    tailBits (UInt8.ofNat n) = n - 128 := by
  rw [tailBits, toNat_ofNat_of_lt (by omega)]
  omega

/-- The code points that are characters. -/
theorem val_bounds (c : Char) :
    c.val.toNat < 55296 ∨ 57343 < c.val.toNat ∧ c.val.toNat < 1114112 := c.valid

theorem ofNat_of_eq_val {c : Char} {n : Nat} (h : n = c.val.toNat) : Char.ofNat n = c := by
  rw [h]
  exact Char.ofNat_toNat c

/-- One character of a writing is read back, whatever follows. -/
theorem charsFrom_encode (index : Nat) (c : Char) (rest : List UInt8) :
    ∃ next, charsFrom index (String.utf8EncodeChar c ++ rest) =
      (c :: ·) <$> charsFrom next rest := by
  have valid := val_bounds c
  have back : ∀ n, n = c.val.toNat → Char.ofNat n = c := fun _ => ofNat_of_eq_val
  rw [String.utf8EncodeChar]
  generalize c.val.toNat = v at valid back ⊢
  by_cases h1 : v ≤ 127
  · have first := toNat_ofNat_of_lt (show v < 256 by omega)
    rw [if_pos h1, List.singleton_append, charsFrom_one index rest (by omega), first, back v rfl]
    exact ⟨_, rfl⟩
  rw [if_neg h1]
  by_cases h2 : v ≤ 2047
  · have first := toNat_ofNat_of_lt (show v / 64 % 32 + 192 < 256 by omega)
    rw [if_pos h2]
    simp only [List.cons_append, List.nil_append]
    rw [charsFrom_two index rest (by omega) (isTail_ofNat (by omega) (by omega)), first,
      tailBits_ofNat (by omega) (by omega), back _ (by omega)]
    exact ⟨_, rfl⟩
  rw [if_neg h2]
  by_cases h3 : v ≤ 65535
  · have first := toNat_ofNat_of_lt (show v / 4096 % 16 + 224 < 256 by omega)
    rw [if_pos h3]
    simp only [List.cons_append, List.nil_append]
    rw [charsFrom_three index rest (by omega)
        (secondOfThree_ofNat (by omega) (by omega) (by omega) (by omega))
        (isTail_ofNat (by omega) (by omega)), first,
      tailBits_ofNat (by omega) (by omega), tailBits_ofNat (by omega) (by omega), back _ (by omega)]
    exact ⟨_, rfl⟩
  · have first := toNat_ofNat_of_lt (show v / 262144 % 8 + 240 < 256 by omega)
    rw [if_neg h3]
    simp only [List.cons_append, List.nil_append]
    rw [charsFrom_four index rest (by omega)
        (secondOfFour_ofNat (by omega) (by omega) (by omega) (by omega))
        (isTail_ofNat (by omega) (by omega)) (isTail_ofNat (by omega) (by omega)), first,
      tailBits_ofNat (by omega) (by omega), tailBits_ofNat (by omega) (by omega),
      tailBits_ofNat (by omega) (by omega), back _ (by omega)]
    exact ⟨_, rfl⟩

theorem charsFrom_octets (cs : List Char) (index : Nat) :
    charsFrom index (cs.flatMap String.utf8EncodeChar) = .ok cs := by
  induction cs generalizing index with
  | nil => rw [List.flatMap_nil, charsFrom.eq_def]
  | cons c cs ih =>
    obtain ⟨next, hread⟩ := charsFrom_encode index c (cs.flatMap String.utf8EncodeChar)
    rw [List.flatMap_cons, hread, ih next]
    rfl

/-- **What is written can be read.** -/
theorem ofOctets_octets (s : String) : ofOctets (octets s) = .ok s := by
  rw [ofOctets, octets, charsFrom_octets]
  exact congrArg Except.ok String.ofList_toList

end PacedPurge.Text
