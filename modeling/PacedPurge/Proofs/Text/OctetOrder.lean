import PacedPurge.Store.Keyed

/-!
# The order of octets is the order of texts

Octets are ordered like the texts that they write, character by character by code point
(`octets_compare`).  Longer forms of a character begin with greater octets, and within one form the
octets are the digits of the code point, the highest first (`octets_lt_of_char_lt`).  So a store
that keeps records by the octets of their ids keeps them in the order of their ids
(`KeyedStore.compare_keyOf`).
-/

namespace PacedPurge

namespace Text

variable {xs ys : List UInt8}

/-! ## One octet -/

/-- The first octets decide, or those that follow do. -/
theorem octets_lt_of_head {a b : Nat} (ha : a < 256) (hb : b < 256)
    (h : a < b ∨ a = b ∧ compare xs ys = .lt) :
    compare (UInt8.ofNat a :: xs) (UInt8.ofNat b :: ys) = .lt := by
  rw [List.compare_cons_cons]
  obtain hlt | ⟨rfl, hrest⟩ := h
  · have first : compare (UInt8.ofNat a) (UInt8.ofNat b) = .lt := by
      rw [Std.compare_eq_lt, UInt8.lt_iff_toNat_lt, UInt8.toNat_ofNat', UInt8.toNat_ofNat']
      omega
    rw [first]
    rfl
  · have first : compare (UInt8.ofNat a) (UInt8.ofNat a) = .eq := Std.ReflCmp.compare_self
    rw [first, hrest]
    rfl

/-! ## One character -/

section Digits

variable {v w : Nat}

/-- Code points that differ, in the form of two octets. -/
theorem two_octets_lt (h : v < w) (hw : w ≤ 2047) :
    compare (UInt8.ofNat (v / 64 % 32 + 192) :: UInt8.ofNat (v % 64 + 128) :: xs)
      (UInt8.ofNat (w / 64 % 32 + 192) :: UInt8.ofNat (w % 64 + 128) :: ys) = .lt := by
  refine octets_lt_of_head (by omega) (by omega) ?_
  by_cases high : v / 64 = w / 64
  · exact .inr ⟨by omega, octets_lt_of_head (by omega) (by omega) (.inl (by omega))⟩
  · exact .inl (by omega)

/-- Code points that differ, in the form of three octets. -/
theorem three_octets_lt (h : v < w) (hw : w ≤ 65535) :
    compare
      (UInt8.ofNat (v / 4096 % 16 + 224) :: UInt8.ofNat (v / 64 % 64 + 128) ::
        UInt8.ofNat (v % 64 + 128) :: xs)
      (UInt8.ofNat (w / 4096 % 16 + 224) :: UInt8.ofNat (w / 64 % 64 + 128) ::
        UInt8.ofNat (w % 64 + 128) :: ys) = .lt := by
  refine octets_lt_of_head (by omega) (by omega) ?_
  by_cases high : v / 4096 = w / 4096
  · refine .inr ⟨by omega, octets_lt_of_head (by omega) (by omega) ?_⟩
    by_cases middle : v / 64 = w / 64
    · exact .inr ⟨by omega, octets_lt_of_head (by omega) (by omega) (.inl (by omega))⟩
    · exact .inl (by omega)
  · exact .inl (by omega)

/-- Code points that differ, in the form of four octets. -/
theorem four_octets_lt (h : v < w) (hw : w < 1114112) :
    compare
      (UInt8.ofNat (v / 262144 % 8 + 240) :: UInt8.ofNat (v / 4096 % 64 + 128) ::
        UInt8.ofNat (v / 64 % 64 + 128) :: UInt8.ofNat (v % 64 + 128) :: xs)
      (UInt8.ofNat (w / 262144 % 8 + 240) :: UInt8.ofNat (w / 4096 % 64 + 128) ::
        UInt8.ofNat (w / 64 % 64 + 128) :: UInt8.ofNat (w % 64 + 128) :: ys) = .lt := by
  refine octets_lt_of_head (by omega) (by omega) ?_
  by_cases high : v / 262144 = w / 262144
  · refine .inr ⟨by omega, octets_lt_of_head (by omega) (by omega) ?_⟩
    by_cases upper : v / 4096 = w / 4096
    · refine .inr ⟨by omega, octets_lt_of_head (by omega) (by omega) ?_⟩
      by_cases lower : v / 64 = w / 64
      · exact .inr ⟨by omega, octets_lt_of_head (by omega) (by omega) (.inl (by omega))⟩
      · exact .inl (by omega)
    · exact .inl (by omega)
  · exact .inl (by omega)

end Digits

/-- The octets of a lesser character are less, whatever follows. -/
theorem octets_lt_of_char_lt {c d : Char} (h : c < d) :
    compare (String.utf8EncodeChar c ++ xs) (String.utf8EncodeChar d ++ ys) = .lt := by
  have value : c.val.toNat < d.val.toNat := h
  have bound : d.val.toNat < 1114112 := by
    have := d.valid
    unfold UInt32.isValidChar Nat.isValidChar at this
    omega
  generalize hv : c.val.toNat = v at value
  generalize hw : d.val.toNat = w at value bound
  unfold String.utf8EncodeChar
  simp only [hv, hw]
  -- Where the forms differ, the lesser character has the shorter one.
  split
  · split
    · exact octets_lt_of_head (by omega) (by omega) (.inl value)
    · split
      · exact octets_lt_of_head (by omega) (by omega) (.inl (by omega))
      · split <;> exact octets_lt_of_head (by omega) (by omega) (.inl (by omega))
  · rw [if_neg (by omega : ¬w ≤ 127)]
    split
    · split
      · exact two_octets_lt value (by omega)
      · split <;> exact octets_lt_of_head (by omega) (by omega) (.inl (by omega))
    · rw [if_neg (by omega : ¬w ≤ 2047)]
      split
      · split
        · exact three_octets_lt value (by omega)
        · exact octets_lt_of_head (by omega) (by omega) (.inl (by omega))
      · rw [if_neg (by omega : ¬w ≤ 65535)]
        exact four_octets_lt value bound

/-! ## Texts -/

theorem utf8EncodeChar_ne_nil (c : Char) : String.utf8EncodeChar c ≠ [] := by
  unfold String.utf8EncodeChar
  simp only
  split
  · simp
  · split
    · simp
    · split <;> simp

/-- Octets that begin alike compare as what follows. -/
theorem compare_append_left (front : List UInt8) :
    compare (front ++ xs) (front ++ ys) = compare xs ys := by
  induction front with
  | nil => rfl
  | cons b front ih =>
    have first : compare b b = .eq := Std.ReflCmp.compare_self
    rw [List.cons_append, List.cons_append, List.compare_cons_cons, first, ih]
    rfl

theorem octets_lt_of_chars_lt {cs ds : List Char} (h : cs < ds) :
    compare (cs.flatMap String.utf8EncodeChar) (ds.flatMap String.utf8EncodeChar) = .lt := by
  have lex : List.Lex (· < ·) cs ds := h
  induction lex with
  | nil =>
    rename_i d ds
    rw [List.flatMap_nil, List.flatMap_cons]
    cases hd : String.utf8EncodeChar d with
    | nil => exact absurd hd (utf8EncodeChar_ne_nil d)
    | cons => rfl
  | rel hlt =>
    rw [List.flatMap_cons, List.flatMap_cons]
    exact octets_lt_of_char_lt hlt
  | cons hrest ih =>
    rw [List.flatMap_cons, List.flatMap_cons, compare_append_left]
    exact ih hrest

theorem octets_lt_of_lt {s t : String} (h : compare s t = .lt) :
    compare (octets s) (octets t) = .lt := by
  have less : s < t := compareOfLessAndEq_eq_lt.mp h
  exact octets_lt_of_chars_lt (String.lt_iff.mp less)

/-- **Octets compare as the texts do.** -/
theorem octets_compare (s t : String) : compare (octets s) (octets t) = compare s t := by
  cases h : compare s t with
  | lt => exact octets_lt_of_lt h
  | eq =>
    rw [Std.LawfulEqOrd.eq_of_compare h]
    exact Std.ReflCmp.compare_self
  | gt => exact Std.OrientedCmp.gt_of_lt (octets_lt_of_lt (Std.OrientedCmp.lt_of_gt h))

end Text

/-- Keys compare as the ids do. -/
theorem KeyedStore.compare_keyOf (a b : RecordId) : compare (keyOf a) (keyOf b) = compare a b :=
  Text.octets_compare a.text b.text

end PacedPurge
