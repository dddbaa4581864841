import PacedPurge.Proofs.Json.Spelling

/-!
# Reading what was written

The compact text of a value is read again (`Json.parse_compact`).  Every character of a string comes
back from its escape, and every value from its characters, whatever stands behind them that could
not go on with a number.  Integers come back as they were and reals as reals, so the value that is
read is the one that was written with its reals read anew (`Json.reread`).  This holds of all values
that a reader can have read (`Json.Fits`): with distinct keys no member replaces another, and the
depth that was enough for the first text is enough for the second.

Whether a real is read back as itself is another matter (`Binary64.ReadsBack`).  It is the only one:
a value is read back exactly if each of its reals is (`Json.reread_eq_self_iff`).
-/

namespace PacedPurge

open Literal (Ends)

/-! ## Numbers -/

/-- The real that the text of a real is read as, none if it is too large. -/
def Binary64.reread (x : Binary64) : Option Binary64 :=
  (Literal.scan (Decimal.jsonLayout.number x).toList).bind fun r => r.1.real?

/-- The text of the real is read as that real. -/
def Binary64.ReadsBack (x : Binary64) : Prop := x.reread = some x

instance (x : Binary64) : Decidable x.ReadsBack := inferInstanceAs (Decidable (x.reread = some x))

/-- The number that the text of a number is read as. -/
def Number.reread : Number → Option Number
  | .integer n => some (.integer n)
  | .real x => x.reread.map .real

/-- Integers have 64 bits. -/
def Number.Fits : Number → Prop
  | .integer n => IsWord n
  | .real _ => True

theorem Literal.ends_nil : Ends [] := nofun

theorem Literal.ends_cons {c : Char}
    (h : c.isDigit = false ∧ c ≠ '.' ∧ c ≠ 'e' ∧ c ≠ 'E') (rest : List Char) :
    Ends (c :: rest) := by
  intro d hd
  obtain rfl := Option.some.inj hd
  exact h

/-- **The text of a number** is scanned up to its end as a literal that writes the number it is read
as: an integer as itself, and a real as a real. -/
theorem Number.exists_scan_text {n : Number} (fits : n.Fits) :
    ∃ s : Literal.Spelling, s.chars = n.text.toList ∧ s.literal.number? = n.reread := by
  rcases n with n | x
  · refine ⟨.ofInt n, Literal.Spelling.chars_ofInt n, ?_⟩
    simp only [Literal.number?, Literal.Spelling.integer?_ofInt fits, reread]
  · obtain ⟨s, written, kind⟩ := Decimal.exists_spelling_number x
    refine ⟨s, written, ?_⟩
    have scanned := s.scan_chars Literal.ends_nil
    rw [List.append_nil, written] at scanned
    simp only [Literal.number?, s.integer?_literal kind, reread, Binary64.reread, scanned,
      Option.bind_some]

/-! ## Members -/

namespace Members

theorem put_of_not_mem {ms : Members} {key : String} (h : key ∉ ms.keys) (value : Json) :
    put ms key value = ms ++ [(key, value)] := by
  induction ms with
  | nil => rfl
  | cons m ms ih =>
    obtain ⟨own, others⟩ := not_or.mp (mt List.mem_cons.mpr h)
    have differs : (m.1 == key) = false := beq_false_of_ne fun same => own same.symm
    simp only [put, differs, Bool.false_eq_true, if_false, ih others, List.cons_append]

/-- Members with distinct keys stay as they are. -/
theorem collapse_of_nodup {ms : Members} (distinct : ms.keys.Nodup) : ms.collapse = ms := by
  have onto : ∀ (ms front : Members), (front ++ ms).keys.Nodup →
      ms.foldl (fun acc m => put acc m.1 m.2) front = front ++ ms := by
    intro ms
    induction ms with
    | nil => exact fun front _ => (List.append_nil front).symm
    | cons m ms ih =>
      intro front distinct
      have fresh : m.1 ∉ front.keys := by
        simp only [keys, List.map_append, List.map_cons] at distinct
        exact fun there => (List.nodup_append.mp distinct).2.2 _ there _ List.mem_cons_self rfl
      rw [List.foldl_cons, put_of_not_mem fresh, ih _ (by rwa [List.append_assoc]),
        List.append_assoc]
      rfl
  exact onto ms [] distinct

end Members

namespace Json

/-! ## Strings -/

/-- The escape of a control character. -/
theorem hexUnit?_control :
    ∀ n < 32, hexUnit? '0' '0' (hexChar (n / 16)) (hexChar (n % 16)) = some n := by
  decide

/-- One character of a string is read back. -/
theorem readString_stringChar (c : Char) (tail : List Char) :
    readString (stringChar c ++ tail) = (readString tail).map fun r => (c :: r.1, r.2) := by
  unfold stringChar
  split
  · next h => subst h; simp [readString, escaped?]
  split
  · next h => subst h; simp [readString, escaped?]
  split
  · next h => subst h; simp [readString, escaped?]
  split
  · next h => subst h; simp [readString, escaped?]
  split
  · next h => subst h; simp [readString, escaped?]
  split
  · next h => subst h; simp [readString, escaped?]
  split
  · next h => subst h; simp [readString, escaped?]
  split
  · next control =>
    have low : isHighSurrogate c.toNat = false ∧ isLowSurrogate c.toNat = false := by
      unfold isHighSurrogate isLowSurrogate
      constructor
      · rw [Bool.and_eq_false_iff, decide_eq_false_iff_not]
        exact .inl (by omega)
      · rw [Bool.and_eq_false_iff, decide_eq_false_iff_not]
        exact .inl (by omega)
    simp only [List.cons_append, List.nil_append, readString, hexUnit?_control _ control, low]
    simp
  · next quote backslash _ _ _ _ _ control =>
    have plain : (decide (c.toNat < 0x20) || decide (c = '\\')) = false := by
      rw [decide_eq_false control, decide_eq_false backslash]
      rfl
    rw [List.singleton_append]
    conv_lhs => unfold readString
    split
    · next heq => cases heq
    · next heq => exact absurd (List.cons.inj heq).1 quote
    · next heq => exact absurd (List.cons.inj heq).1 backslash
    · next heq => exact absurd (List.cons.inj heq).1 backslash
    · next heq =>
      obtain ⟨rfl, rfl⟩ := List.cons.inj heq
      rw [plain, if_neg Bool.false_ne_true]

/-- **A string is read back** up to its closing quote. -/
theorem readString_flatMap (cs rest : List Char) :
    readString (cs.flatMap stringChar ++ '"' :: rest) = some (cs, rest) := by
  induction cs with
  | nil => simp [readString]
  | cons c cs ih =>
    rw [List.flatMap_cons, List.append_assoc, readString_stringChar, ih]
    rfl

/-! ## Values -/

/-- **What a reader can have read** that may still enter so many levels: keys of an object are
distinct, and integers have 64 bits. -/
inductive Fits : Nat → Json → Prop
  | null {depth : Nat} : Fits depth .null
  | bool {depth : Nat} {b : Bool} : Fits depth (.bool b)
  | number {depth : Nat} {n : Number} (fits : n.Fits) : Fits depth (.number n)
  | string {depth : Nat} {s : String} : Fits depth (.string s)
  | array {depth : Nat} {es : List Json} (elements : ∀ e ∈ es, Fits depth e) :
      Fits (depth + 1) (.array es)
  | object {depth : Nat} {ms : Members} (distinct : ms.keys.Nodup)
      (values : ∀ m ∈ ms, Fits depth m.2) : Fits (depth + 1) (.object ms)

mutual

/-- The value that the text of a value is read as: what is read anew are its reals. -/
def reread : Json → Option Json
  | .number n => n.reread.map .number
  | .array es => (rereadElements es).map .array
  | .object ms => (rereadMembers ms).map .object
  | other => some other

def rereadElements : List Json → Option (List Json)
  | [] => some []
  | e :: es => (reread e).bind fun e => (rereadElements es).map (e :: ·)

def rereadMembers : List (String × Json) → Option (List (String × Json))
  | [] => some []
  | (k, v) :: ms => (reread v).bind fun v => (rereadMembers ms).map ((k, v) :: ·)

end

/-- A character with which a value can begin: no blank, and no closing bracket. -/
def Begins (c : Char) : Prop := c ≠ ' ' ∧ c ≠ '\n' ∧ c ≠ '\t' ∧ c ≠ '\r' ∧ c ≠ ']'

instance : DecidablePred Begins := fun c =>
  inferInstanceAs (Decidable (c ≠ ' ' ∧ c ≠ '\n' ∧ c ≠ '\t' ∧ c ≠ '\r' ∧ c ≠ ']'))

theorem skipBlanks_cons {c : Char} (h : Begins c) (rest : List Char) :
    skipBlanks (c :: rest) = c :: rest := by
  obtain ⟨space, feed, tab, back, -⟩ := h
  simp [skipBlanks, space, feed, tab, back]

theorem keys_rereadMembers {ms values : Members} (h : rereadMembers ms = some values) :
    values.keys = ms.keys := by
  induction ms generalizing values with
  | nil =>
    obtain rfl := Option.some.inj h
    rfl
  | cons m ms ih =>
    obtain ⟨k, v⟩ := m
    rw [rereadMembers] at h
    obtain ⟨value, -, h⟩ := Option.bind_eq_some_iff.mp h
    obtain ⟨more, hmore, rfl⟩ := Option.map_eq_some_iff.mp h
    exact congrArg (k :: ·) (ih hmore)

/-- The text of a value is read at a depth, whatever comes behind it that could not go on with it.
-/
structure IsReread (depth : Nat) (j : Json) : Prop where
  begins : ∃ c more, chars j = c :: more ∧ Begins c
  reads : ∀ (fuel : Nat) (rest : List Char), (chars j).length ≤ fuel → Ends rest →
    readValue fuel depth (chars j ++ rest) = (reread j).map (·, rest)

/-- Fuel for more than so much is fuel for a step and so much. -/
theorem exists_step {size fuel : Nat} (enough : size < fuel) :
    ∃ fuel', fuel = fuel' + 1 ∧ size ≤ fuel' :=
  ⟨fuel - 1, by omega, by omega⟩

section Reading

variable {depth : Nat}

theorem ne_of_first {c d : Char} (first : c = '-' ∨ c.isDigit = true)
    (other : d ≠ '-' ∧ d.isDigit = false) : c ≠ d := by
  obtain ⟨sign, digit⟩ := other
  rintro rfl
  rcases first with minus | own
  · exact sign minus
  · exact Bool.false_ne_true (digit.symm.trans own)

theorem begins_of_first {c : Char} (first : c = '-' ∨ c.isDigit = true) : Begins c :=
  ⟨ne_of_first first (by decide), ne_of_first first (by decide), ne_of_first first (by decide),
    ne_of_first first (by decide), ne_of_first first (by decide)⟩

/-- What begins with a minus or a digit is read as a number. -/
theorem readValue_of_first {c : Char} (first : c = '-' ∨ c.isDigit = true) (fuel : Nat)
    (more : List Char) :
    readValue (fuel + 1) depth (c :: more) =
      (Literal.scan (c :: more)).bind fun r => r.1.number?.map fun n => (.number n, r.2) := by
  unfold readValue
  rw [skipBlanks_cons (begins_of_first first)]
  split
  · next heq => exact absurd (List.cons.inj heq).1 (ne_of_first first (by decide))
  · next heq => exact absurd (List.cons.inj heq).1 (ne_of_first first (by decide))
  · next heq => exact absurd (List.cons.inj heq).1 (ne_of_first first (by decide))
  · next heq => exact absurd (List.cons.inj heq).1 (ne_of_first first (by decide))
  · next heq => exact absurd (List.cons.inj heq).1 (ne_of_first first (by decide))
  · next heq => exact absurd (List.cons.inj heq).1 (ne_of_first first (by decide))
  · rcases Literal.scan (c :: more) with _ | r
    · rfl
    · rfl

theorem isReread_number {n : Number} (fits : n.Fits) : IsReread depth (.number n) := by
  obtain ⟨s, written, same⟩ := Number.exists_scan_text fits
  obtain ⟨c, more, begins, first⟩ := s.exists_first
  have text : chars (.number n) = c :: more := written.symm.trans begins
  refine ⟨⟨c, more, text, begins_of_first first⟩,
    fun fuel rest enough ends => ?_⟩
  have scanned := s.scan_chars ends
  rw [text] at enough ⊢
  rw [begins] at scanned
  obtain ⟨fuel, rfl, -⟩ := exists_step enough
  rw [List.cons_append, readValue_of_first first fuel, ← List.cons_append, scanned]
  simp only [Option.bind_some, same, reread, Option.map_map]
  rfl

theorem isReread_null : IsReread depth .null := by
  refine ⟨⟨'n', _, rfl, by decide⟩, fun fuel rest enough _ => ?_⟩
  obtain ⟨fuel, rfl, -⟩ := exists_step enough
  rfl

theorem isReread_bool (b : Bool) : IsReread depth (.bool b) := by
  rcases b with _ | _
  · refine ⟨⟨'f', _, rfl, by decide⟩, fun fuel rest enough _ => ?_⟩
    obtain ⟨fuel, rfl, -⟩ := exists_step enough
    rfl
  · refine ⟨⟨'t', _, rfl, by decide⟩, fun fuel rest enough _ => ?_⟩
    obtain ⟨fuel, rfl, -⟩ := exists_step enough
    rfl

theorem stringChars_append (s : String) (rest : List Char) :
    stringChars s ++ rest = '"' :: (s.toList.flatMap stringChar ++ '"' :: rest) := by
  simp [stringChars]

theorem isReread_string (s : String) : IsReread depth (.string s) := by
  refine ⟨⟨'"', _, rfl, by decide⟩, fun fuel rest enough _ => ?_⟩
  obtain ⟨fuel, rfl, -⟩ := exists_step enough
  have read := readString_flatMap s.toList rest
  show readValue (fuel + 1) depth (stringChars s ++ rest) = _
  rw [stringChars_append]
  show (readString _).map _ = _
  rw [read]
  simp [reread]

/-- An element is read anew; behind the last one the array is closed. -/
theorem readElements_last {e : Json} (h : IsReread depth e) {fuel : Nat}
    (left : (chars e).length ≤ fuel) (rest : List Char) :
    readElements (fuel + 1) depth (chars e ++ ']' :: rest) =
      (reread e).map fun value => ([value], rest) := by
  have read := h.reads fuel (']' :: rest) left (Literal.ends_cons (by decide) rest)
  simp only [readElements, read]
  rcases reread e with _ | value
  · rfl
  · rfl

theorem readElements_more {e : Json} (h : IsReread depth e) {fuel : Nat}
    (left : (chars e).length ≤ fuel) (rest : List Char) :
    readElements (fuel + 1) depth (chars e ++ ',' :: rest) = (reread e).bind fun value =>
      (readElements fuel depth rest).map fun r => (value :: r.1, r.2) := by
  have read := h.reads fuel (',' :: rest) left (Literal.ends_cons (by decide) rest)
  simp only [readElements, read]
  rcases reread e with _ | value
  · rfl
  · rfl

/-- The elements of an array are read anew one by one. -/
theorem readElements_chars {e : Json} {es : List Json} (h : ∀ x ∈ e :: es, IsReread depth x)
    {fuel : Nat} (rest : List Char) (enough : (chars e ++ elementChars es).length ≤ fuel) :
    readElements fuel depth (chars e ++ (elementChars es ++ rest)) =
      (rereadElements (e :: es)).map (·, rest) := by
  have first := h e List.mem_cons_self
  induction es generalizing e fuel with
  | nil =>
    have size : (chars e).length < fuel := by simpa [elementChars] using enough
    obtain ⟨fuel, rfl, left⟩ := exists_step size
    rw [elementChars, List.singleton_append, readElements_last first left, rereadElements]
    rcases reread e with _ | value
    · rfl
    · rfl
  | cons e' es ih =>
    have size : (chars e).length + (chars e' ++ elementChars es).length < fuel := by
      simp only [elementChars, List.length_append, List.length_cons] at enough ⊢
      omega
    obtain ⟨fuel, rfl, left⟩ := exists_step size
    have later : ∀ x ∈ e' :: es, IsReread depth x := fun x hx => h x (List.mem_cons_of_mem e hx)
    have others := @ih e' later fuel (by omega) (later e' List.mem_cons_self)
    have behind : elementChars (e' :: es) ++ rest =
        ',' :: (chars e' ++ (elementChars es ++ rest)) := by
      simp [elementChars]
    rw [behind, rereadElements, readElements_more first (by omega), others]
    rcases reread e with _ | value
    · rfl
    · rcases rereadElements (e' :: es) with _ | values
      · rfl
      · rfl

/-- What does not close an array at once is read as its elements. -/
theorem readValue_array {c : Char} (begins : Begins c) (fuel : Nat) (cs : List Char) :
    readValue (fuel + 1) (depth + 2) ('[' :: c :: cs) =
      (readElements fuel (depth + 1) (c :: cs)).map fun r => (.array r.1, r.2) := by
  have deep : ¬depth + 2 ≤ 1 := by omega
  have bracket : Begins '[' := by decide
  simp only [readValue, skipBlanks_cons bracket, skipBlanks_cons begins, if_neg deep]
  split
  · next heq => exact absurd (List.cons.inj heq).1 begins.2.2.2.2
  · rfl

/-- An array is read anew if its elements are. -/
theorem isReread_array {es : List Json} (h : ∀ x ∈ es, IsReread (depth + 1) x) :
    IsReread (depth + 2) (.array es) := by
  rcases es with _ | ⟨e, es⟩
  · refine ⟨⟨'[', _, rfl, by decide⟩, fun fuel rest enough _ => ?_⟩
    obtain ⟨fuel, rfl, -⟩ := exists_step enough
    rfl
  · refine ⟨⟨'[', _, rfl, by decide⟩, fun fuel rest enough _ => ?_⟩
    have text : chars (.array (e :: es)) = '[' :: (chars e ++ elementChars es) := by
      simp [chars]
    rw [text] at enough ⊢
    obtain ⟨fuel, rfl, left⟩ := exists_step enough
    have read := readElements_chars h rest left
    obtain ⟨c, more, first, begins⟩ := (h e List.mem_cons_self).begins
    rw [List.cons_append, List.append_assoc]
    rw [first, List.cons_append] at read ⊢
    rw [readValue_array begins, read]
    simp only [reread, Option.map_map]
    rfl

/-- A member is read anew; behind the last one the object is closed. -/
theorem readMembers_last {m : String × Json} (h : IsReread depth m.2) {fuel : Nat}
    (left : (chars m.2).length ≤ fuel) (rest : List Char) :
    readMembers (fuel + 1) depth (stringChars m.1 ++ ':' :: (chars m.2 ++ '\x7d' :: rest)) =
      (reread m.2).map fun value => ([(m.1, value)], rest) := by
  have key := readString_flatMap m.1.toList (':' :: (chars m.2 ++ '\x7d' :: rest))
  have value := h.reads fuel ('\x7d' :: rest) left (Literal.ends_cons (by decide) rest)
  rw [stringChars_append]
  simp only [readMembers, skipBlanks_cons (by decide : Begins '"'), key,
    skipBlanks_cons (by decide : Begins ':'), value]
  rcases reread m.2 with _ | value
  · rfl
  · simp only [Option.map_some, String.ofList_toList]
    rfl

theorem readMembers_more {m : String × Json} (h : IsReread depth m.2) {fuel : Nat}
    (left : (chars m.2).length ≤ fuel) (rest : List Char) :
    readMembers (fuel + 1) depth (stringChars m.1 ++ ':' :: (chars m.2 ++ ',' :: rest)) =
      (reread m.2).bind fun value =>
        (readMembers fuel depth rest).map fun r => ((m.1, value) :: r.1, r.2) := by
  have key := readString_flatMap m.1.toList (':' :: (chars m.2 ++ ',' :: rest))
  have value := h.reads fuel (',' :: rest) left (Literal.ends_cons (by decide) rest)
  rw [stringChars_append]
  simp only [readMembers, skipBlanks_cons (by decide : Begins '"'), key,
    skipBlanks_cons (by decide : Begins ':'), value]
  rcases reread m.2 with _ | value
  · rfl
  · simp only [Option.map_some, String.ofList_toList]
    rfl

/-- The members of an object are read anew one by one. -/
theorem readMembers_chars {m : String × Json} {ms : Members}
    (h : ∀ x ∈ m :: ms, IsReread depth x.2) {fuel : Nat} (rest : List Char)
    (enough : (stringChars m.1 ++ ':' :: chars m.2 ++ memberChars ms).length ≤ fuel) :
    readMembers fuel depth (stringChars m.1 ++ ':' :: (chars m.2 ++ (memberChars ms ++ rest))) =
      (rereadMembers (m :: ms)).map (·, rest) := by
  have first := h m List.mem_cons_self
  induction ms generalizing m fuel with
  | nil =>
    have size : (chars m.2).length < fuel := by
      simp only [memberChars, List.length_append, List.length_cons] at enough
      omega
    obtain ⟨fuel, rfl, left⟩ := exists_step size
    rw [memberChars, List.singleton_append, readMembers_last first left, rereadMembers]
    rcases reread m.2 with _ | value
    · rfl
    · rfl
  | cons m' ms ih =>
    have size : (chars m.2).length +
        (stringChars m'.1 ++ ':' :: chars m'.2 ++ memberChars ms).length < fuel := by
      simp only [memberChars, List.length_append, List.length_cons] at enough ⊢
      omega
    obtain ⟨fuel, rfl, left⟩ := exists_step size
    have later : ∀ x ∈ m' :: ms, IsReread depth x.2 := fun x hx => h x (List.mem_cons_of_mem m hx)
    have others := @ih m' later fuel (by omega) (later m' List.mem_cons_self)
    have behind : memberChars (m' :: ms) ++ rest =
        ',' :: (stringChars m'.1 ++ ':' :: (chars m'.2 ++ (memberChars ms ++ rest))) := by
      simp [memberChars]
    rw [behind, rereadMembers, readMembers_more first (by omega), others]
    rcases reread m.2 with _ | value
    · rfl
    · rcases rereadMembers (m' :: ms) with _ | values
      · rfl
      · rfl

/-- An object is read anew if its values are. -/
theorem isReread_object {ms : Members} (distinct : ms.keys.Nodup)
    (h : ∀ x ∈ ms, IsReread (depth + 1) x.2) : IsReread (depth + 2) (.object ms) := by
  rcases ms with _ | ⟨m, ms⟩
  · refine ⟨⟨'\x7b', _, rfl, by decide⟩, fun fuel rest enough _ => ?_⟩
    obtain ⟨fuel, rfl, -⟩ := exists_step enough
    rfl
  · refine ⟨⟨'\x7b', _, rfl, by decide⟩, fun fuel rest enough _ => ?_⟩
    have text : chars (.object (m :: ms)) =
        '\x7b' :: (stringChars m.1 ++ ':' :: chars m.2 ++ memberChars ms) := by
      simp [chars]
    rw [text] at enough ⊢
    obtain ⟨fuel, rfl, left⟩ := exists_step enough
    have read := readMembers_chars h rest left
    have opened : ∀ cs, readValue (fuel + 1) (depth + 2) ('\x7b' :: '"' :: cs) =
        (readMembers fuel (depth + 1) ('"' :: cs)).map fun r =>
          (.object (Members.collapse r.1), r.2) := fun _ => rfl
    have behind : stringChars m.1 ++ ':' :: chars m.2 ++ memberChars ms ++ rest =
        stringChars m.1 ++ ':' :: (chars m.2 ++ (memberChars ms ++ rest)) := by
      simp
    rw [List.cons_append, behind]
    rw [stringChars_append] at read ⊢
    rw [opened, read, reread]
    rcases hread : rereadMembers (m :: ms) with _ | values
    · rfl
    · have same : Members.keys values = Members.keys (m :: ms) := keys_rereadMembers hread
      have kept := Members.collapse_of_nodup (same ▸ distinct)
      simp only [Option.map_some, kept]

/-- **A value that a reader can have read is read anew.** -/
theorem Fits.isReread {j : Json} (h : Fits depth j) : IsReread (depth + 1) j := by
  induction h with
  | null => exact isReread_null
  | bool => exact isReread_bool _
  | number fits => exact isReread_number fits
  | string => exact isReread_string _
  | array _ ih => exact isReread_array ih
  | object distinct _ ih => exact isReread_object distinct ih

end Reading

/-- **The compact text of a value** is read as the value with its reals read anew. -/
theorem parse_compact {j : Json} (h : Fits (maxDepth - 1) j) : parse j.compact = j.reread := by
  have read : readValue (2 * (chars j).length + 2) maxDepth (chars j ++ []) =
      j.reread.map (·, []) :=
    h.isReread.reads _ [] (by omega) Literal.ends_nil
  rw [List.append_nil] at read
  unfold parse compact parseChars
  rw [String.toList_ofList, read]
  rcases reread j with _ | value
  · rfl
  · rfl

/-! ## Reals -/

mutual

/-- The reals of a value. -/
def reals : Json → List Binary64
  | .number (.real x) => [x]
  | .array es => realsOfElements es
  | .object ms => realsOfMembers ms
  | _ => []

def realsOfElements : List Json → List Binary64
  | [] => []
  | e :: es => reals e ++ realsOfElements es

def realsOfMembers : List (String × Json) → List Binary64
  | [] => []
  | (_, v) :: ms => reals v ++ realsOfMembers ms

end

mutual

/-- **A value is read anew as itself** exactly if each of its reals is. -/
theorem reread_eq_self_iff : ∀ j : Json, j.reread = some j ↔ ∀ x ∈ j.reals, x.ReadsBack
  | .null => by simp [reread, reals]
  | .bool _ => by simp [reread, reals]
  | .number (.integer _) => by simp [reread, reals, Number.reread]
  | .number (.real x) => by simp [reread, reals, Number.reread, Binary64.ReadsBack]
  | .string _ => by simp [reread, reals]
  | .array es => by simp [reread, reals, rereadElements_eq_self_iff es]
  | .object ms => by simp [reread, reals, rereadMembers_eq_self_iff ms]

theorem rereadElements_eq_self_iff :
    ∀ es : List Json, rereadElements es = some es ↔ ∀ x ∈ realsOfElements es, x.ReadsBack
  | [] => by simp [rereadElements, realsOfElements]
  | e :: es => by
    have first := reread_eq_self_iff e
    have others := rereadElements_eq_self_iff es
    simp [rereadElements, realsOfElements, Option.bind_eq_some_iff, or_imp, forall_and, ← first,
      ← others]

theorem rereadMembers_eq_self_iff :
    ∀ ms : List (String × Json), rereadMembers ms = some ms ↔ ∀ x ∈ realsOfMembers ms, x.ReadsBack
  | [] => by simp [rereadMembers, realsOfMembers]
  | (k, v) :: ms => by
    have first := reread_eq_self_iff v
    have others := rereadMembers_eq_self_iff ms
    simp [rereadMembers, realsOfMembers, Option.bind_eq_some_iff, or_imp, forall_and, ← first,
      ← others]

end

end Json

end PacedPurge
