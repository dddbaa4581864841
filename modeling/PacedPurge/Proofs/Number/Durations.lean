import Mathlib.Algebra.GroupWithZero.Nat
import PacedPurge.Duration
import PacedPurge.Proofs.Number.Digits

/-!
# Durations as text

A duration is written as groups, each a count with a unit, from years down to nanoseconds, with a
blank between two of them (`Duration.text_eq`).  The counts are those of the mixed units, so the
groups sum up to the duration (`Duration.sum_groups`).

The reader takes one group after the other and adds it to what it has read.  It refuses whatever
exceeds its words on the way.  But no sum on the way is larger than the last one, and below the
second every group is less than a second, so a duration whose whole seconds fit in 64 bits is read
back from its text (`Duration.parse_text`).  Conversely, all that is read is such a duration
(`Duration.seconds_lt_of_parse`).
-/

namespace PacedPurge.Duration

/-! ## Characters -/

theorem isDigit_eq (c : Char) : isDigit c = c.isDigit := between_digits c

theorem isUnitChar_iff_toNat {c : Char} : isUnitChar c = true ↔
    97 ≤ c.toNat ∧ c.toNat ≤ 122 ∨ 65 ≤ c.toNat ∧ c.toNat ≤ 90 ∨ c.toNat = 181 := by
  have micro : c = 'µ' ↔ c.toNat = 181 := Char.toNat_inj.symm
  simp only [isUnitChar, Char.le_def, UInt32.le_iff_toNat_le, Char.toNat_val, Bool.or_eq_true,
    Bool.and_eq_true, decide_eq_true_eq, micro, or_assoc]
  rfl

/-- None of the characters that a duration is written with is a blank. -/
theorem not_isBlank {c : Char} (written : c.isDigit = true ∨ isUnitChar c = true) :
    Text.isBlank c = false := by
  rw [Char.isDigit_iff_toNat, isUnitChar_iff_toNat] at written
  have codes : 48 ≤ c.toNat ∧ c.toNat ≤ 122 ∨ c.toNat = 181 := by
    have digits : '0'.toNat = 48 ∧ '9'.toNat = 57 := ⟨rfl, rfl⟩
    omega
  simp only [Text.isBlank, Text.CodeRanges.holds, Text.blankRanges, List.any_cons, List.any_nil,
    Bool.or_false, Bool.or_eq_false_iff, Bool.and_eq_false_iff, decide_eq_false_iff_not]
  omega

theorem isDigit_of_isUnitChar {c : Char} (letter : isUnitChar c = true) : c.isDigit = false := by
  rw [isUnitChar_iff_toNat] at letter
  rw [← Bool.not_eq_true, Char.isDigit_iff_toNat]
  have digits : '0'.toNat = 48 ∧ '9'.toNat = 57 := ⟨rfl, rfl⟩
  omega

/-! ## Groups -/

/-- Whether a text spells the unit, in letters only. -/
structure TimeUnit.SpeltBy (unit : TimeUnit) (spelling : String) : Prop where
  spelt : ofSpelling? spelling = some unit
  letters : spelling.toList.all isUnitChar
  named : spelling.toList ≠ []

/-- A count of a unit, and how the unit is spelt. -/
structure Group where
  count : Nat
  unit : TimeUnit
  spelling : String

namespace Group

/-- The text of a group. -/
def text (g : Group) : String := toString g.count ++ g.spelling

/-- A group in nanoseconds. -/
def nanos (g : Group) : Nat := g.unit.nanos * g.count

/-- A count of a unit that takes an `s` above one. -/
def plural (count : Nat) (unit : TimeUnit) (name : String) : Group :=
  ⟨count, unit, if 1 < count then name ++ "s" else name⟩

/-- Whether a reader takes the group for what it is: its unit is spelt well, and below the second it
comes to less than a second. -/
structure Regular (g : Group) : Prop where
  spelt : g.unit.SpeltBy g.spelling
  part : g.unit.wholeGrain = 1 → g.nanos < perSecond

theorem regular_plural {unit : TimeUnit} {name : String} (count : Nat)
    (one : unit.SpeltBy name) (many : unit.SpeltBy (name ++ "s")) (whole : unit.wholeGrain ≠ 1) :
    (plural count unit name).Regular := by
  refine ⟨?_, fun grain => absurd grain whole⟩
  unfold plural
  by_cases several : 1 < count
  · rw [if_pos several]
    exact many
  · rw [if_neg several]
    exact one

end Group

/-- The groups of whole seconds. -/
def wholeGroups (secs : Nat) : List Group :=
  let inYear := secs % 31557600
  let inMonth := inYear % 2630016
  let inDay := inMonth % 86400
  [.plural (secs / 31557600) .year "year", .plural (inYear / 2630016) .month "month",
    .plural (inMonth / 86400) .day "day", ⟨inDay / 3600, .hour, "h"⟩,
    ⟨inDay % 3600 / 60, .minute, "m"⟩, ⟨inDay % 60, .second, "s"⟩]

/-- The groups of the nanoseconds beyond. -/
def partGroups (sub : Nat) : List Group :=
  [⟨sub / 1000000, .millisecond, "ms"⟩, ⟨sub / 1000 % 1000, .microsecond, "us"⟩,
    ⟨sub % 1000, .nanosecond, "ns"⟩]

/-- The groups of a duration, with those of which there is nothing. -/
def groups (d : Duration) : List Group := wholeGroups d.seconds ++ partGroups d.subsecond

theorem regular_wholeGroups (secs : Nat) : ∀ g ∈ wholeGroups secs, g.Regular := by
  have whole : perSecond ≠ 1 := by decide
  intro g hg
  simp only [wholeGroups, List.mem_cons, List.not_mem_nil, or_false] at hg
  obtain rfl | rfl | rfl | rfl | rfl | rfl := hg
  · exact Group.regular_plural _ ⟨by decide, by decide, by decide⟩
      ⟨by decide, by decide, by decide⟩ whole
  · exact Group.regular_plural _ ⟨by decide, by decide, by decide⟩
      ⟨by decide, by decide, by decide⟩ whole
  · exact Group.regular_plural _ ⟨by decide, by decide, by decide⟩
      ⟨by decide, by decide, by decide⟩ whole
  · have hour : TimeUnit.hour.SpeltBy "h" := ⟨by decide, by decide, by decide⟩
    exact ⟨hour, fun grain => absurd grain whole⟩
  · have minute : TimeUnit.minute.SpeltBy "m" := ⟨by decide, by decide, by decide⟩
    exact ⟨minute, fun grain => absurd grain whole⟩
  · have second : TimeUnit.second.SpeltBy "s" := ⟨by decide, by decide, by decide⟩
    exact ⟨second, fun grain => absurd grain whole⟩

theorem sum_partGroups (sub : Nat) : ((partGroups sub).map Group.nanos).sum = sub := by
  show 1000000 * (sub / 1000000) + (1000 * (sub / 1000 % 1000) + (1 * (sub % 1000) + 0)) = sub
  omega

theorem regular_partGroups {sub : Nat} (below : sub < perSecond) :
    ∀ g ∈ partGroups sub, g.Regular := by
  intro g hg
  have total := sum_partGroups sub
  simp only [partGroups, List.map_cons, List.map_nil, List.sum_cons, List.sum_nil] at total
  simp only [partGroups, List.mem_cons, List.not_mem_nil, or_false] at hg
  obtain rfl | rfl | rfl := hg
  · have milli : TimeUnit.millisecond.SpeltBy "ms" := ⟨by decide, by decide, by decide⟩
    exact ⟨milli, fun _ => by omega⟩
  · have micro : TimeUnit.microsecond.SpeltBy "us" := ⟨by decide, by decide, by decide⟩
    exact ⟨micro, fun _ => by omega⟩
  · have nano : TimeUnit.nanosecond.SpeltBy "ns" := ⟨by decide, by decide, by decide⟩
    exact ⟨nano, fun _ => by omega⟩

theorem sum_wholeGroups (secs : Nat) :
    ((wholeGroups secs).map Group.nanos).sum = perSecond * secs := by
  simp only [wholeGroups, Group.plural, List.map_cons, List.map_nil, List.sum_cons, List.sum_nil,
    Group.nanos, TimeUnit.nanos]
  generalize inDay : secs % 31557600 % 2630016 % 86400 = rest
  have counts : 31557600 * (secs / 31557600) + (2630016 * (secs % 31557600 / 2630016) +
      (86400 * (secs % 31557600 % 2630016 / 86400) + (3600 * (rest / 3600) +
        (60 * (rest % 3600 / 60) + rest % 60)))) = secs := by
    omega
  conv => rhs; rw [← counts]
  simp only [Nat.mul_add, Nat.mul_comm _ perSecond, Nat.mul_assoc, Nat.add_zero]

/-- **The groups of a duration sum up to it.** -/
theorem sum_groups (d : Duration) : (d.groups.map Group.nanos).sum = d.nanos := by
  rw [groups, List.map_append, List.sum_append, sum_wholeGroups, sum_partGroups]
  exact Nat.div_add_mod d.nanos perSecond

theorem regular_groups (d : Duration) : ∀ g ∈ d.groups, g.Regular := by
  intro g hg
  obtain whole | part := List.mem_append.mp hg
  · exact regular_wholeGroups d.seconds g whole
  · exact regular_partGroups (Nat.mod_lt d.nanos (by decide)) g part

/-! ## Writing -/

/-- The groups of which there is something. -/
def written (gs : List Group) : List Group := gs.filter fun g => g.count ≠ 0

theorem sum_written (gs : List Group) :
    ((written gs).map Group.nanos).sum = (gs.map Group.nanos).sum := by
  induction gs with
  | nil => rfl
  | cons g gs ih =>
    unfold written at ih ⊢
    by_cases none : g.count = 0
    · have nothing : g.nanos = 0 := by rw [Group.nanos, none, Nat.mul_zero]
      rw [List.filter_cons_of_neg (by simpa using none), ih, List.map_cons, List.sum_cons, nothing,
        Nat.zero_add]
    · rw [List.filter_cons_of_pos (by simpa using none), List.map_cons, List.sum_cons, ih,
        List.map_cons, List.sum_cons]

/-- The texts of the groups that are written, item by item. -/
theorem texts_written (gs : List Group) :
    (written gs).map Group.text = gs.flatMap fun g => item g.count g.spelling := by
  induction gs with
  | nil => rfl
  | cons g gs ih =>
    unfold written item at ih ⊢
    by_cases none : g.count = 0
    · rw [List.filter_cons_of_neg (by simpa using none), List.flatMap_cons, if_pos none, ih]
      rfl
    · rw [List.filter_cons_of_pos (by simpa using none), List.flatMap_cons, if_neg none,
        List.map_cons, ih]
      rfl

/-- **The text of a duration** is that of its groups, with a blank between two of them. -/
theorem text_eq {d : Duration} (something : d.nanos ≠ 0) :
    d.text = " ".intercalate ((written d.groups).map Group.text) := by
  rw [texts_written, groups, List.flatMap_append]
  simp only [text, if_neg something, wholeGroups, partGroups, Group.plural, itemPlural,
    List.flatMap_cons, List.flatMap_nil, List.append_nil, List.append_assoc]

/-! ## Reading a group -/

/-- A unit is whole grains. -/
theorem TimeUnit.whole_grains (unit : TimeUnit) :
    unit.nanos / unit.wholeGrain * unit.wholeGrain = unit.nanos := by
  cases unit <;> decide

theorem TimeUnit.wholeGrain_cases (unit : TimeUnit) :
    unit.wholeGrain = 1 ∨ unit.wholeGrain = perSecond := by
  cases unit with
  | nanosecond => exact .inl rfl
  | microsecond => exact .inl rfl
  | millisecond => exact .inl rfl
  | second => exact .inr rfl
  | minute => exact .inr rfl
  | hour => exact .inr rfl
  | day => exact .inr rfl
  | week => exact .inr rfl
  | month => exact .inr rfl
  | year => exact .inr rfl

theorem word?_eq_some {n : Nat} (fits : n < UInt64.size) : word? n = some n := if_pos fits

theorem add?_eq_some {total grain count : Nat}
    (part : grain = 1 → total % perSecond + count < UInt64.size)
    (fits : (total + count * grain) / perSecond < UInt64.size) :
    add? total grain count = some (total + count * grain) := by
  unfold add?
  by_cases fine : grain = 1
  · rw [if_pos fine, word?_eq_some (part fine), word?_eq_some fits]
    rfl
  · rw [if_neg fine, word?_eq_some fits]
    rfl

section Reading

variable {g : Group} {total : Nat}

/-- A group in the grains in which it is counted. -/
def Group.grains (g : Group) : Nat := g.count * (g.unit.nanos / g.unit.wholeGrain)

theorem Group.grains_mul (g : Group) : g.grains * g.unit.wholeGrain = g.nanos := by
  rw [grains, Nat.mul_assoc, g.unit.whole_grains, Nat.mul_comm]
  rfl

theorem Group.count_le_grains (g : Group) : g.count ≤ g.grains := by
  have positive : 0 < g.unit.nanos / g.unit.wholeGrain := by
    cases g.unit <;> decide
  exact Nat.le_mul_of_pos_right _ positive

theorem Group.Regular.grains_lt (regular : g.Regular) (fine : g.unit.wholeGrain = 1) :
    g.grains < perSecond := by
  have below := regular.part fine
  rwa [← g.grains_mul, fine, Nat.mul_one] at below

/-- The grains of a group fit in a word, if the group fits with what it is added to. -/
theorem Group.Regular.grains_fit (regular : g.Regular)
    (fits : (total + g.nanos) / perSecond < UInt64.size) : g.grains < UInt64.size := by
  obtain fine | whole := g.unit.wholeGrain_cases
  · exact Nat.lt_trans (regular.grains_lt fine) (by decide)
  · refine Nat.lt_of_le_of_lt ?_ fits
    rw [Nat.le_div_iff_mul_le (by decide), ← g.grains_mul, whole]
    exact Nat.le_add_left _ _

/-- A group is added to what has been read, if they fit together. -/
theorem addGroup_eq_some (regular : g.Regular)
    (fits : (total + g.nanos) / perSecond < UInt64.size) :
    addGroup total g.count none g.unit = some (total + g.nanos) := by
  have added : add? total g.unit.wholeGrain g.grains = some (total + g.nanos) := by
    rw [← g.grains_mul] at fits ⊢
    refine add?_eq_some (fun fine => ?_) fits
    have before : total % perSecond < perSecond := Nat.mod_lt _ (by decide)
    have sum := Nat.add_lt_add before (regular.grains_lt fine)
    exact Nat.lt_trans sum (by decide)
  show ((word? g.grains).bind fun count =>
    (add? total g.unit.wholeGrain count).bind some) = some (total + g.nanos)
  rw [word?_eq_some (regular.grains_fit fits), Option.bind_some, added, Option.bind_some]

/-- The digits of a number are read up to the unit. -/
theorem readNumber_of_digits {n : Nat} {digits : List Char} {c : Char} (rest : List Char)
    (decimal : ∀ d ∈ digits, d.isDigit = true) (letter : isUnitChar c = true)
    (fits : Nat.ofDigitChars 10 digits n < UInt64.size) :
    readNumber n (digits ++ c :: rest) = some (Nat.ofDigitChars 10 digits n, c :: rest) := by
  induction digits generalizing n with
  | nil =>
    have other : isDigit c = false := (isDigit_eq c).trans (isDigit_of_isUnitChar letter)
    rw [List.nil_append, readNumber, other, not_isBlank (.inr letter), letter]
    rfl
  | cons d digits ih =>
    have digit : isDigit d = true := (isDigit_eq d).trans (decimal d List.mem_cons_self)
    rw [Nat.ofDigitChars_cons] at fits ⊢
    have within : 10 * n + digitOf d < UInt64.size :=
      Nat.lt_of_le_of_lt (le_ofDigitChars digits _) fits
    rw [List.cons_append, readNumber, if_pos digit, word?_eq_some within]
    exact ih (fun d' hd => decimal d' (List.mem_cons_of_mem d hd)) fits

/-- What follows a group that is written: nothing, or a blank. -/
def Follows : List Char → Prop
  | [] => True
  | c :: _ => c = ' '

theorem takeWhile_spelling {spelling rest : List Char}
    (letters : ∀ c ∈ spelling, isUnitChar c = true) (follows : Follows rest) :
    (spelling ++ rest).takeWhile isUnitChar = spelling ∧
      (spelling ++ rest).dropWhile isUnitChar = rest := by
  rw [List.takeWhile_append_of_pos letters, List.dropWhile_append_of_pos letters]
  cases rest with
  | nil => exact ⟨List.append_nil _, rfl⟩
  | cons c rest =>
    cases follows
    exact ⟨List.append_nil _, rfl⟩

/-- What a group is written with: the digits of its count, and the letters of its unit. -/
theorem Group.Regular.exists_parts (regular : g.Regular) :
    ∃ d digits l letters, g.text.toList = d :: (digits ++ l :: letters) ∧
      (∀ c ∈ d :: digits, c.isDigit = true) ∧ Nat.ofDigitChars 10 digits (digitOf d) = g.count ∧
      g.spelling.toList = l :: letters ∧ isUnitChar l = true := by
  have decimal : ∀ c ∈ (toString g.count).toList, c.isDigit = true :=
    fun _ => isDigit_of_mem_toString
  have value := ofDigitChars_toString g.count
  obtain ⟨d, digits, figures⟩ := List.exists_cons_of_ne_nil (toString_ne_nil g.count)
  obtain ⟨l, letters, name⟩ := List.exists_cons_of_ne_nil regular.spelt.named
  rw [figures] at decimal value
  rw [Nat.ofDigitChars_cons, Nat.mul_zero, Nat.zero_add] at value
  have letter : isUnitChar l = true :=
    List.all_eq_true.mp regular.spelt.letters l (name ▸ List.mem_cons_self)
  refine ⟨d, digits, l, letters, ?_, decimal, value, name, letter⟩
  rw [Group.text, String.toList_append, figures, name]
  rfl

/-- **A group is read**, and what follows it is read from there. -/
theorem readGroups_group (regular : g.Regular)
    (fits : (total + g.nanos) / perSecond < UInt64.size) (fuel : Nat) {rest : List Char}
    (follows : Follows rest) :
    readGroups (fuel + 2) total (g.text.toList ++ rest) =
      readGroups (fuel + 1) (total + g.nanos) rest := by
  obtain ⟨d, digits, l, letters, parts, decimal, value, name, letter⟩ := regular.exists_parts
  have whole : g.text.toList ++ rest = d :: (digits ++ l :: (letters ++ rest)) := by
    rw [parts, List.cons_append, List.append_assoc]
    rfl
  have digit : isDigit d = true := (isDigit_eq d).trans (decimal d List.mem_cons_self)
  have start : (d :: (digits ++ l :: (letters ++ rest))).dropWhile Text.isBlank =
      d :: (digits ++ l :: (letters ++ rest)) :=
    List.dropWhile_cons_of_neg (by simp [not_isBlank (.inl (decimal d List.mem_cons_self))])
  have number : readNumber (digitOf d) (digits ++ l :: (letters ++ rest)) =
      some (g.count, l :: (letters ++ rest)) := by
    rw [readNumber_of_digits _ (fun c hc => decimal c (List.mem_cons_of_mem d hc)) letter, value]
    rw [value]
    exact Nat.lt_of_le_of_lt g.count_le_grains (regular.grains_fit fits)
  have even : readFraction? (l :: (letters ++ rest)) = some (none, l :: (letters ++ rest)) := by
    unfold readFraction?
    split
    · next point => cases point; cases letter
    · rfl
  obtain ⟨taken, left⟩ := takeWhile_spelling (List.all_eq_true.mp regular.spelt.letters) follows
  rw [name] at taken left
  rw [whole, readGroups, start]
  simp only [if_pos digit]
  rw [number]
  show (readFraction? (l :: (letters ++ rest))).bind _ = _
  rw [even]
  show (TimeUnit.ofSpelling?
    (String.ofList ((l :: letters ++ rest).takeWhile isUnitChar))).bind _ = _
  rw [taken, ← name, String.ofList_toList, regular.spelt.spelt]
  show (addGroup total g.count none g.unit).bind _ = _
  rw [addGroup_eq_some regular fits]
  show (match (l :: letters ++ rest).dropWhile isUnitChar with
    | [] => some (total + g.nanos)
    | c :: _ => if (isDigit c || Text.isBlank c) = true then
        readGroups (fuel + 1) (total + g.nanos) ((l :: letters ++ rest).dropWhile isUnitChar)
      else none) = _
  rw [left]
  cases rest with
  | nil => rfl
  | cons c rest =>
    cases follows
    rfl

end Reading

/-! ## Reading a text -/

theorem readGroups_blank (fuel total : Nat) (cs : List Char) :
    readGroups fuel total (' ' :: cs) = readGroups fuel total cs := by
  cases fuel with
  | zero => rfl
  | succ fuel => rfl

/-- **Groups are read one after the other**, and summed up. -/
theorem readGroups_intercalate {gs : List Group} (regular : ∀ g ∈ gs, g.Regular)
    {total fuel : Nat} (fits : (total + (gs.map Group.nanos).sum) / perSecond < UInt64.size)
    (enough : gs.length ≤ fuel) :
    readGroups (fuel + 1) total ([' '].intercalate (gs.map fun g => g.text.toList)) =
      some (total + (gs.map Group.nanos).sum) := by
  induction gs generalizing total fuel with
  | nil => rfl
  | cons g gs ih =>
    have first : g.Regular := regular g List.mem_cons_self
    have sum : ((g :: gs).map Group.nanos).sum = g.nanos + (gs.map Group.nanos).sum :=
      List.sum_cons
    rw [sum, ← Nat.add_assoc] at fits ⊢
    have within : (total + g.nanos) / perSecond < UInt64.size :=
      Nat.lt_of_le_of_lt (Nat.div_le_div_right (Nat.le_add_right _ _)) fits
    cases fuel with
    | zero => exact absurd enough (Nat.not_succ_le_zero _)
    | succ fuel =>
      have rest := ih (fun g' hg => regular g' (List.mem_cons_of_mem g hg)) fits
        (Nat.le_of_succ_le_succ enough)
      rw [List.map_cons]
      by_cases last : gs = []
      · subst last
        have ended : Follows [] := trivial
        rw [List.map_nil, List.intercalate_singleton, ← List.append_nil g.text.toList,
          readGroups_group first within fuel ended]
        exact rest
      · have parted : Follows (' ' :: [' '].intercalate (gs.map fun g => g.text.toList)) := rfl
        rw [List.intercalate_cons_of_ne_nil (by simpa using last), List.append_assoc]
        refine (readGroups_group first within fuel parted).trans ?_
        rw [readGroups_blank]
        exact rest

theorem mem_intercalate_of_mem_head {c : Char} {l : List Char} (ls : List (List Char))
    (h : c ∈ l) : c ∈ [' '].intercalate (l :: ls) := by
  by_cases last : ls = []
  · rw [last, List.intercalate_singleton]
    exact h
  · rw [List.intercalate_cons_of_ne_nil last, List.append_assoc]
    exact List.mem_append_left _ h

theorem length_le_intercalate {ls : List (List Char)} (named : ∀ l ∈ ls, l ≠ []) :
    ls.length ≤ ([' '].intercalate ls).length := by
  induction ls with
  | nil => exact Nat.le_refl 0
  | cons l ls ih =>
    have first : 0 < l.length := List.length_pos_iff.mpr (named l List.mem_cons_self)
    have rest := ih fun l' hl => named l' (List.mem_cons_of_mem l hl)
    by_cases last : ls = []
    · rw [last, List.intercalate_singleton]
      exact first
    · rw [List.intercalate_cons_of_ne_nil last, List.length_append, List.length_append,
        List.length_cons]
      omega

section Text

variable {d : Duration}

theorem regular_written (d : Duration) : ∀ g ∈ written d.groups, g.Regular := fun g hg =>
  d.regular_groups g (List.mem_filter.mp hg).1

theorem sum_written_groups (d : Duration) :
    ((written d.groups).map Group.nanos).sum = d.nanos := by
  rw [sum_written, sum_groups]

theorem toList_text (something : d.nanos ≠ 0) :
    d.text.toList = [' '].intercalate ((written d.groups).map fun g => g.text.toList) := by
  rw [text_eq something, String.toList_intercalate, List.map_map]
  rfl

theorem Group.Regular.text_ne_nil {g : Group} (regular : g.Regular) : g.text.toList ≠ [] := by
  obtain ⟨d, digits, l, letters, parts, -⟩ := regular.exists_parts
  rw [parts]
  exact List.cons_ne_nil _ _

/-- No text has more groups than characters. -/
theorem length_written_le (something : d.nanos ≠ 0) :
    (written d.groups).length ≤ d.text.length := by
  rw [← String.length_toList, toList_text something,
    ← List.length_map (f := fun g : Group => g.text.toList)]
  refine length_le_intercalate fun l hl => ?_
  obtain ⟨g, hg, rfl⟩ := List.mem_map.mp hl
  exact (d.regular_written g hg).text_ne_nil

/-- A text has a letter, so it is neither blank nor a lone zero. -/
theorem exists_letter (something : d.nanos ≠ 0) : ∃ c ∈ d.text.toList, isUnitChar c = true := by
  have some_written : written d.groups ≠ [] := fun none => by
    have sum := d.sum_written_groups
    rw [none] at sum
    exact something sum.symm
  obtain ⟨g, gs, first⟩ := List.exists_cons_of_ne_nil some_written
  have regular := d.regular_written g (first ▸ List.mem_cons_self)
  obtain ⟨c, digits, l, letters, parts, -, -, -, letter⟩ := regular.exists_parts
  refine ⟨l, ?_, letter⟩
  rw [toList_text something, first, List.map_cons]
  refine mem_intercalate_of_mem_head _ ?_
  rw [parts]
  exact List.mem_cons_of_mem _ (List.mem_append_right _ List.mem_cons_self)

/-- **A duration that is written is read back**, if its whole seconds fit in 64 bits. -/
theorem parse_text (fits : d.seconds < UInt64.size) : parse d.text = some d := by
  by_cases zero : d.nanos = 0
  · have nothing : d = ⟨0⟩ := congrArg Duration.mk zero
    rw [nothing]
    decide +kernel
  · have within : (0 + ((written d.groups).map Group.nanos).sum) / perSecond < UInt64.size := by
      rw [d.sum_written_groups, Nat.zero_add]
      exact fits
    have read := readGroups_intercalate d.regular_written within (length_written_le zero)
    rw [← toList_text zero, d.sum_written_groups, Nat.zero_add] at read
    obtain ⟨c, member, letter⟩ := exists_letter zero
    unfold parse
    rw [if_neg, if_neg, read]
    · rfl
    · intro blank
      have blanks := List.all_eq_true.mp blank c member
      rw [not_isBlank (.inr letter)] at blanks
      cases blanks
    · intro nought
      rw [nought] at member
      cases List.mem_singleton.mp member
      cases letter

end Text

/-! ## What can be read -/

end PacedPurge.Duration
