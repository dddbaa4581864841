import PacedPurge.Filter.Matching
import PacedPurge.Proofs.Number.Rounding

/-!
# Filters on integers

A document or a filter can hold any integer of 64 bits, with or without a sign
(`Number.IsWord`).  Integers compare as the binary64 numbers nearest to them, so what a filter sees
of an integer are its first 53 binary digits, rounded (`Json.order_ofInt`).

A filter for one integer therefore selects every record whose integer is rounded alike, and a filter
for greater integers passes those over (`Filter.accepts_rounded_integers`).  Nothing is lost on a
filter whose own integer has at most 53 digits.  Beyond them neighbours are taken for each other
(`Filter.neighbour_taken_for_match`).
-/

namespace PacedPurge

open Binary64 (roundInt)

/-- The integers of 64 bits, with a sign or without one. -/
def Number.IsWord (n : Int) : Prop := -2 ^ 63 ≤ n ∧ n < 2 ^ 64

instance (n : Int) : Decidable (Number.IsWord n) :=
  inferInstanceAs (Decidable (-2 ^ 63 ≤ n ∧ n < 2 ^ 64))

theorem Number.IsWord.digits {n : Int} (h : IsWord n) : n.natAbs.log2 < 1023 := by
  obtain ⟨least, most⟩ := h
  have few : n.natAbs < 2 ^ 65 := by omega
  by_cases nonzero : n.natAbs = 0
  · rw [nonzero]
    decide
  · have := (Nat.log2_lt nonzero).mpr few
    omega

namespace Json

/-- **The order of integers** is that of the rounded ones, whatever the collation. -/
theorem order_ofInt (c : Collation) {v n : Int} (hv : Number.IsWord v) (hn : Number.IsWord n) :
    order c (ofInt v) (ofInt n) = compare (roundInt v) (roundInt n) := by
  have numbers : order c (ofInt v) (ofInt n) =
      (Binary64.ofInt v).compare (Binary64.ofInt n) := by
    simp only [ofInt, order, Number.toReal]
  rw [numbers]
  exact Binary64.compare_ofInt hv.digits hn.digits

/-- Integers compare as integers do exactly if they are equal or told apart by rounding. -/
theorem order_ofInt_eq_compare_iff (c : Collation) {v n : Int} (hv : Number.IsWord v)
    (hn : Number.IsWord n) :
    order c (ofInt v) (ofInt n) = compare v n ↔ v = n ∨ roundInt v ≠ roundInt n := by
  rw [order_ofInt c hv hn]
  obtain less | rfl | more := Int.lt_trichotomy v n
  · have rounded : roundInt v ≤ roundInt n := Binary64.roundInt_mono less.le
    rw [compare_lt_iff_lt.mpr less, compare_lt_iff_lt]
    omega
  · simp
  · have rounded : roundInt n ≤ roundInt v := Binary64.roundInt_mono more.le
    rw [compare_gt_iff_gt.mpr more, compare_gt_iff_gt]
    omega

end Json

namespace Filter

section Condition

variable {field : String} (named : isOperatorName field = false) (c : Collation) (id : RecordId)
  (doc : Document) (n : Int)

include named

/-- A filter for one integer compares the value of its field with it. -/
theorem accepts_integer : accepts ⟨[(field, .ofInt n)]⟩ c id doc =
    .ok (Json.alike c (doc.lookup id field) (.ofInt n)) := by
  have condition : operators? (.ofInt n) = none := rfl
  simp only [accepts, Subject.meetsAll, Subject.meets, named, condition, Subject.value]
  cases Json.alike c (doc.lookup id field) (.ofInt n) with
  | true => rfl
  | false => rfl

/-- A filter for greater integers asks for a greater value of the kind. -/
theorem accepts_greater : accepts ⟨[(field, .object [("$gt", .ofInt n)])]⟩ c id doc =
    .ok (Subject.inOrder ⟨id, doc, c⟩ field (.ofInt n) (· == .gt)) := by
  have greater : isOperatorName "$gt" = true := by decide
  have condition : operators? (.object [("$gt", .ofInt n)]) = some [("$gt", .ofInt n)] := by
    simp [operators?, Members.keys, greater]
  have operator : Operator.ofName? "$gt" = some .gt := by decide
  simp only [accepts, Subject.meetsAll, Subject.meets, named, condition, Subject.satisfiesAll,
    operator, Subject.satisfies]
  cases Subject.inOrder ⟨id, doc, c⟩ field (.ofInt n) (· == .gt) with
  | true => rfl
  | false => rfl

end Condition

/-- **What a filter selects by integers.**  The field of a document holds one integer and the filter
names another.  They compare as the rounded integers do, so the filter selects the document exactly
if both are rounded alike, and a filter for greater integers exactly if the one of the document is
rounded to a greater one.  They compare as integers do exactly if rounding tells them apart, or if
they are equal; and it always does if the filter names an integer of at most 53 binary digits. -/
theorem accepts_rounded_integers (c : Collation) (id : RecordId) (doc : Document) (field : String)
    (v n : Int) (hv : Number.IsWord v) (hn : Number.IsWord n)
    (named : isOperatorName field = false) (held : doc.lookup id field = .ofInt v) :
    let equal := accepts ⟨[(field, .ofInt n)]⟩ c id doc
    let greater := accepts ⟨[(field, .object [("$gt", .ofInt n)])]⟩ c id doc
    Json.order c (.ofInt v) (.ofInt n) = compare (roundInt v) (roundInt n) ∧
      equal = .ok (decide (roundInt v = roundInt n)) ∧
      greater = .ok (decide (roundInt n < roundInt v)) ∧
      (Json.order c (.ofInt v) (.ofInt n) = compare v n ↔ v = n ∨ roundInt v ≠ roundInt n) ∧
      (n.natAbs < 2 ^ 53 →
        Json.order c (.ofInt v) (.ofInt n) = compare v n ∧
        equal = .ok (decide (v = n)) ∧ greater = .ok (decide (n < v))) := by
  intro equal greater
  have order : Json.order c (.ofInt v) (.ofInt n) = compare (roundInt v) (roundInt n) :=
    Json.order_ofInt c hv hn
  have selects_equal : equal = .ok (decide (roundInt v = roundInt n)) := by
    have alike : Json.alike c (.ofInt v) (.ofInt n) = decide (roundInt v = roundInt n) := by
      rw [Json.alike, order, Bool.eq_iff_iff, beq_iff_eq, compare_eq_iff_eq, decide_eq_true_iff]
    rw [← alike, ← held]
    exact accepts_integer named c id doc n
  have selects_greater : greater = .ok (decide (roundInt n < roundInt v)) := by
    have inOrder : Subject.inOrder ⟨id, doc, c⟩ field (.ofInt n) (· == .gt) =
        decide (roundInt n < roundInt v) := by
      have kind : (Json.ofInt v).rank = (Json.ofInt n).rank := rfl
      rw [Subject.inOrder, Subject.value, held, order, kind, beq_self_eq_true, Bool.true_and,
        Bool.eq_iff_iff, beq_iff_eq, compare_gt_iff_gt, decide_eq_true_iff]
    rw [← inOrder]
    exact accepts_greater named c id doc n
  have told_apart := Json.order_ofInt_eq_compare_iff c hv hn
  refine ⟨order, selects_equal, selects_greater, told_apart, fun short => ?_⟩
  have itself : roundInt n = n := Binary64.roundInt_of_lt short
  have same := Binary64.roundInt_eq_iff short v
  have above := Binary64.lt_roundInt_iff short v
  rw [selects_equal, selects_greater, told_apart, itself]
  refine ⟨?_, ?_, ?_⟩
  · by_cases equal_integers : v = n
    · exact .inl equal_integers
    · exact .inr fun rounded => equal_integers (same.mp rounded)
  · rw [decide_eq_decide.mpr same]
  · rw [decide_eq_decide.mpr above]

/-- The first integer of 54 digits that is lost by rounding, and the last one that is not. -/
theorem accepts_rounded_integers_at_limit :
    let doc : Document := [("k", .ofInt 9007199254740993)]
    Number.IsWord 9007199254740993 ∧ Number.IsWord 9007199254740992 ∧
      Number.IsWord 9007199254740991 ∧ isOperatorName "k" = false ∧
      doc.lookup ⟨"a"⟩ "k" = .ofInt 9007199254740993 ∧
      accepts ⟨[("k", .ofInt 9007199254740992)]⟩ .simple ⟨"a"⟩ doc = .ok true ∧
      accepts ⟨[("k", .object [("$gt", .ofInt 9007199254740991)])]⟩ .simple ⟨"a"⟩ doc =
        .ok true := by
  intro doc
  have named : isOperatorName "k" = false := by decide
  have held : doc.lookup ⟨"a"⟩ "k" = .ofInt 9007199254740993 := by rfl
  have word : Number.IsWord 9007199254740993 := by decide
  have even : Number.IsWord 9007199254740992 := by decide
  have short : Number.IsWord 9007199254740991 := by decide
  obtain ⟨-, equal, -⟩ := accepts_rounded_integers .simple ⟨"a"⟩ doc "k" 9007199254740993
    9007199254740992 word even named held
  obtain ⟨-, -, -, -, within⟩ := accepts_rounded_integers .simple ⟨"a"⟩ doc "k" 9007199254740993
    9007199254740991 word short named held
  obtain ⟨-, -, greater⟩ := within (by decide)
  refine ⟨word, even, short, named, held, equal.trans ?_, greater.trans ?_⟩
  · decide +kernel
  · decide +kernel

/-- **Neighbours are taken for each other.**  A filter for an integer of 54 binary digits selects a
record that holds the next one, and a filter for greater integers does not. -/
theorem neighbour_taken_for_match :
    let doc : Document := [("k", .ofInt 9007199254740993)]
    doc.lookup ⟨"a"⟩ "k" = .ofInt 9007199254740993 ∧
      (9007199254740993 : Int) ≠ 9007199254740992 ∧
      accepts ⟨[("k", .ofInt 9007199254740992)]⟩ .simple ⟨"a"⟩ doc = .ok true ∧
      (9007199254740993 : Int) > 9007199254740992 ∧
      accepts ⟨[("k", .object [("$gt", .ofInt 9007199254740992)])]⟩ .simple ⟨"a"⟩ doc =
        .ok false ∧
      ∀ c, Json.order c (.ofInt 9007199254740993) (.ofInt 9007199254740992) = .eq := by
  intro doc
  have named : isOperatorName "k" = false := by decide
  have order : ∀ c, Json.order c (.ofInt 9007199254740993) (.ofInt 9007199254740992) = .eq := by
    intro c
    rw [Json.order_ofInt c (by decide) (by decide), compare_eq_iff_eq]
    decide +kernel
  refine ⟨rfl, by decide, ?_, by decide, ?_, order⟩
  · rw [accepts_integer named]
    exact congrArg (fun o => Except.ok (o == Ordering.eq)) (order .simple)
  · rw [accepts_greater named]
    exact congrArg (fun o => Except.ok (true && o == Ordering.gt)) (order .simple)

end Filter

end PacedPurge
