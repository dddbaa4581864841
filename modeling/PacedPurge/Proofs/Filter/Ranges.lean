import PacedPurge.Proofs.Document.Ordering
import PacedPurge.Proofs.Filter.Clauses

/-!
# Values before, at and after a value

The order of values is a total preorder under either collation: it compares any two values, the
other way round when they change places, it is transitive, and values that compare equal take the
same place among all others.  Values that compare equal need not be equal, as numbers of different
kinds or strings in different cases show.

Filters ask for values before, at and after a value by three operators, which hold of values of its
own kind only.  So a value of this kind meets exactly one of the three, and any other meets none
(`Json.order_parts_values`).
-/

namespace PacedPurge

namespace Operator

/-- The operator that asks for values which compare in this way with the operand. -/
def ofOrdering : Ordering → Operator
  | .lt => .lt
  | .eq => .eq
  | .gt => .gt

theorem mem_iff_ofOrdering {op : Operator} :
    op ∈ [Operator.lt, .eq, .gt] ↔ ∃ o, ofOrdering o = op := by
  constructor
  · intro hop
    simp only [List.mem_cons, List.not_mem_nil, or_false] at hop
    rcases hop with rfl | rfl | rfl
    · exact ⟨.lt, rfl⟩
    · exact ⟨.eq, rfl⟩
    · exact ⟨.gt, rfl⟩
  · rintro ⟨o, rfl⟩
    cases o <;> decide

theorem ofOrdering_inj {o o' : Ordering} : ofOrdering o = ofOrdering o' ↔ o = o' := by
  cases o <;> cases o' <;> decide

end Operator

namespace Subject

variable (s : Subject) {field : String} {v : Json}

/-- One of the three operators holds of a value of the kind of the operand: that with the outcome of
the comparison. -/
theorem exactly_one_holds (same : (s.value field).rank = v.rank) :
    ∃ op ∈ [Operator.lt, .eq, .gt], ∀ op' ∈ [Operator.lt, .eq, .gt],
      s.satisfies field op' v = .ok (decide (op' = op)) := by
  refine ⟨_, Operator.mem_iff_ofOrdering.mpr ⟨Json.order s.collation (s.value field) v, rfl⟩, ?_⟩
  intro op' hop'
  obtain ⟨o, rfl⟩ := Operator.mem_iff_ofOrdering.mp hop'
  simp only [Operator.ofOrdering_inj]
  cases o <;>
    simp [Operator.ofOrdering, satisfies, inOrder, Json.alike, same, beq_eq_decide, eq_comm]

/-- None of the three operators holds of a value of another kind. -/
theorem none_holds (differ : (s.value field).rank ≠ v.rank) :
    ∀ op ∈ [Operator.lt, .eq, .gt], s.satisfies field op v = .ok false := by
  intro op hop
  obtain ⟨o, rfl⟩ := Operator.mem_iff_ofOrdering.mp hop
  have uneven : Json.order s.collation (s.value field) v ≠ .eq := by
    rw [Json.order_of_rank_ne differ]
    exact fun same => differ (Nat.compare_eq_eq.mp same)
  cases o <;> simp [Operator.ofOrdering, satisfies, inOrder, Json.alike, differ, uneven]

end Subject

namespace Json

/-- **The order of values is a total preorder, and parts them.**  Each value compares equal to
itself; two that change places compare the other way round; what is not after a value is not after
what follows it; and values that compare equal compare alike with every other, on either side.

So exactly one of the operators that ask for values before, at and after a value holds of what a
path reads as, if that is of the kind of the value; otherwise none holds, and none faults.  A filter
that applies the operator alone tells just this. -/
theorem order_parts_values (c : Collation) :
    (∀ x, order c x x = .eq) ∧
    (∀ x y, order c y x = (order c x y).swap) ∧
    (∀ x y z, order c x y ≠ .gt → order c y z ≠ .gt → order c x z ≠ .gt) ∧
    (∀ x y, order c x y = .eq → ∀ z, order c x z = order c y z ∧ order c z x = order c z y) ∧
    ∀ id doc field v, let s : Subject := ⟨id, doc, c⟩
      ((s.value field).rank = v.rank → ∃ op ∈ [Operator.lt, .eq, .gt],
        ∀ op' ∈ [Operator.lt, .eq, .gt], s.satisfies field op' v = .ok (decide (op' = op))) ∧
      ((s.value field).rank ≠ v.rank →
        ∀ op ∈ [Operator.lt, .eq, .gt], s.satisfies field op v = .ok false) ∧
      (¬IsMarked field → ∀ op,
        (Filter.applying field op v).accepts c id doc = s.satisfies field op v) := by
  refine ⟨fun x => Std.ReflCmp.compare_self, order_swap, fun x y z hxy hyz => ?_,
    fun x y same z => ⟨Std.TransCmp.congr_left same, Std.TransCmp.congr_right same⟩,
    fun id doc field v => ?_⟩
  · rw [ne_eq, Ordering.ne_gt_iff_isLE] at hxy hyz ⊢
    exact Std.TransCmp.isLE_trans hxy hyz
  · intro s
    refine ⟨s.exactly_one_holds, s.none_holds, fun unmarked op => ?_⟩
    exact Filter.accepts_applying unmarked op v c id doc

/-- Two cards with names in different cases and marks of different kinds compare equal, and so both
come before a third.  The owner's card meets one of the three operators for the third, and none for
null. -/
theorem order_parts_values_cards :
    let x : Json := .object [("name", .string "Ada"), ("marks", .array [.ofInt 1, .null])]
    let y : Json := .object
      [("name", .string "ADA"), ("marks", .array [.number (.real (.ofInt 1)), .null])]
    let z : Json := .object [("name", .string "ada"), ("marks", .array [.ofInt 1, .bool false])]
    let s : Subject := ⟨⟨"a"⟩, [("owner", .object [("card", x)])], .caseInsensitive⟩
    order .caseInsensitive x y = .eq ∧ order .caseInsensitive y z = .lt ∧
      order .caseInsensitive x z = order .caseInsensitive y z ∧
      order .caseInsensitive x z ≠ .gt ∧
      (s.value "owner.card").rank = z.rank ∧
      (∃ op ∈ [Operator.lt, .eq, .gt], ∀ op' ∈ [Operator.lt, .eq, .gt],
        s.satisfies "owner.card" op' z = .ok (decide (op' = op))) ∧
      s.satisfies "owner.card" .lt .null = .ok false ∧
      (Filter.applying "owner.card" .lt z).accepts s.collation s.id s.doc =
        s.satisfies "owner.card" .lt z := by
  intro x y z s
  have same : order .caseInsensitive x y = .eq := by decide +kernel
  have before : order .caseInsensitive y z = .lt := by decide +kernel
  obtain ⟨-, -, transitive, alike, parts⟩ := order_parts_values .caseInsensitive
  obtain ⟨one, -, alone⟩ := parts s.id s.doc "owner.card" z
  obtain ⟨-, none, -⟩ := parts s.id s.doc "owner.card" .null
  have kind : (s.value "owner.card").rank = z.rank := by decide +kernel
  have other : (s.value "owner.card").rank ≠ Json.null.rank := by decide +kernel
  exact ⟨same, before, (alike x y same z).1,
    transitive x y z (by rw [same]; nofun) (by rw [before]; nofun), kind, one kind,
    none other .lt List.mem_cons_self, alone (by decide) .lt⟩

end Json

end PacedPurge
