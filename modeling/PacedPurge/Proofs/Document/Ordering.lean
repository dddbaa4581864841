import PacedPurge.Bucket.Row

/-!
# The order of values is an order

The order of values compares any two of them, the other way round when they change places
(`Json.order_swap`), and it is transitive (`Json.order_joins`): a total preorder, in which values
that differ can compare equal.  Both are inductions over the value on the left, with one step for
each kind of value.  With ids to decide between equal values the order of candidates distinguishes
all records (`Row.id_eq_of_candidateOrder`), so that candidates can be sorted in one way only
(`Row.sorted_of_perm`).

Transitivity is stated for the three comparisons among three things (`Joins`), because arrays and
objects need the exact outcome for their first elements before they look at the others.
-/

namespace PacedPurge

/-! ## Three comparisons -/

/-- The first of three things compares with the last as the comparisons with the one between them
say, the first of these before the second, if neither of them goes down. -/
def Joins (first second whole : Ordering) : Prop :=
  first.isLE → second.isLE → whole = first.then second

theorem joins_of_trans {α : Type} (cmp : α → α → Ordering) [Std.TransCmp cmp] (a b c : α) :
    Joins (cmp a b) (cmp b c) (cmp a c) := by
  intro hab hbc
  cases hfirst : cmp a b with
  | lt => exact Std.TransCmp.lt_of_lt_of_isLE hfirst hbc
  | eq => exact Std.TransCmp.congr_left hfirst
  | gt => rw [hfirst] at hab; cases hab

theorem Joins.isLE {first second whole : Ordering} (h : Joins first second whole)
    (hfirst : first.isLE) (hsecond : second.isLE) : whole.isLE := by
  rw [h hfirst hsecond, Ordering.isLE_then_iff_and]
  exact ⟨hfirst, .inr hsecond⟩

/-- Comparisons that are decided first by one thing and then by another. -/
theorem Joins.then {o₁ o₂ o₃ p₁ p₂ p₃ : Ordering} (ho : Joins o₁ o₂ o₃) (hp : Joins p₁ p₂ p₃) :
    Joins (o₁.then p₁) (o₂.then p₂) (o₃.then p₃) := by
  intro h₁ h₂
  rw [ho (Ordering.isLE_left_of_isLE_then h₁) (Ordering.isLE_left_of_isLE_then h₂)]
  cases o₁ with
  | lt => rfl
  | gt => cases h₁
  | eq =>
    cases o₂ with
    | lt =>
      cases p₁ with
      | lt => rfl
      | eq => rfl
      | gt => cases h₁
    | gt => cases h₂
    | eq => exact hp h₁ h₂

namespace Json

variable {c : Collation}

/-! ## Values of different kinds -/

theorem order_of_rank_ne {x y : Json} (h : x.rank ≠ y.rank) :
    order c x y = compare x.rank y.rank := by
  cases x <;> cases y <;> first | rfl | exact absurd rfl h

theorem rank_le_of_isLE {x y : Json} (h : (order c x y).isLE) : x.rank ≤ y.rank := by
  by_cases same : x.rank = y.rank
  · exact Nat.le_of_eq same
  · rw [order_of_rank_ne same] at h
    exact Nat.isLE_compare.mp h

/-- Among values that are not all of one kind the kinds decide. -/
theorem joins_of_ranks {x y z : Json} (h : ¬(x.rank = y.rank ∧ y.rank = z.rank)) :
    Joins (order c x y) (order c y z) (order c x z) := by
  intro hxy hyz
  have hx := rank_le_of_isLE hxy
  have hy := rank_le_of_isLE hyz
  have differ : x.rank ≠ z.rank := by omega
  have below : order c x z = .lt := by
    rw [order_of_rank_ne differ]
    exact Nat.compare_eq_lt.mpr (by omega)
  rw [below]
  by_cases first : x.rank = y.rank
  · have last : order c y z = .lt := by
      rw [order_of_rank_ne (by omega)]
      exact Nat.compare_eq_lt.mpr (by omega)
    rw [last]
    cases hfirst : order c x y with
    | lt => rfl
    | eq => rfl
    | gt => rw [hfirst] at hxy; cases hxy
  · have first : order c x y = .lt := by
      rw [order_of_rank_ne first]
      exact Nat.compare_eq_lt.mpr (by omega)
    rw [first]
    rfl

/-! ## Values of one kind -/

instance : Std.TransCmp Binary64.compare :=
  inferInstanceAs (Std.TransCmp (compareOn Binary64.key))

mutual

/-- Two values that change places compare the other way round. -/
theorem order_swap : ∀ x y : Json, order c y x = (order c x y).swap := by
  intro x y
  by_cases same : x.rank = y.rank
  · cases x with
    | null => cases y <;> rfl
    | bool a =>
      cases y with
      | bool b =>
        have swapped : compare b a = (compare a b).swap := Std.OrientedOrd.eq_swap
        exact swapped
      | _ => cases same
    | number a =>
      cases y with
      | number b =>
        have swapped : b.toReal.compare a.toReal = (a.toReal.compare b.toReal).swap :=
          Std.OrientedCmp.eq_swap
        exact swapped
      | _ => cases same
    | string a =>
      cases y with
      | string b =>
        have swapped : compare (c.fold b) (c.fold a) = (compare (c.fold a) (c.fold b)).swap :=
          Std.OrientedOrd.eq_swap
        exact swapped
      | _ => cases same
    | array xs =>
      cases y with
      | array ys => exact orderElements_swap xs ys
      | _ => cases same
    | object xs =>
      cases y with
      | object ys => exact orderMembers_swap xs ys
      | _ => cases same
  · rw [order_of_rank_ne same, order_of_rank_ne (Ne.symm same)]
    exact Std.OrientedCmp.eq_swap

theorem orderElements_swap : ∀ xs ys : List Json,
    orderElements c ys xs = (orderElements c xs ys).swap
  | [], [] => rfl
  | [], _ :: _ => rfl
  | _ :: _, [] => rfl
  | x :: xs, y :: ys => by
    simp only [orderElements, Ordering.swap_then, order_swap x y, orderElements_swap xs ys]

theorem orderMembers_swap : ∀ xs ys : List (String × Json),
    orderMembers c ys xs = (orderMembers c xs ys).swap
  | [], [] => rfl
  | [], _ :: _ => rfl
  | _ :: _, [] => rfl
  | (j, x) :: xs, (k, y) :: ys => by
    have keys : compare k j = (compare j k).swap := Std.OrientedCmp.eq_swap
    simp only [orderMembers, Ordering.swap_then, keys, order_swap x y, orderMembers_swap xs ys]

end

mutual

/-- The order of values is transitive. -/
theorem order_joins : ∀ x y z : Json, Joins (order c x y) (order c y z) (order c x z) := by
  intro x y z
  by_cases same : x.rank = y.rank ∧ y.rank = z.rank
  · obtain ⟨hxy, hyz⟩ := same
    cases x with
    | null =>
      cases y with
      | null =>
        cases z with
        | null => exact fun _ _ => rfl
        | _ => cases hyz
      | _ => cases hxy
    | bool a =>
      cases y with
      | bool b =>
        cases z with
        | bool d => exact joins_of_trans compare a b d
        | _ => cases hyz
      | _ => cases hxy
    | number a =>
      cases y with
      | number b =>
        cases z with
        | number d => exact joins_of_trans Binary64.compare a.toReal b.toReal d.toReal
        | _ => cases hyz
      | _ => cases hxy
    | string a =>
      cases y with
      | string b =>
        cases z with
        | string d => exact joins_of_trans compare (c.fold a) (c.fold b) (c.fold d)
        | _ => cases hyz
      | _ => cases hxy
    | array xs =>
      cases y with
      | array ys =>
        cases z with
        | array zs => exact orderElements_joins xs ys zs
        | _ => cases hyz
      | _ => cases hxy
    | object xs =>
      cases y with
      | object ys =>
        cases z with
        | object zs => exact orderMembers_joins xs ys zs
        | _ => cases hyz
      | _ => cases hxy
  · exact joins_of_ranks same

theorem orderElements_joins : ∀ xs ys zs : List Json,
    Joins (orderElements c xs ys) (orderElements c ys zs) (orderElements c xs zs)
  | [], [], [] => fun _ _ => rfl
  | [], [], _ :: _ => fun _ _ => rfl
  | [], _ :: _, [] => fun _ h => by cases h
  | [], _ :: _, _ :: _ => fun _ _ => rfl
  | _ :: _, [], _ => fun h _ => by cases h
  | _ :: _, _ :: _, [] => fun _ h => by cases h
  | x :: xs, y :: ys, z :: zs => by
    simp only [orderElements]
    exact (order_joins x y z).then (orderElements_joins xs ys zs)

theorem orderMembers_joins : ∀ xs ys zs : List (String × Json),
    Joins (orderMembers c xs ys) (orderMembers c ys zs) (orderMembers c xs zs)
  | [], [], [] => fun _ _ => rfl
  | [], [], _ :: _ => fun _ _ => rfl
  | [], _ :: _, [] => fun _ h => by cases h
  | [], _ :: _, _ :: _ => fun _ _ => rfl
  | _ :: _, [], _ => fun h _ => by cases h
  | _ :: _, _ :: _, [] => fun _ h => by cases h
  | (i, x) :: xs, (j, y) :: ys, (k, z) :: zs => by
    simp only [orderMembers]
    exact (joins_of_trans compare i j k).then
      ((order_joins x y z).then (orderMembers_joins xs ys zs))

end

/-- The order of values is a total preorder. -/
instance transCmp_order (c : Collation) : Std.TransCmp (order c) where
  eq_swap {x y} := order_swap y x
  isLE_trans {x y z} := (order_joins x y z).isLE

end Json

namespace Row

/-! ## Candidates -/

instance transCmp_candidateOrder (c : Collation) : Std.TransCmp (candidateOrder c) where
  eq_swap {x y} := by
    have ids : compare x.2 y.2 = (compare y.2 x.2).swap := Std.OrientedOrd.eq_swap
    simp only [candidateOrder, Ordering.swap_then, ← ids, ← Json.order_swap]
  isLE_trans {x y z} :=
    ((Json.order_joins x.1 y.1 z.1).then (joins_of_trans compare x.2 y.2 z.2)).isLE

variable {c : Collation} {found found' : List Candidate}

/-- Candidates that compare equal are candidates of one record. -/
theorem id_eq_of_candidateOrder {x y : Candidate} (h : candidateOrder c x y = .eq) : x.2 = y.2 :=
  Std.LawfulEqOrd.eq_of_compare (Ordering.then_eq_eq.mp h).2

/-- Candidates in their order, each before the next. -/
def Increasing (c : Collation) (found : List Candidate) : Prop :=
  found.Pairwise fun x y => candidateOrder c x y = .lt

/-- Candidates of different records are put in order by sorting. -/
theorem increasing_sorted (distinct : (found.map (·.2)).Nodup) : Increasing c (sorted c found) := by
  have ordered : (sorted c found).Pairwise fun x y => candidateOrder c x y != .gt := by
    refine List.pairwise_mergeSort ?_ ?_ found
    · intro x y z hxy hyz
      simp only [bne_iff_ne, Ordering.ne_gt_iff_isLE] at hxy hyz ⊢
      exact Std.TransCmp.isLE_trans hxy hyz
    · intro x y
      have swapped : candidateOrder c y x = (candidateOrder c x y).swap := Std.OrientedCmp.eq_swap
      rw [swapped]
      cases candidateOrder c x y <;> rfl
  have apart : (sorted c found).Pairwise fun x y => x.2 ≠ y.2 := by
    have ids : ((sorted c found).map (·.2)).Nodup :=
      ((List.mergeSort_perm found _).map _).nodup_iff.mpr distinct
    exact List.pairwise_map.mp ids
  refine (ordered.and apart).imp fun {x y} ⟨hle, hne⟩ => ?_
  cases h : candidateOrder c x y with
  | lt => rfl
  | eq => exact absurd (id_eq_of_candidateOrder h) hne
  | gt => rw [h] at hle; cases hle

/-- There is one way to put candidates in order. -/
theorem Increasing.eq_of_perm (h : Increasing c found) (h' : Increasing c found')
    (same : found.Perm found') : found = found' := by
  refine same.eq_of_pairwise (fun x y _ _ hxy hyx => ?_) h h'
  rw [Std.OrientedCmp.gt_of_lt hxy] at hyx
  cases hyx

/-- Candidates that are in order are not moved by sorting. -/
theorem Increasing.sorted_eq (h : Increasing c found) : sorted c found = found := by
  refine List.mergeSort_of_pairwise (h.imp fun {x y} hlt => ?_)
  rw [hlt]
  rfl

/-- How candidates were given makes no difference to their order. -/
theorem sorted_of_perm (distinct : (found.map (·.2)).Nodup) (same : found.Perm found') :
    sorted c found = sorted c found' := by
  have distinct' : (found'.map (·.2)).Nodup := (same.map _).nodup_iff.mp distinct
  refine (increasing_sorted distinct).eq_of_perm (increasing_sorted distinct') ?_
  exact ((List.mergeSort_perm found _).trans same).trans (List.mergeSort_perm found' _).symm

end Row

end PacedPurge
