import PacedPurge.Bucket.Assembly

/-!
# Cutting rows into buckets

Rows that have been placed (`Row.place`) come one after another to an assembly.  `Assembly.After`
says where the assembly stands when it has taken in the first `n` of them: between two buckets or
within one, with nothing else left open.

No placed row is out of place.  The assembly takes each of them in (`accept_place`), and what it has
cut so far with what it still holds are the rows so far, in their order.  At the end of all rows
nothing is held, and the buckets are as many as the rows fill, the last one perhaps in part
(`after_all`).
-/

namespace PacedPurge

namespace Assembly

/-- The records of the bucket under way. -/
def held (a : Assembly) : List RecordId :=
  match a.pending with
  | none => []
  | some p => p.taken.reverse

/-- Where an assembly stands after `n` of `count` rows that were placed in buckets of `size`. -/
structure After (size count n : Nat) (a : Assembly) : Prop where
  limit : a.limit = size
  /-- No bucket is under way: those that are complete have all rows so far, and none is empty. -/
  between : a.pending = none → n = min (a.last * size) count ∧ a.last * size < n + size
  /-- A bucket is under way, and some of its rows are still to come. -/
  within : ∀ p, a.pending = some p →
    p.number = a.last + 1 ∧ p.total = min size (count - a.last * size) ∧
      n = a.last * size + p.count ∧ 0 < p.count ∧ p.count < p.total

/-- Before the first row. -/
theorem after_start {size : Nat} (positive : 0 < size) (count : Nat) :
    After size count 0 (start size) where
  limit := by
    simp only [start]
    omega
  between := fun _ => by
    simp only [start]
    omega
  within := fun p hp => by cases hp

/-! ## One row more -/

theorem div_mod_of_place {size q r : Nat} (h : r < size) :
    (q * size + r) / size = q ∧ (q * size + r) % size = r := by
  have positive : 0 < size := by omega
  refine ⟨?_, ?_⟩
  · rw [Nat.mul_comm, Nat.mul_add_div positive, Nat.div_eq_of_lt h, Nat.add_zero]
  · rw [Nat.mul_comm, Nat.mul_add_mod, Nat.mod_eq_of_lt h]

/-- The place of the next row when a bucket has `r` rows and the ones before it are full. -/
theorem place_eq {size count q r : Nat} (h : r < size) (c : Candidate) :
    Row.place size count (q * size + r) c =
      ⟨c.2, c.1, q + 1, r + 1, min size (count - q * size)⟩ := by
  obtain ⟨quotient, remainder⟩ := div_mod_of_place (q := q) h
  rw [Row.place_eq (Nat.zero_lt_of_lt h), quotient, remainder]

/-- The bucket for a row that is in its place, and the row's number in it. -/
theorem bucketFor_place {size count n : Nat} {a : Assembly} (h : After size count n a)
    (hn : n < count) (c : Candidate) :
    ∃ p, a.bucketFor (Row.place size count n c) = .ok p ∧ p.number = a.last + 1 ∧
      p.total = min size (count - a.last * size) ∧ n = a.last * size + p.count ∧
      p.count < p.total ∧ p.taken.reverse = a.held := by
  cases hp : a.pending with
  | none =>
    obtain ⟨hplace, hroom⟩ := h.between hp
    have hfull : n = a.last * size + 0 := by omega
    have positive : 0 < size := by omega
    rw [hfull, place_eq positive]
    refine ⟨⟨a.last + 1, min size (count - a.last * size), [], c.1⟩, ?_, rfl, rfl, rfl, ?_, ?_⟩
    · have allowed : (min size (count - a.last * size) < 1 ||
          a.limit < min size (count - a.last * size)) = false := by
        rw [h.limit]
        simp only [Bool.or_eq_false_iff, decide_eq_false_iff_not]
        omega
      simp only [bucketFor, allowed, hp]
      simp
    · simp only [PartBucket.count, List.length_nil]
      omega
    · simp [held, hp]
  | some p =>
    obtain ⟨hnumber, htotal, hplace, hsome, hroom⟩ := h.within p hp
    have hsize : p.count < size := by omega
    rw [hplace, place_eq hsize]
    refine ⟨p, ?_, hnumber, htotal, rfl, hroom, ?_⟩
    · have allowed : (p.total < 1 || a.limit < p.total) = false := by
        rw [h.limit]
        simp only [Bool.or_eq_false_iff, decide_eq_false_iff_not]
        omega
      rw [← htotal]
      simp only [bucketFor, allowed, hp, hnumber]
      simp
    · simp [held, hp]

/-- **A placed row is taken in.**  Either the bucket under way grows by its record, or the row
completes the bucket, which is the next one and has all that was held. -/
theorem accept_place {size count n : Nat} {a : Assembly} (h : After size count n a)
    (hn : n < count) (c : Candidate) :
    ∃ done after, a.accept (Row.place size count n c) = .ok (done, after) ∧
      After size count (n + 1) after ∧
      match done with
      | none => after.last = a.last ∧ after.held = a.held ++ [c.2]
      | some b => after.last = a.last + 1 ∧ b.ordinal = after.last ∧
          b.ids = a.held ++ [c.2] ∧ after.held = [] := by
  obtain ⟨p, hfor, hnumber, htotal, hplace, hroom, hheld⟩ := bucketFor_place h hn c
  have hrow : Row.place size count n c =
      ⟨c.2, c.1, a.last + 1, p.count + 1, min size (count - a.last * size)⟩ := by
    rw [hplace]
    exact place_eq (by omega) c
  have hcount : ∀ total key, (PartBucket.mk p.number total (c.2 :: p.taken) key).count =
      p.count + 1 := fun _ _ => rfl
  rw [hrow] at hfor ⊢
  by_cases hlast : p.count + 1 = p.total
  · refine ⟨_, _, by simp only [accept, hfor, if_pos hlast]; rfl, ?_, ?_⟩
    · constructor
      · exact h.limit
      · intro _
        simp only [hnumber]
        have hmul : (a.last + 1) * size = a.last * size + size := Nat.succ_mul _ _
        omega
      · intro q hq
        cases hq
    · refine ⟨hnumber, rfl, ?_, rfl⟩
      simp only [List.reverse_cons, hheld]
  · refine ⟨_, _, by simp only [accept, hfor, if_neg hlast]; rfl, ?_, ?_⟩
    · constructor
      · exact h.limit
      · intro hnone
        cases hnone
      · intro q hq
        cases hq
        simp only [hcount]
        omega
    · refine ⟨rfl, ?_⟩
      simp only [held, List.reverse_cons, hheld]

/-! ## The end of all rows -/

/-- After all rows no bucket is under way, and there are as many as it takes to hold the rows. -/
theorem after_all {size count : Nat} {a : Assembly} (h : After size count count a) :
    a.pending = none ∧ a.last = (count + size - 1) / size := by
  cases hp : a.pending with
  | some p =>
    obtain ⟨-, htotal, hplace, -, hroom⟩ := h.within p hp
    omega
  | none =>
    refine ⟨rfl, ?_⟩
    obtain ⟨hplace, hroom⟩ := h.between hp
    have positive : 0 < size := by omega
    have hrest : count + size - 1 - a.last * size < size := by omega
    have hwhole : count + size - 1 = a.last * size + (count + size - 1 - a.last * size) := by omega
    rw [hwhole, (div_mod_of_place hrest).1]

end Assembly

end PacedPurge
