import Mathlib.Algebra.GroupWithZero.Nat
import Mathlib.Data.List.Basic
import PacedPurge.Bucket.Assembly
import PacedPurge.Bucket.Row

/-!
# The shares of buckets

Candidates in order are parted among buckets: each bucket but the last gets as many as fit, and the
last one what is left (`Bucket.share`).  `Bucket.cut` lists these buckets, with their numbers, the
count of candidates up to them and the sort values at their ends; `Parts` says what it means for
buckets to part candidates in this way, and `parts_cut` that they do.
-/

namespace PacedPurge

namespace Bucket

variable {size : Nat} {found : List Candidate}

/-- How many buckets a number of candidates fills, the last one perhaps in part. -/
def needed (size count : Nat) : Nat := (count + size - 1) / size

/-- The candidates that go into the bucket behind `q` full ones. -/
def share (size : Nat) (found : List Candidate) (q : Nat) : List Candidate :=
  (found.drop (q * size)).take size

/-- The bucket behind `q` full ones. -/
def nth (size : Nat) (found : List Candidate) (q : Nat) : Bucket where
  ordinal := q + 1
  ids := (share size found q).map (·.2)
  size := (share size found q).length
  cumulative := min ((q + 1) * size) found.length
  firstKey := (((share size found q).head?).map (·.1)).getD .null
  lastKey := (((share size found q).getLast?).map (·.1)).getD .null
  size_eq := (List.length_map _).symm

/-- The buckets that candidates in order are cut into. -/
def cut (size : Nat) (found : List Candidate) : List Bucket :=
  (List.range (needed size found.length)).map (nth size found)

/-- Buckets that part candidates among them, in the order of these. -/
structure Parts (size : Nat) (found : List Candidate) (buckets : List Bucket) : Prop where
  /-- Each candidate is in one place of one bucket. -/
  ids : buckets.flatMap (·.ids) = found.map (·.2)
  full : ∀ b ∈ buckets.dropLast, b.size = size
  within : ∀ b ∈ buckets, 1 ≤ b.size ∧ b.size ≤ size
  ordinals : buckets.map (·.ordinal) = List.range' 1 buckets.length
  cumulative : ∀ q (h : q < buckets.length),
    buckets[q].cumulative = ((buckets.take (q + 1)).map (·.size)).sum
  /-- The first record of a bucket comes behind those of the buckets before. -/
  firstKey : ∀ q (h : q < buckets.length),
    (found[buckets[q].cumulative - buckets[q].size]?).map (·.1) = some buckets[q].firstKey
  lastKey : ∀ q (h : q < buckets.length),
    (found[buckets[q].cumulative - 1]?).map (·.1) = some buckets[q].lastKey

/-! ## Counting -/

/-- A bucket is needed exactly if there are candidates behind the full ones before it. -/
theorem lt_needed_iff (positive : 0 < size) {count q : Nat} :
    q < needed size count ↔ q * size < count := by
  rw [needed, Nat.lt_div_iff_mul_lt positive]
  omega

theorem length_share (size : Nat) (found : List Candidate) (q : Nat) :
    (share size found q).length = min size (found.length - q * size) := by
  rw [share, List.length_take, List.length_drop]

theorem size_nth (size : Nat) (found : List Candidate) (q : Nat) :
    (nth size found q).size = min size (found.length - q * size) :=
  length_share size found q

/-- The shares up to some bucket are the candidates up to its end. -/
theorem flatMap_share (size : Nat) (found : List Candidate) (q : Nat) :
    (List.range q).flatMap (share size found) = found.take (q * size) := by
  induction q with
  | zero => rw [Nat.zero_mul, List.take_zero, List.range_zero, List.flatMap_nil]
  | succ q ih =>
    rw [List.range_succ, List.flatMap_append, List.flatMap_singleton, ih, share, ← List.take_add,
      Nat.succ_mul]

/-- The buckets up to some one have as many records as it counts. -/
theorem sum_size_nth (size : Nat) (found : List Candidate) (q : Nat) :
    ((List.range q).map fun i => (nth size found i).size).sum = min (q * size) found.length := by
  have lengths : ∀ i, (nth size found i).size = (share size found i).length := fun i => by
    rw [size_nth, length_share]
  have whole := congrArg List.length (flatMap_share size found q)
  rw [List.length_flatMap, List.length_take] at whole
  rw [← whole]
  exact congrArg List.sum (List.map_congr_left fun i _ => lengths i)

/-! ## The ends of a share -/

section Ends

variable {q : Nat}

theorem head?_share (positive : 0 < size) : (share size found q).head? = found[q * size]? := by
  rw [share, List.head?_take, if_neg (by omega), List.head?_drop]

theorem getLast?_share (positive : 0 < size) (some_left : q * size < found.length) :
    (share size found q).getLast? = found[min ((q + 1) * size) found.length - 1]? := by
  have next : (q + 1) * size = q * size + size := Nat.succ_mul q size
  have place : q * size + ((share size found q).length - 1) =
      min ((q + 1) * size) found.length - 1 := by
    rw [length_share]
    omega
  have inside : (share size found q).length - 1 < size := by
    rw [length_share]
    omega
  have untaken : (share size found q)[(share size found q).length - 1]? =
      (found.drop (q * size))[(share size found q).length - 1]? :=
    List.getElem?_take_of_lt inside
  rw [List.getLast?_eq_getElem?, untaken, List.getElem?_drop, place]

end Ends

/-! ## The buckets -/

theorem length_cut (size : Nat) (found : List Candidate) :
    (cut size found).length = needed size found.length := by
  rw [cut, List.length_map, List.length_range]

theorem getElem_cut {q : Nat} (h : q < (cut size found).length) :
    (cut size found)[q] = nth size found q := by
  simp only [cut, List.getElem_map, List.getElem_range]

theorem mem_cut (positive : 0 < size) {b : Bucket} (h : b ∈ cut size found) :
    ∃ q, q * size < found.length ∧ b = nth size found q := by
  obtain ⟨q, hq, rfl⟩ := List.mem_map.mp h
  exact ⟨q, (lt_needed_iff positive).mp (List.mem_range.mp hq), rfl⟩

/-- All buckets but the last are full. -/
theorem size_of_mem_dropLast (positive : 0 < size) {b : Bucket}
    (h : b ∈ (cut size found).dropLast) : b.size = size := by
  obtain ⟨q, hq, rfl⟩ := List.mem_iff_getElem.mp h
  rw [List.length_dropLast, length_cut] at hq
  rw [List.getElem_dropLast, getElem_cut, size_nth]
  have another : (q + 1) * size < found.length := (lt_needed_iff positive).mp (by omega)
  have next : (q + 1) * size = q * size + size := Nat.succ_mul q size
  omega

/-- **Candidates are parted among the buckets.** -/
theorem parts_cut (positive : 0 < size) (found : List Candidate) :
    Parts size found (cut size found) where
  ids := by
    have enough : found.length ≤ needed size found.length * size :=
      Nat.le_of_not_lt fun h => Nat.lt_irrefl _ ((lt_needed_iff positive).mpr h)
    have all := flatMap_share size found (needed size found.length)
    rw [List.take_of_length_le enough] at all
    rw [cut, List.flatMap_map, ← congrArg (List.map (·.2)) all, List.map_flatMap]
    rfl
  full b := size_of_mem_dropLast positive
  within b hb := by
    obtain ⟨q, hq, rfl⟩ := mem_cut positive hb
    rw [size_nth]
    omega
  ordinals := by
    rw [length_cut, cut, List.map_map, List.range'_eq_map_range]
    exact List.map_congr_left fun q _ => Nat.add_comm q 1
  cumulative q h := by
    have before : (cut size found).take (q + 1) = (List.range (q + 1)).map (nth size found) := by
      rw [length_cut] at h
      rw [cut, ← List.map_take, List.take_range, Nat.min_eq_left h]
    rw [before, List.map_map, getElem_cut]
    exact (sum_size_nth size found (q + 1)).symm
  firstKey q h := by
    rw [length_cut, lt_needed_iff positive] at h
    have next : (q + 1) * size = q * size + size := Nat.succ_mul q size
    have place : (nth size found q).cumulative - (nth size found q).size = q * size := by
      rw [size_nth]
      simp only [nth]
      omega
    rw [getElem_cut, place, ← head?_share positive]
    simp only [nth]
    rw [head?_share positive, List.getElem?_eq_getElem h]
    rfl
  lastKey q h := by
    rw [length_cut, lt_needed_iff positive] at h
    have inside : min ((q + 1) * size) found.length - 1 < found.length := by omega
    rw [getElem_cut]
    simp only [nth]
    rw [getLast?_share positive h, List.getElem?_eq_getElem inside]
    rfl

end Bucket

end PacedPurge
