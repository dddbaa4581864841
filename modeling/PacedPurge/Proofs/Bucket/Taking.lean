import PacedPurge.Proofs.Bucket.Cutting

/-!
# Taking in any row

Rows may come with any numbers.  An assembly that is well formed takes a row in exactly if the row
is in its place (`Assembly.Admits`): it belongs to the next bucket, follows the rows that are held,
and claims the total that they claim.  Then either the bucket grows by the record of the row, or the
row completes it; a row out of place is refused, whatever it is.

What a row can come to is said once, by `Assembly.Taken`, and all that later proofs need is read off
its cases.
-/

namespace PacedPurge

namespace Assembly

/-- A bucket under way is the next one.  It has some of its rows but not all, and these are not more
than the limit allows. -/
structure WellFormed (a : Assembly) : Prop where
  positive : 1 ≤ a.limit
  pending : ∀ p, a.pending = some p →
    p.number = a.last + 1 ∧ 0 < p.count ∧ p.count < p.total ∧ p.total ≤ a.limit

theorem wellFormed_start (size : Nat) : (start size).WellFormed where
  positive := by
    simp only [start]
    omega
  pending p hp := by cases hp

/-- The row is the next one of the bucket under way, or the first one of the next bucket. -/
structure Admits (a : Assembly) (row : Row) : Prop where
  positive : 1 ≤ row.total
  within : row.total ≤ a.limit
  bucket : row.bucket = a.last + 1
  running : row.running = a.held.length + 1
  total : ∀ p, a.pending = some p → row.total = p.total

/-- **What a row can come to.** -/
inductive Taken (a : Assembly) (row : Row) : Except RowFault (Option Bucket × Assembly) → Prop where
  | refused {fault : RowFault} (out : ¬a.Admits row) : Taken a row (.error fault)
  | grown {after : Assembly} (place : a.Admits row) (short : row.running < row.total)
      (pending : ∃ p, after.pending = some p ∧ p.total = row.total)
      (held : after.held = a.held ++ [row.id]) (last : after.last = a.last)
      (emitted : after.emitted = a.emitted) (limit : after.limit = a.limit)
      (sound : after.WellFormed) : Taken a row (.ok (none, after))
  | completed {b : Bucket} {after : Assembly} (place : a.Admits row)
      (full : row.running = row.total) (ordinal : b.ordinal = a.last + 1)
      (ids : b.ids = a.held ++ [row.id]) (cumulative : b.cumulative = after.emitted)
      (pending : after.pending = none) (last : after.last = a.last + 1)
      (emitted : after.emitted = a.emitted + b.size) (limit : after.limit = a.limit)
      (sound : after.WellFormed) : Taken a row (.ok (some b, after))

variable {a : Assembly} {row : Row}

/-! ## Between two buckets and within one -/

theorem held_of_none (h : a.pending = none) : a.held = [] := by
  simp only [held, h]

theorem held_of_some {p : PartBucket} (h : a.pending = some p) : a.held = p.taken.reverse := by
  simp only [held, h]

theorem length_held_of_some {p : PartBucket} (h : a.pending = some p) :
    a.held.length = p.count := by
  rw [held_of_some h, List.length_reverse, PartBucket.count]

/-- A bucket under way holds records. -/
theorem WellFormed.held_eq_nil_iff (sound : a.WellFormed) : a.held = [] ↔ a.pending = none := by
  refine ⟨fun nothing => ?_, held_of_none⟩
  cases hp : a.pending with
  | none => rfl
  | some p =>
    have counted := length_held_of_some hp
    rw [nothing, List.length_nil] at counted
    have := (sound.pending p hp).2.1
    omega

/-! ## One row more -/

/-- A row that is in its place has a bucket to go into, with the records that are held. -/
theorem bucketFor_of_admits (sound : a.WellFormed) (place : a.Admits row) :
    ∃ p, a.bucketFor row = .ok p ∧ p.number = a.last + 1 ∧ p.total = row.total ∧
      p.taken.reverse = a.held := by
  have allowed : (row.total < 1 || a.limit < row.total) = false := by
    have := place.positive
    have := place.within
    simp only [Bool.or_eq_false_iff, decide_eq_false_iff_not]
    omega
  cases hp : a.pending with
  | none =>
    have running := place.running
    rw [held_of_none hp] at running
    refine ⟨⟨row.bucket, row.total, [], row.sortValue⟩, ?_, place.bucket, rfl,
      (held_of_none hp).symm⟩
    rw [bucketFor, allowed]
    simp [hp, place.bucket, running]
  | some p =>
    have running := place.running
    rw [length_held_of_some hp] at running
    have number := (sound.pending p hp).1
    refine ⟨p, ?_, number, (place.total p hp).symm, (held_of_some hp).symm⟩
    rw [bucketFor, allowed]
    simp [hp, place.bucket, number, running, place.total p hp]

/-- A row that has a bucket to go into is in its place. -/
theorem admits_of_bucketFor (sound : a.WellFormed) {p : PartBucket} (h : a.bucketFor row = .ok p) :
    a.Admits row := by
  unfold bucketFor at h
  split at h
  · cases h
  · next allowed =>
    simp only [Bool.or_eq_true, decide_eq_true_eq, not_or] at allowed
    cases hp : a.pending with
    | none =>
      simp only [hp] at h
      split at h
      · next opens =>
        simp only [Bool.and_eq_true, decide_eq_true_eq] at opens
        refine ⟨by omega, by omega, opens.1, ?_, fun q hq => by rw [hp] at hq; cases hq⟩
        rw [held_of_none hp, opens.2]
        rfl
      · cases h
    | some q =>
      simp only [hp] at h
      split at h
      · next follows =>
        simp only [Bool.and_eq_true, decide_eq_true_eq] at follows
        refine ⟨by omega, by omega, follows.1.1.trans (sound.pending q hp).1, ?_,
          fun q' hq' => ?_⟩
        · rw [length_held_of_some hp]
          exact follows.1.2
        · obtain rfl := Option.some.inj (hp.symm.trans hq')
          exact follows.2
      · cases h

/-- **Taking in a row** comes to one of the three. -/
theorem accept_cases (sound : a.WellFormed) (row : Row) : Taken a row (a.accept row) := by
  unfold accept
  cases hfor : a.bucketFor row with
  | error fault =>
    refine .refused fun place => ?_
    obtain ⟨p, hp, -⟩ := bucketFor_of_admits sound place
    rw [hfor] at hp
    cases hp
  | ok p =>
    have place := admits_of_bucketFor sound hfor
    obtain ⟨p', hp', number, total, held⟩ := bucketFor_of_admits sound place
    obtain rfl := Except.ok.inj (hfor.symm.trans hp')
    have counted : p.count = a.held.length := by
      rw [← held, List.length_reverse, PartBucket.count]
    have within : row.running ≤ row.total := by
      have running := place.running
      cases hpending : a.pending with
      | none =>
        rw [held_of_none hpending, List.length_nil] at running
        have := place.positive
        omega
      | some q =>
        rw [length_held_of_some hpending] at running
        have := (sound.pending q hpending).2.2.1
        have := place.total q hpending
        omega
    simp only
    split
    · next full =>
      refine .completed place (full.trans total) number ?_ rfl rfl number rfl rfl
        ⟨sound.positive, fun q hq => by cases hq⟩
      show (row.id :: p.taken).reverse = _
      rw [List.reverse_cons, held]
    · next short =>
      have more : row.running < row.total := by
        rw [← total] at within ⊢
        omega
      have running := place.running
      refine .grown place more ⟨_, rfl, total⟩ ?_ rfl rfl rfl
        ⟨sound.positive, fun q hq => ?_⟩
      · rw [held_of_some rfl, List.reverse_cons, held]
      · obtain rfl := Option.some.inj hq
        have grown : (PartBucket.mk p.number p.total (row.id :: p.taken) p.firstKey).count =
            p.count + 1 := rfl
        refine ⟨number, by rw [grown]; omega, ?_, total ▸ place.within⟩
        rw [grown]
        simp only [total]
        omega

/-! ## How many rows are lacking -/

/-- How many rows a bucket takes at most until it is complete. -/
def lacking (a : Assembly) : Nat :=
  match a.pending with
  | none => a.limit
  | some p => p.total - p.count

theorem WellFormed.lacking_pos (sound : a.WellFormed) : 1 ≤ a.lacking := by
  have positive := sound.positive
  unfold lacking
  split
  · exact positive
  · next p hp =>
    have := sound.pending p hp
    omega

theorem WellFormed.lacking_le (sound : a.WellFormed) : a.lacking ≤ a.limit := by
  unfold lacking
  split
  · exact Nat.le_refl _
  · next p hp =>
    have := sound.pending p hp
    omega

/-- A row that completes no bucket leaves fewer rows lacking. -/
theorem lacking_lt_of_grown (sound : a.WellFormed) {after : Assembly}
    (h : a.accept row = .ok (none, after)) : after.WellFormed ∧ after.lacking < a.lacking := by
  have taken := accept_cases sound row
  rw [h] at taken
  cases taken with
  | grown place short pending held last emitted limit sound' =>
    refine ⟨sound', ?_⟩
    obtain ⟨p, hp, total⟩ := pending
    have count : p.count = a.held.length + 1 := by
      rw [← length_held_of_some hp, held, List.length_append]
      rfl
    have running := place.running
    have allowed := place.within
    simp only [lacking, hp]
    cases hpending : a.pending with
    | none =>
      simp only
      omega
    | some q =>
      have same := place.total q hpending
      rw [length_held_of_some hpending] at count running
      simp only
      omega

end Assembly

end PacedPurge
