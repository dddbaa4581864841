import PacedPurge.Bucket.Source
import PacedPurge.Proofs.Bucket.Cutting
import PacedPurge.Proofs.Bucket.Shares
import PacedPurge.Proofs.Document.Ordering

/-!
# Draining a source of buckets

The rows of candidates, placed one after another, come out of a source again as the buckets that
the candidates are cut into.  `Assembly.Cut` says what an assembly knows after the first rows: where
it stands (`Assembly.After`), which records it holds, how many have gone out, and with which sort
value the bucket under way began.  Each row keeps this up, and a bucket that it completes is the
next one of the cut (`Assembly.accept_cut`), so that all rows together make the cut
(`Assembly.acceptAll_cut`), and the first of them its first buckets (`Assembly.acceptAll_prefix`).

So a source that is asked again and again gives the buckets of the cut, one for each call, and then
its end (`BucketSource.Cuts.drain_eq`).  With the windowing of rows in front of it, this parts the
records of any candidates among buckets in their order (`Row.buckets_part_candidates`).
-/

namespace PacedPurge

namespace Assembly

variable {size n : Nat} {found : List Candidate} {a : Assembly}

/-! ## What a row adds -/

/-- The sort value with which the bucket of a row begins. -/
def openingKey (a : Assembly) (row : Row) : Json :=
  match a.pending with
  | some p => p.firstKey
  | none => row.sortValue

theorem firstKey_of_bucketFor {row : Row} {p : PartBucket} (h : a.bucketFor row = .ok p) :
    p.firstKey = a.openingKey row := by
  unfold bucketFor at h
  split at h
  · cases h
  · cases hp : a.pending with
    | some q =>
      simp only [hp] at h
      split at h
      · simp only [openingKey, hp, Except.ok.inj h]
      · cases h
    | none =>
      simp only [hp] at h
      split at h
      · simp only [openingKey, hp, ← Except.ok.inj h]
      · cases h

/-- What a bucket is told about besides its records. -/
theorem accept_some {after : Assembly} {row : Row} {b : Bucket}
    (h : a.accept row = .ok (some b, after)) :
    b.firstKey = a.openingKey row ∧ b.lastKey = row.sortValue ∧
      b.cumulative = after.emitted ∧ after.emitted = a.emitted + b.ids.length := by
  unfold accept at h
  cases hfor : a.bucketFor row with
  | error fault => simp [hfor] at h
  | ok p =>
    simp only [hfor] at h
    split at h
    · simp only [Except.ok.injEq, Prod.mk.injEq, Option.some.injEq] at h
      obtain ⟨rfl, rfl⟩ := h
      refine ⟨firstKey_of_bucketFor hfor, rfl, rfl, ?_⟩
      simp only [List.length_reverse]
    · cases h

/-- What is kept of a row that completes no bucket. -/
theorem accept_none {after : Assembly} {row : Row} (h : a.accept row = .ok (none, after)) :
    after.emitted = a.emitted ∧ ∃ p, after.pending = some p ∧ p.firstKey = a.openingKey row := by
  unfold accept at h
  cases hfor : a.bucketFor row with
  | error fault => simp [hfor] at h
  | ok p =>
    simp only [hfor] at h
    split at h
    · cases h
    · simp only [Except.ok.injEq, Prod.mk.injEq, true_and] at h
      subst h
      have opened := firstKey_of_bucketFor hfor
      exact ⟨rfl, _, rfl, opened⟩

/-! ## The rows so far -/

/-- An assembly that has taken in the first `n` rows of candidates. -/
structure Cut (size : Nat) (found : List Candidate) (n : Nat) (a : Assembly) : Prop
    extends a.After size found.length n where
  held : a.held = ((found.take n).drop (a.last * size)).map (·.2)
  emitted : a.emitted = min (a.last * size) found.length
  opening : ∀ p, a.pending = some p → (found[a.last * size]?).map (·.1) = some p.firstKey

theorem cut_start (positive : 0 < size) (found : List Candidate) :
    Cut size found 0 (start size) where
  toAfter := after_start positive found.length
  held := by simp [held, start]
  emitted := by simp [start]
  opening p hp := by cases hp

/-- While rows are to come, the full buckets lie behind and one row is missing in the next. -/
theorem After.bounds {count : Nat} (h : After size count n a) (hn : n < count) :
    a.last * size ≤ n ∧ n < (a.last + 1) * size := by
  have next : (a.last + 1) * size = a.last * size + size := Nat.succ_mul _ _
  cases hp : a.pending with
  | none =>
    have := h.between hp
    omega
  | some p =>
    have := h.within p hp
    omega

/-- The bucket of the next row begins with the first record behind the full ones. -/
theorem Cut.openingKey_eq (h : Cut size found n a) (hn : n < found.length) {row : Row}
    (value : row.sortValue = found[n].1) :
    (found[a.last * size]?).map (·.1) = some (a.openingKey row) := by
  cases hp : a.pending with
  | some p =>
    rw [h.opening p hp]
    simp only [openingKey, hp]
  | none =>
    have place : a.last * size = n := by
      have := h.between hp
      omega
    rw [place, List.getElem?_eq_getElem hn]
    simp only [openingKey, hp, value, Option.map_some]

/-- The records up to the next one, behind the full buckets. -/
theorem Cut.held_append (h : Cut size found n a) (hn : n < found.length) :
    a.held ++ [found[n].2] = ((found.take (n + 1)).drop (a.last * size)).map (·.2) := by
  have behind : a.last * size ≤ (found.take n).length := by
    rw [List.length_take, Nat.min_eq_left (Nat.le_of_lt hn)]
    exact (h.bounds hn).1
  rw [h.held, List.take_succ_eq_append_getElem hn, List.drop_append_of_le_length behind,
    List.map_append, List.map_singleton]

/-- The share of a bucket whose last record is at an index. -/
theorem share_of_end {q : Nat} (first : n + 1 = min ((q + 1) * size) found.length) :
    (found.take (n + 1)).drop (q * size) = Bucket.share size found q := by
  have next : (q + 1) * size = q * size + size := Nat.succ_mul _ _
  rw [List.drop_take, Bucket.share, first]
  by_cases whole : (q + 1) * size ≤ found.length
  · rw [Nat.min_eq_left whole, next, Nat.add_sub_cancel_left]
  · rw [List.take_of_length_le (by rw [List.length_drop]; omega),
      List.take_of_length_le (by rw [List.length_drop]; omega)]

/-- **The next row.**  It is taken in, and if it completes a bucket, this is the next of the cut. -/
theorem accept_cut (h : Cut size found n a) (hn : n < found.length) :
    ∃ done after, a.accept (Row.place size found.length n found[n]) = .ok (done, after) ∧
      Cut size found (n + 1) after ∧
      match done with
      | none => after.last = a.last
      | some b => after.last = a.last + 1 ∧ b = Bucket.nth size found a.last := by
  obtain ⟨done, after, haccept, hafter, hdone⟩ := accept_place h.toAfter hn found[n]
  obtain ⟨behind, missing⟩ := h.bounds hn
  have hheld := h.held_append hn
  have value : (Row.place size found.length n found[n]).sortValue = found[n].1 := rfl
  have hkey := h.openingKey_eq hn value
  refine ⟨done, after, haccept, ?_⟩
  cases done with
  | none =>
    obtain ⟨hlast, hmore⟩ := hdone
    obtain ⟨hemitted, p, hp, hopening⟩ := accept_none haccept
    refine ⟨⟨hafter, by rw [hmore, hlast, hheld], by rw [hemitted, hlast, h.emitted],
      fun q hq => ?_⟩, hlast⟩
    obtain rfl := Option.some.inj (hp.symm.trans hq)
    rw [hlast, hkey, hopening]
  | some b =>
    obtain ⟨hlast, hordinal, hids, hnone⟩ := hdone
    obtain ⟨hfirst, hlastKey, hcumulative, hemitted⟩ := accept_some haccept
    have hend : n + 1 = min ((a.last + 1) * size) found.length := by
      cases hp : after.pending with
      | none =>
        have := (hafter.between hp).1
        rwa [hlast] at this
      | some p =>
        have := hafter.within p hp
        simp only [held, hp, List.reverse_eq_nil_iff] at hnone
        simp only [PartBucket.count, hnone, List.length_nil] at this
        omega
    have hshare : b.ids = (Bucket.share size found a.last).map (·.2) := by
      rw [hids, hheld, share_of_end hend]
    have hcount : after.emitted = n + 1 := by
      rw [hemitted, hshare, List.length_map, Bucket.length_share, h.emitted]
      have next : (a.last + 1) * size = a.last * size + size := Nat.succ_mul _ _
      omega
    have positive : 0 < size := by
      have next : (a.last + 1) * size = a.last * size + size := Nat.succ_mul _ _
      omega
    refine ⟨⟨hafter, ?_, by rw [hcount, hlast, hend], fun p hp => ?_⟩, hlast, ?_⟩
    · rw [hnone, hlast, List.drop_of_length_le, List.map_nil]
      rw [List.length_take]
      omega
    · have := hafter.within p hp
      rw [hlast] at this
      omega
    · have hhead : (Bucket.share size found a.last).head? = found[a.last * size]? :=
        Bucket.head?_share positive
      have hend' : (Bucket.share size found a.last).getLast? =
          found[min ((a.last + 1) * size) found.length - 1]? :=
        Bucket.getLast?_share positive (by omega)
      have here : found[min ((a.last + 1) * size) found.length - 1]? = some found[n] := by
        rw [← hend, Nat.add_sub_cancel, List.getElem?_eq_getElem hn]
      obtain ⟨ordinal, ids, held, cumulative, firstKey, lastKey, hsize⟩ := b
      simp only at hordinal hshare hcumulative hfirst hlastKey
      have hheld' : held = (Bucket.share size found a.last).length := by
        rw [hsize, hshare, List.length_map]
      simp only [Bucket.nth, Bucket.mk.injEq, hhead, hend', here, hkey]
      exact ⟨hordinal.trans hlast, hshare, hheld', by rw [hcumulative, hcount, hend], hfirst,
        hlastKey⟩

/-! ## All rows -/

/-- The rows from one on. -/
theorem drop_placeAll (size : Nat) {found : List Candidate} (hn : n < found.length) :
    (Row.placeAll size found).drop n =
      Row.place size found.length n found[n] :: (Row.placeAll size found).drop (n + 1) := by
  have rows : (Row.placeAll size found).length = found.length := List.length_mapIdx
  rw [List.drop_eq_getElem_cons (by omega)]
  simp only [Row.placeAll, List.getElem_mapIdx]

/-- Takes in rows one after another: the buckets that they complete. -/
def acceptAll (a : Assembly) : List Row → Except RowFault (List Bucket × Assembly)
  | [] => .ok ([], a)
  | row :: rest =>
    match a.accept row with
    | .error fault => .error fault
    | .ok (done, after) =>
      match acceptAll after rest with
      | .error fault => .error fault
      | .ok (more, last) => .ok (done.toList ++ more, last)

/-- The first of some rows are taken in as all of them are, and make the first buckets. -/
theorem acceptAll_prefix {rows more : List Row} {buckets : List Bucket} {last : Assembly}
    (h : a.acceptAll (rows ++ more) = .ok (buckets, last)) :
    ∃ first after, a.acceptAll rows = .ok (first, after) ∧ first <+: buckets := by
  induction rows generalizing a buckets last with
  | nil => exact ⟨[], a, rfl, List.nil_prefix⟩
  | cons row rows ih =>
    simp only [List.cons_append, acceptAll] at h ⊢
    cases haccept : a.accept row with
    | error fault => simp [haccept] at h
    | ok taken =>
      obtain ⟨done, next⟩ := taken
      simp only [haccept] at h
      cases hrest : next.acceptAll (rows ++ more) with
      | error fault => simp [hrest] at h
      | ok later =>
        obtain ⟨rest, final⟩ := later
        obtain ⟨first, after, hfirst, hprefix⟩ := ih hrest
        simp only [hrest, Except.ok.injEq, Prod.mk.injEq] at h
        simp only [hfirst]
        refine ⟨done.toList ++ first, after, rfl, ?_⟩
        rw [← h.1]
        exact (List.prefix_append_right_inj _).mpr hprefix

/-- What is left of the rows of candidates makes the buckets that are left of the cut. -/
theorem acceptAll_cut (positive : 0 < size) (h : Cut size found n a) (hn : n ≤ found.length) :
    ∃ after, a.acceptAll ((Row.placeAll size found).drop n) =
        .ok ((Bucket.cut size found).drop a.last, after) ∧
      after.pending = none := by
  have rows : (Row.placeAll size found).length = found.length := List.length_mapIdx
  -- The induction is on the number of rows that are left.
  generalize hleft : found.length - n = left
  induction left generalizing n a with
  | zero =>
    obtain rfl : n = found.length := by omega
    obtain ⟨hnone, hlast⟩ := after_all h.toAfter
    rw [List.drop_of_length_le (Nat.le_of_eq rows), List.drop_of_length_le]
    · exact ⟨a, rfl, hnone⟩
    · rw [Bucket.length_cut, hlast]
      exact Nat.le_refl _
  | succ left ih =>
    have inside : n < found.length := by omega
    obtain ⟨done, next, haccept, hnext, hdone⟩ := accept_cut h inside
    obtain ⟨after, hrest, hnone⟩ := ih hnext inside (by omega)
    refine ⟨after, ?_, hnone⟩
    rw [drop_placeAll size inside]
    simp only [acceptAll, haccept, hrest]
    cases done with
    | none =>
      rw [hdone]
      rfl
    | some b =>
      obtain ⟨hlast, rfl⟩ := hdone
      have needed : a.last < (Bucket.cut size found).length := by
        rw [Bucket.length_cut, Bucket.lt_needed_iff positive]
        have := (h.bounds inside).1
        omega
      rw [hlast, List.drop_eq_getElem_cons needed, Bucket.getElem_cut]
      rfl

end Assembly

namespace BucketSource

variable {size n : Nat} {found : List Candidate} {s : BucketSource}

/-- All buckets of a source, asked for one after another in at most so many calls; the first error
ends it. -/
def drain (calls : Nat) (s : BucketSource) (site : Site) : Except BucketError (List Bucket) :=
  match calls with
  | 0 => .ok []
  | calls + 1 =>
    match s.next site with
    | (.error e, _, _) => .error e
    | (.ok none, _, _) => .ok []
    | (.ok (some b), s, site) => (drain calls s site).map (b :: ·)

/-- A source that has taken the first `n` of the rows of candidates, which are all there. -/
structure Cuts (size : Nat) (found : List Candidate) (n : Nat) (s : BucketSource) : Prop where
  assembly : s.assembly.Cut size found n
  rows : s.rows = .known (.ofRows ((Row.placeAll size found).drop n))
  active : s.exhausted = false

theorem cuts_ofRows (positive : 0 < size) (found : List Candidate) :
    Cuts size found 0 (ofRows (.known (.ofRows (Row.placeAll size found))) size) :=
  ⟨Assembly.cut_start positive found, rfl, rfl⟩

/-- Asking a source for the next of the rows. -/
theorem Cuts.pull_row (h : Cuts size found n s) (hn : n < found.length) (site : Site) :
    ∃ s', Cuts size found (n + 1) s' ∧
      (s.pull site = (.taken, s', site) ∧ s'.assembly.last = s.assembly.last ∨
        s.pull site = (.bucket (Bucket.nth size found s.assembly.last), s', site) ∧
          s'.assembly.last = s.assembly.last + 1) := by
  obtain ⟨done, after, haccept, hafter, hdone⟩ := Assembly.accept_cut h.assembly hn
  have next : s.rows.poll site = (.ready (.ok (Row.place size found.length n found[n])),
      .known (.ofRows ((Row.placeAll size found).drop (n + 1))), site) := by
    rw [h.rows, Assembly.drop_placeAll size hn]
    rfl
  have pulled : s.pull site = (match done with | some b => .bucket b | none => .taken,
      ⟨.known (.ofRows ((Row.placeAll size found).drop (n + 1))), after, s.exhausted⟩, site) := by
    unfold pull
    rw [if_neg (by simp [h.active]), next]
    simp only [take, haccept]
    cases done <;> rfl
  refine ⟨⟨.known (.ofRows ((Row.placeAll size found).drop (n + 1))), after, s.exhausted⟩,
    ⟨hafter, rfl, h.active⟩, ?_⟩
  rw [pulled]
  cases done with
  | none => exact .inl ⟨rfl, hdone⟩
  | some b =>
    obtain ⟨hlast, rfl⟩ := hdone
    exact .inr ⟨rfl, hlast⟩

/-- Asking a source that has taken all rows. -/
theorem Cuts.pull_end (h : Cuts size found found.length s) (site : Site) :
    s.pull site = (.ended, { s with exhausted := true }, site) := by
  have rows : (Row.placeAll size found).length = found.length := List.length_mapIdx
  have finished : s.rows.poll site = (.ended, s.rows, site) := by
    rw [h.rows, List.drop_of_length_le (Nat.le_of_eq rows)]
    rfl
  unfold pull
  rw [if_neg (by simp [h.active]), finished]
  simp only [finish, (Assembly.after_all h.assembly.toAfter).1]

/-- The bucket under way is completed within the rows that it still needs. -/
theorem Cuts.nextWithin_eq (h : Cuts size found n s) (hn : n < found.length) {fuel : Nat}
    (enough : min ((s.assembly.last + 1) * size) found.length ≤ n + fuel) (site : Site) :
    ∃ n' s', n' ≤ found.length ∧ Cuts size found n' s' ∧
      s'.assembly.last = s.assembly.last + 1 ∧
      nextWithin fuel s site = (.ok (some (Bucket.nth size found s.assembly.last)), s', site) := by
  induction fuel generalizing n s with
  | zero =>
    have := (h.assembly.bounds hn).2
    omega
  | succ fuel ih =>
    obtain ⟨s', hs', ⟨hpull, hlast⟩ | ⟨hpull, hlast⟩⟩ := h.pull_row hn site
    · have missing : n + 1 < found.length := by
        refine Nat.lt_of_le_of_ne hn fun hend => ?_
        have full := hs'.assembly.between (Assembly.after_all (hend ▸ hs'.assembly.toAfter)).1
        have := (h.assembly.bounds hn).1
        rw [hlast] at full
        omega
      obtain ⟨n', s'', hn', hs'', hlast', hnext⟩ := ih hs' missing (by rw [hlast]; omega)
      refine ⟨n', s'', hn', hs'', by rw [hlast', hlast], ?_⟩
      simp only [nextWithin, hpull]
      rw [hnext, hlast]
    · refine ⟨n + 1, s', hn, hs', hlast, ?_⟩
      simp only [nextWithin, hpull]

/-- **Draining a source.**  It gives the buckets that are left of the cut, one for each call, and
then its end. -/
theorem Cuts.drain_eq (positive : 0 < size) (h : Cuts size found n s) (hn : n ≤ found.length)
    (calls : Nat) (site : Site) :
    s.drain calls site = .ok (((Bucket.cut size found).drop s.assembly.last).take calls) := by
  induction calls generalizing n s with
  | zero => rfl
  | succ calls ih =>
    by_cases hend : n = found.length
    · subst hend
      have finished : s.next site = (.ok none, { s with exhausted := true }, site) := by
        simp only [next, nextWithin, h.pull_end]
      have none_left : (Bucket.cut size found).drop s.assembly.last = [] := by
        refine List.drop_of_length_le ?_
        rw [Bucket.length_cut, (Assembly.after_all h.assembly.toAfter).2]
        exact Nat.le_refl _
      simp only [drain, finished, none_left, List.take_nil]
    · have inside : n < found.length := by omega
      have behind := (h.assembly.bounds inside).1
      have full : (s.assembly.last + 1) * size = s.assembly.last * size + size := Nat.succ_mul _ _
      have enough : min ((s.assembly.last + 1) * size) found.length ≤
          n + (2 * s.assembly.limit + 2) := by
        rw [h.assembly.limit]
        omega
      obtain ⟨n', s', hn', hs', hlast, hnext⟩ := h.nextWithin_eq inside enough site
      have needed : s.assembly.last < (Bucket.cut size found).length := by
        rw [Bucket.length_cut, Bucket.lt_needed_iff positive]
        omega
      have answered : s.next site = _ := hnext
      simp only [drain, answered, ih hs' hn', hlast]
      rw [List.drop_eq_getElem_cons needed, Bucket.getElem_cut, List.take_succ_cons]
      rfl

end BucketSource

/-- The sort value at the end of a bucket does not come behind the one at the beginning of the next.
-/
theorem Bucket.Parts.order_keys {c : Collation} {size : Nat} {found : List Candidate}
    {buckets : List Bucket} (parts : Bucket.Parts size found buckets)
    (increasing : Row.Increasing c found) {q : Nat} (h : q + 1 < buckets.length) :
    Json.order c buckets[q].lastKey buckets[q + 1].firstKey ≠ .gt := by
  have next : buckets[q + 1].cumulative = buckets[q].cumulative + buckets[q + 1].size := by
    rw [parts.cumulative (q + 1) h, parts.cumulative q (by omega),
      List.take_succ_eq_append_getElem h, List.map_append, List.sum_append]
    rfl
  have least := (parts.within buckets[q] (List.getElem_mem (by omega))).1
  have own : buckets[q].size ≤ buckets[q].cumulative := by
    rw [parts.cumulative q (by omega), List.take_succ_eq_append_getElem (by omega), List.map_append,
      List.sum_append]
    exact Nat.le_add_left _ _
  have hlast := parts.lastKey q (by omega)
  have hfirst := parts.firstKey (q + 1) h
  rw [next, Nat.add_sub_cancel] at hfirst
  obtain ⟨x, hx, hlast⟩ := Option.map_eq_some_iff.mp hlast
  obtain ⟨y, hy, hfirst⟩ := Option.map_eq_some_iff.mp hfirst
  obtain ⟨hi, rfl⟩ := List.getElem?_eq_some_iff.mp hx
  obtain ⟨hj, rfl⟩ := List.getElem?_eq_some_iff.mp hy
  have before : buckets[q].cumulative - 1 < buckets[q].cumulative := by omega
  have ordered := List.pairwise_iff_getElem.mp increasing _ _ hi hj before
  rw [← hlast, ← hfirst]
  exact Ordering.ne_gt_iff_isLE.mpr
    (Ordering.isLE_left_of_isLE_then (Ordering.isLE_of_eq_lt ordered))

namespace Row

/-- **Bucketing parts candidates in their order.**  Windowing candidates of different records and
draining a source on their rows gives no error.  The buckets part the candidates among them, put in
order by sort value and id, and no sort value at the end of a bucket comes behind the one at the
beginning of the next.  Given in another order, the candidates make the same buckets. -/
theorem buckets_part_candidates (c : Collation) {size : Nat} (positive : 1 ≤ size)
    {candidates : List Candidate} (distinct : (candidates.map (·.2)).Nodup) (site : Site) :
    let drained := fun calls given =>
      (BucketSource.ofRows (.known (.ofRows (window c size given))) size).drain calls site
    ∃ ordered buckets,
      ordered.Perm candidates ∧
      ordered.Pairwise (fun x y => candidateOrder c x y = .lt) ∧
      (∀ calls, drained calls candidates = .ok (buckets.take calls)) ∧
      Bucket.Parts size ordered buckets ∧
      (buckets.flatMap (·.ids)).Nodup ∧
      (∀ q (h : q + 1 < buckets.length),
        Json.order c buckets[q].lastKey buckets[q + 1].firstKey ≠ .gt) ∧
      ∀ given, given.Perm candidates → ∀ calls, drained calls given = drained calls candidates := by
  intro drained
  have hsize : max 1 size = size := by omega
  have rows : ∀ given, window c size given = placeAll size (sorted c given) := fun given => by
    rw [window, hsize]
  have increasing : Increasing c (sorted c candidates) := increasing_sorted distinct
  have parted := Bucket.parts_cut positive (sorted c candidates)
  refine ⟨sorted c candidates, Bucket.cut size (sorted c candidates), List.mergeSort_perm _ _,
    increasing, fun calls => ?_, parted, ?_, fun q h => parted.order_keys increasing h,
    fun given same calls => ?_⟩
  · have start := BucketSource.cuts_ofRows positive (sorted c candidates)
    rw [← rows] at start
    exact start.drain_eq positive (Nat.zero_le _) calls site
  · rw [parted.ids]
    exact ((List.mergeSort_perm candidates _).map _).nodup_iff.mpr distinct
  · have distinct' : (given.map (·.2)).Nodup := (same.map _).nodup_iff.mpr distinct
    simp only [drained, rows, sorted_of_perm distinct' same]

/-- Three records, two of them with one sort value, in buckets of two: the first bucket has the
least record and the one whose id decides, and the last has what is left. -/
theorem buckets_part_candidates_ties :
    let given : List Candidate := [(.ofNat 1, ⟨"b"⟩), (.ofNat 1, ⟨"a"⟩), (.ofNat 0, ⟨"z"⟩)]
    let drained := fun calls =>
      (BucketSource.ofRows (.known (.ofRows (window .simple 2 given))) 2).drain calls
        { store := .memory {} }
    1 ≤ 2 ∧ (given.map (·.2)).Nodup ∧
      ∃ buckets, Bucket.Parts 2 given.reverse buckets ∧
        (∀ calls, drained calls = .ok (buckets.take calls)) ∧
        drained 3 = .ok [⟨1, [⟨"z"⟩, ⟨"a"⟩], 2, 2, .ofNat 0, .ofNat 1, rfl⟩,
          ⟨2, [⟨"b"⟩], 1, 3, .ofNat 1, .ofNat 1, rfl⟩] := by
  intro given drained
  have positive : 1 ≤ 2 := by decide
  have distinct : (given.map (·.2)).Nodup := by decide
  have increasing : Increasing .simple given.reverse := by
    unfold Increasing
    decide +kernel
  obtain ⟨found, buckets, same, ordered, answered, parts, -⟩ :=
    buckets_part_candidates .simple positive distinct { store := .memory {} }
  obtain rfl : found = given.reverse :=
    Increasing.eq_of_perm ordered increasing (same.trans (List.reverse_perm given).symm)
  refine ⟨positive, distinct, buckets, parts, answered, ?_⟩
  have rows : window .simple 2 given = placeAll 2 given.reverse := by
    rw [window, sorted_of_perm distinct (List.reverse_perm given).symm, increasing.sorted_eq]
    rfl
  simp only [drained, rows]
  rw [(BucketSource.cuts_ofRows positive given.reverse).drain_eq positive (Nat.zero_le _)]
  simp only [given]
  rfl

end Row

end PacedPurge
