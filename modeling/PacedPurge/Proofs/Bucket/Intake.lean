import PacedPurge.Proofs.Bucket.Supply

/-!
# Taking in buckets

A source of buckets stands somewhere in the supply with which its stream of rows began
(`BucketSource.At`): so many rows have been delivered, the assembly has taken them in, and the rest
of the supply is still to come.

What asking such a source to go on can come to is said by `PullStep`.  Each row goes into its place,
and no bucket is cut short: the source fails only with an error of its stream, and it ends only when
all rows have been delivered and no bucket is under way.
-/

namespace PacedPurge

namespace BucketSource

/-- A source that has taken `n` rows of the supply with which it began, and is still asked. -/
structure At (first : Supply) (size count n : Nat) (h : Holdings) (s : BucketSource) : Prop where
  within : n ≤ first.rows.length
  assembly : s.assembly.After size count n
  active : s.exhausted = false
  room : s.rows.HasRoom
  behind : s.rows.Behind ((first.rows.take n).map (·.id))
  supply : s.rows.supply h = ⟨first.rows.drop n, first.fault⟩

/-- **What asking a source can come to.** -/
inductive PullStep (first : Supply) (size count n : Nat) (h : Holdings) (s : BucketSource) :
    Pulled → BucketSource → Prop where
  | later {time : Nat} {s' : BucketSource} (stands : s'.At first size count n h)
      (same : s'.assembly = s.assembly) : PullStep first size count n h s (.later time) s'
  | taken {row : Row} {s' : BucketSource} (stands : s'.At first size count (n + 1) h)
      (next : first.rows[n]? = some row) (last : s'.assembly.last = s.assembly.last)
      (held : s'.assembly.held = s.assembly.held ++ [row.id]) :
      PullStep first size count n h s .taken s'
  | bucket {row : Row} {b : Bucket} {s' : BucketSource}
      (stands : s'.At first size count (n + 1) h) (next : first.rows[n]? = some row)
      (last : s'.assembly.last = s.assembly.last + 1) (number : b.ordinal = s'.assembly.last)
      (ids : b.ids = s.assembly.held ++ [row.id]) (held : s'.assembly.held = []) :
      PullStep first size count n h s (.bucket b) s'
  | ended {s' : BucketSource} (all : n = first.rows.length) (whole : first.fault = none)
      (same : s'.assembly = s.assembly) : PullStep first size count n h s .ended s'
  | failed {e : StoreError} {s' : BucketSource} (same : s'.assembly = s.assembly) :
      PullStep first size count n h s (.failed (.stream e)) s'

variable {first : Supply} {size n : Nat} {found : List Candidate} {h : Holdings} {s : BucketSource}

/-- The row that comes next is the one at its index, in its place. -/
theorem next_row (delivers : first.Delivers size found) {row : Row} {rest : List Row}
    (hrest : first.rows.drop n = row :: rest) :
    first.rows[n]? = some row ∧ n < first.rows.length ∧ n < found.length ∧
      rest = first.rows.drop (n + 1) ∧
      first.rows.take (n + 1) = first.rows.take n ++ [row] ∧
      ∃ c, row = Row.place size found.length n c := by
  have inside : n < first.rows.length := by
    have length := congrArg List.length hrest
    rw [List.length_drop, List.length_cons] at length
    omega
  have split := List.drop_eq_getElem_cons inside
  rw [hrest, List.cons.injEq] at split
  obtain ⟨hrow, htail⟩ := split
  have bound : n < found.length := by
    have length := delivers.front.length_le
    rw [Row.placeAll, List.length_mapIdx] at length
    omega
  refine ⟨by rw [hrow]; exact List.getElem?_eq_getElem inside, inside, bound, htail, ?_,
    found[n], ?_⟩
  · rw [List.take_succ_eq_append_getElem inside, ← hrow]
  · have placed := delivers.front.getElem inside
    simp only [Row.placeAll, List.getElem_mapIdx] at placed
    exact hrow.trans placed

/-- A row that has been delivered is taken in. -/
theorem take_cases (delivers : first.Delivers size found)
    (stands : s.At first size found.length n h) {row : Row} {rows : RowSource}
    (next : s.rows.supply h = ⟨row :: (rows.supply h).rows, (rows.supply h).fault⟩)
    (behind : ∀ gone, s.rows.Behind gone → rows.Behind (row.id :: gone)) (room : rows.HasRoom) :
    PullStep first size found.length n h s (take { s with rows } (.ok row)).1
      (take { s with rows } (.ok row)).2 := by
  have supply := stands.supply.symm.trans next
  rw [Supply.mk.injEq] at supply
  obtain ⟨hnext, inside, bound, hrest, hfront, c, hplace⟩ := next_row delivers supply.1
  have passed : rows.Behind ((first.rows.take (n + 1)).map (·.id)) := by
    refine (behind _ stands.behind).subset fun id hid => ?_
    rw [hfront, List.map_append, List.mem_append] at hid
    obtain hbefore | hrow := hid
    · exact List.mem_cons_of_mem _ hbefore
    · rw [List.mem_singleton.mp hrow]
      exact List.mem_cons_self
  obtain ⟨done, after, haccept, hafter, hdone⟩ :=
    Assembly.accept_place stands.assembly bound c
  rw [← hplace] at haccept
  have reached : ∀ s' : BucketSource, s'.rows = rows → s'.assembly = after →
      s'.exhausted = s.exhausted → s'.At first size found.length (n + 1) h := by
    intro s' hrows hassembly hactive
    refine ⟨inside, by rw [hassembly]; exact hafter, hactive.trans stands.active,
      by rw [hrows]; exact room, by rw [hrows]; exact passed, ?_⟩
    rw [hrows, ← hrest, supply.2]
  have id : row.id = c.2 := by rw [hplace]; rfl
  simp only [take, haccept]
  cases done with
  | none =>
    obtain ⟨hlast, hheld⟩ := hdone
    rw [← id] at hheld
    exact .taken (reached _ rfl rfl rfl) hnext hlast hheld
  | some b =>
    obtain ⟨hlast, hordinal, hids, hheld⟩ := hdone
    rw [← id] at hids
    exact .bucket (reached _ rfl rfl rfl) hnext hlast hordinal hids hheld

/-- **Asking a source to go on.**  It comes to one of the five cases, and leaves the records as they
are. -/
theorem pull_cases (delivers : first.Delivers size found) {site : Site}
    (stands : s.At first size found.length n site.store.holdings) :
    PullStep first size found.length n site.store.holdings s (s.pull site).1 (s.pull site).2.1 ∧
      (s.pull site).2.2.store.holdings = site.store.holdings := by
  obtain ⟨step, kept⟩ := RowSource.poll_cases s.rows stands.room site
  unfold pull
  rw [if_neg (by simp [stands.active])]
  generalize s.rows.poll site = r at step kept
  obtain ⟨polled, rows, site'⟩ := r
  cases step with
  | later same behind room =>
    exact ⟨.later ⟨stands.within, stands.assembly, stands.active, room,
      behind _ stands.behind, same.trans stands.supply⟩ rfl, kept⟩
  | row next behind room => exact ⟨take_cases delivers stands next behind room, kept⟩
  | fault stop => exact ⟨.failed rfl, kept⟩
  | ended stop =>
    have supply := stands.supply.symm.trans stop
    rw [Supply.mk.injEq] at supply
    obtain ⟨hrows, hfault⟩ := supply
    have all : n = first.rows.length := by
      have := List.drop_eq_nil_iff.mp hrows
      have := stands.within
      omega
    have count : n = found.length := by
      rw [all, delivers.whole hfault, Row.placeAll, List.length_mapIdx]
    obtain ⟨hpending, -⟩ := Assembly.after_all (count ▸ stands.assembly)
    simp only [finish, hpending]
    exact ⟨.ended all hfault rfl, kept⟩

end BucketSource

end PacedPurge
