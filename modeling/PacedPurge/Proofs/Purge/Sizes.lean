import PacedPurge.Proofs.Purge.Accounting

/-!
# The sizes of buckets

Every bucket that a pool takes has as many records as a bucket of its number has to have
(`Pool.Sized`): all are full, but for the last one.  What is reported about the buckets of a purge
in which none failed is thereby known before the purge begins (`Plan.reported_of_unfailed`).  It
hangs on how many records are selected, and on nothing that happens on the way.
-/

namespace PacedPurge

/-- How many records the bucket of a number has, of `count` records in buckets of `size`. -/
def Bucket.due (size count ordinal : Nat) : Nat := min size (count - (ordinal - 1) * size)

namespace Assembly

/-- How many rows are held, between two buckets or within one. -/
theorem After.length_held {size count n : Nat} {a : Assembly} (h : After size count n a)
    (more : n < count) : n = a.last * size + a.held.length := by
  cases hp : a.pending with
  | none =>
    obtain ⟨place, -⟩ := h.between hp
    have none_held : a.held.length = 0 := by simp only [held, hp, List.length_nil]
    omega
  | some p =>
    obtain ⟨-, -, place, -⟩ := h.within p hp
    have all_held : a.held.length = p.count := by
      simp only [held, hp, List.length_reverse, PartBucket.count]
    rw [all_held]
    exact place

/-- A bucket that has just been completed has the records that it has to have. -/
theorem After.due_complete {size count n : Nat} {a a' : Assembly} (h : After size count n a)
    (h' : After size count (n + 1) a') (more : n < count) (last : a'.last = a.last + 1)
    (complete : a'.held = []) : a.held.length + 1 = Bucket.due size count a'.last := by
  have before := h.length_held more
  have number : (a.last + 1 - 1) * size = a.last * size := by rw [Nat.add_sub_cancel]
  have next : (a.last + 1) * size = a.last * size + size := Nat.succ_mul _ _
  rw [Bucket.due, last, number]
  cases hp : a'.pending with
  | none =>
    obtain ⟨place, room⟩ := h'.between hp
    rw [last] at place room
    omega
  | some p =>
    obtain ⟨-, -, -, some_held, -⟩ := h'.within p hp
    simp only [held, hp, List.reverse_eq_nil_iff] at complete
    simp [PartBucket.count, complete] at some_held

end Assembly

namespace Pool

/-- Whether the buckets that were taken have the records that they have to have. -/
def Sized (size count : Nat) (ds : History) : Prop :=
  ∀ b ∈ ds.taken, b.size = Bucket.due size count b.ordinal

section Sized

variable {settings : PoolSettings} {before : Holdings} {first : Supply} {size : Nat}
  {found : List Candidate} {p : Pool} {site : Site} {ds : History}

theorem Sized.pulled (outset : Outset settings before first size found)
    (conduct : Conduct settings before first size found.length p site ds)
    (takesIn : p.takesIn = true) (sized : Sized size found.length ds) :
    Sized size found.length (ds ++ (p.source.pull site).1.deeds) := by
  obtain ⟨n, intake⟩ := conduct.intake
  obtain ⟨fatal, drained⟩ := active_of_takesIn takesIn
  obtain ⟨step, -⟩ := BucketSource.pull_cases outset.delivers (intake.stands fatal drained)
  generalize p.source.pull site = r at step
  obtain ⟨answer, source, site'⟩ := r
  have quiet : answer.deeds = [] → Sized size found.length (ds ++ answer.deeds) := by
    intro nothing
    rw [nothing, List.append_nil]
    exact sized
  cases step with
  | later stands same => exact quiet rfl
  | taken stands next last held => exact quiet rfl
  | ended all whole same => exact quiet rfl
  | failed same => exact quiet rfl
  | @bucket row b _ stands next last number ids held =>
    have more : n < found.length := by
      obtain ⟨inside, -⟩ := List.getElem?_eq_some_iff.mp next
      have front := outset.delivers.front.length_le
      rw [Row.placeAll, List.length_mapIdx] at front
      omega
    have complete := intake.cut.assembly.due_complete stands.assembly more last held
    intro b' hb'
    rw [History.taken_append, List.mem_append] at hb'
    obtain old | new := hb'
    · exact sized b' old
    · rw [List.mem_singleton.mp new, number, ← complete, Bucket.size_eq, ids, List.length_append]
      rfl

theorem Sized.advanced (sized : Sized size found.length ds) (u : BatchUnit)
    (settings : PoolSettings) (site : Site) :
    Sized size found.length (ds ++ u.deeds settings site) := by
  have untaken : (u.deeds settings site).taken = [] := by
    unfold BatchUnit.deeds
    rw [History.taken_append, u.views_callDeeds.1]
    cases (u.advance settings site).1 <;> rfl
  rw [Sized, History.taken_append, untaken, List.append_nil]
  exact sized

/-- The buckets of a pool have the records that they have to have, after any moves. -/
theorem sized_play (outset : Outset settings before first size found)
    (conduct : Conduct settings before first size found.length p site ds)
    (sized : Sized size found.length ds) (policy : Policy) (fuel : Nat) :
    Sized size found.length (ds ++ p.history policy fuel site) := by
  have kept := play_induction
    (motive := fun p site ds => Conduct settings before first size found.length p site ds ∧
      Sized size found.length ds) ?_ policy fuel (And.intro conduct sized)
  · exact kept.2
  intro p site ds m ⟨conduct, sized⟩
  refine ⟨conduct.moved outset m, ?_⟩
  have step := move_cases p site m
  generalize p.deeds site m = more at step
  generalize p.move site m = r at step
  obtain ⟨p', site'⟩ := r
  cases step with
  | quiet alike kept =>
    rw [List.append_nil]
    exact sized
  | pulled takesIn alike kept => exact sized.pulled outset conduct takesIn
  | advanced place alike kept => exact sized.advanced _ _ _

end Sized

end Pool

namespace Plan

/-- The buckets of a purge that comes to a report have the records that they have to have. -/
theorem sized_taken {policy : Pool.Policy} {fuel : Nat} {plan : Plan} {site : Site}
    {report : Report} (h : (plan.runWith policy fuel site).1 = some (.ok report)) :
    Pool.Sized plan.bucketSize ((site.store.holdings.entries plan.target).countP plan.selects)
      (plan.history policy fuel site) := by
  obtain ⟨pool, opened, found, first, hopen, -, -, outset, conduct, -, -, matched, -⟩ :=
    all_delivered h
  have nothing : Pool.Sized plan.bucketSize found.length [] := fun b hb => by cases hb
  have sized := Pool.sized_play outset conduct nothing policy fuel
  rw [List.nil_append, matched] at sized
  rw [Pool.Sized, (views_history hopen policy fuel).1]
  exact sized

/-- What a purge reports if no bucket fails, when so many records are selected: for each bucket its
number and how many records were deleted. -/
def shares (plan : Plan) (count : Nat) : List (Nat × Nat) :=
  (List.range' 1 ((count + plan.bucketSize - 1) / plan.bucketSize)).map fun ordinal =>
    (ordinal, Bucket.due plan.bucketSize count ordinal)

/-- **What is reported when no bucket fails** is known by how many records are selected. -/
theorem reported_of_unfailed {policy : Pool.Policy} {fuel : Nat} {plan : Plan} {site : Site}
    {report : Report} (h : (plan.runWith policy fuel site).1 = some (.ok report))
    (unfailed : (plan.history policy fuel site).failed = []) :
    let count := (site.store.holdings.entries plan.target).countP plan.selects
    report.matched = count ∧ report.deleted = count ∧
      report.buckets = (count + plan.bucketSize - 1) / plan.bucketSize ∧
      ((plan.results policy fuel site).map fun r => (r.ordinal, r.deleted)).Perm
        (plan.shares count) := by
  intro count
  obtain ⟨-, -, buckets, matched, -, deleted⟩ := report_eq h
  obtain ⟨selected, numbered, -, settled⟩ := taken_of_report h
  have outcomes := settled_outcomes policy fuel plan site
  rw [History.sum_deleted fun s hs => (outcomes s hs).2.2] at deleted
  have sized := sized_taken h
  have well : ∀ s ∈ (plan.history policy fuel site).settled, s.2.isOk = true := by
    intro s hs
    by_contra failed
    have member : s.1 ∈ (plan.history policy fuel site).failed := by
      refine List.mem_map_of_mem (List.mem_filter.mpr ⟨hs, ?_⟩)
      simpa using failed
    rw [unfailed] at member
    cases member
  have all : (plan.history policy fuel site).succeeded =
      (plan.history policy fuel site).settled.map (·.1) := by
    rw [History.succeeded, List.filter_eq_self.mpr well]
  refine ⟨matched.trans selected, ?_, ?_, ?_⟩
  · rw [deleted, all, (settled.map Bucket.size).sum_nat, selected]
  · rw [buckets, ← List.length_map, numbered, List.length_range']
  · -- Each result is that of its bucket, which has the records that it has to have.
    have told : (plan.results policy fuel site).map (fun r => (r.ordinal, r.deleted)) =
        ((plan.history policy fuel site).settled.map (·.1)).map fun b =>
          (b.ordinal, Bucket.due plan.bucketSize count b.ordinal) := by
      rw [results_eq, History.results, List.map_map, List.map_map]
      refine List.map_congr_left fun s hs => ?_
      obtain ⟨taken, ordinal, counted⟩ := outcomes s hs
      rw [well s hs, if_pos rfl, sized s.1 taken] at counted
      exact Prod.ext ordinal counted
    have placed : (plan.history policy fuel site).taken.map (fun b =>
        (b.ordinal, Bucket.due plan.bucketSize count b.ordinal)) = plan.shares count := by
      rw [shares, ← numbered, List.map_map]
      rfl
    rw [told, ← placed]
    exact settled.map _

end Plan

end PacedPurge
