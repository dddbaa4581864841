import PacedPurge.Proofs.Purge.Conduct

/-!
# What a purge comes to

A purge that is taken up begins with the conduct of its pool in order (`Plan.conduct_openPool`), so
that everything that is known of pools is known of purges.

In particular the records of the store after a purge are told by its history, whatever came of it:
they are those of the beginning, less the buckets that were settled well if the purge is live
(`Plan.holdings_runWith`).  And a purge that comes to a report has taken all that there was to take,
and settled it (`Plan.runWith_eq_ok`).
-/

namespace PacedPurge

/-- Buckets have as many records together as their sizes add up to. -/
theorem Bucket.length_flatMap_ids (buckets : List Bucket) :
    (buckets.flatMap (·.ids)).length = (buckets.map size).sum := by
  rw [List.length_flatMap]
  exact congrArg List.sum (List.map_congr_left fun b _ => b.size_eq.symm)

namespace Plan

/-- Whether the plan selects the record of an entry. -/
def selects (plan : Plan) (e : Entry) : Bool :=
  match Collation.parse plan.collation with
  | .error _ => false
  | .ok c => e.isSelected ⟨plan.filter, c⟩

theorem selects_eq {plan : Plan} {c : Collation} (hc : Collation.parse plan.collation = .ok c) :
    plan.selects = fun e => e.isSelected ⟨plan.filter, c⟩ := by
  funext e
  simp only [selects, hc]

/-! ## The beginning -/

theorem bucketSize_pos {plan : Plan} (h : plan.fault? = none) : 0 < plan.bucketSize := by
  unfold fault? at h
  split at h
  · cases h
  · split at h
    · cases h
    · split at h
      · cases h
      · omega

/-- The rows of an accepted plan are asked for in pages of its bucket size. -/
theorem pageSize_query {plan : Plan} (h : plan.fault? = none) :
    max 1 plan.query.bucketSize = plan.bucketSize := by
  have positive := bucketSize_pos h
  simp only [query]
  omega

/-- **The beginning of a purge.**  The source has the selected records to deliver, each once, and
all of them unless it is to end in an error. -/
theorem conduct_openPool {plan : Plan} {site opened : Site} {pool : Pool}
    (hopen : plan.openPool site = (.ok pool, opened)) :
    ∃ c found first, Collation.parse plan.collation = .ok c ∧
      first.Answers ⟨plan.filter, c⟩ (site.store.holdings.entries plan.target) plan.bucketSize
        found ∧
      Pool.Outset (plan.poolSettings site.cores) site.store.holdings first plan.bucketSize found ∧
      Pool.Conduct (plan.poolSettings site.cores) site.store.holdings first plan.bucketSize
        found.length pool opened [] := by
  obtain ⟨hfault, rows, hcall, rfl⟩ := openPool_eq_ok hopen
  have positive := bucketSize_pos hfault
  have size := pageSize_query hfault
  have kept : opened.store.holdings = site.store.holdings := by
    have same := Site.holdings_call (site.report [plan.openingEvent site.cores])
      (.rows plan.target plan.query) rfl
    rwa [hcall] at same
  obtain ⟨e, herror, -⟩ | ⟨s, hs, hanswer, -⟩ :=
    Site.call_cases (site.report [plan.openingEvent site.cores]) (.rows plan.target plan.query)
  · rw [hcall] at herror
    cases herror
  · rw [hcall] at hanswer
    obtain ⟨room, behind, c, found, hc, answers⟩ := Store.supply_of_rows hanswer.symm
    rw [hs, size] at answers
    refine ⟨c, found, _, hc, answers, ?_, ?_⟩
    · refine ⟨answers.toDelivers, ?_, fun id hid => ?_⟩
      · exact (answers.gathered.map _).nodup_iff.mpr (Selection.nodup_gather _ _ _)
      · exact (Selection.sublist_gather _ _).subset ((answers.gathered.map _).subset hid)
    · constructor
      · rfl
      · intro u hu
        cases hu
      · exact List.Perm.refl _
      · exact kept
      · intro s hs
        cases hs
      · refine ⟨0, ⟨Nat.zero_le _, ?_, rfl, rfl, fun b hb => by cases hb⟩, fun _ _ => ?_,
          fun h => by cases h⟩
        · exact Assembly.after_start positive _
        · refine ⟨Nat.zero_le _, Assembly.after_start positive _, rfl, room, behind, ?_⟩
          rw [kept]
          rfl

/-- A plan that cannot be taken up leaves the records as they are. -/
theorem holdings_openPool_error {plan : Plan} {site opened : Site} {e : PurgeError}
    (hopen : plan.openPool site = (.error e, opened)) :
    opened.store.holdings = site.store.holdings := by
  unfold openPool at hopen
  split at hopen
  · cases hopen
    rfl
  · unfold BucketSource.openQuery at hopen
    by_cases hsize : plan.query.bucketSize = 0
    · rw [if_pos hsize] at hopen
      cases hopen
      rfl
    · rw [if_neg hsize] at hopen
      have kept := Site.holdings_call (site.report [plan.openingEvent site.cores])
        (.rows plan.target plan.query) rfl
      generalize (site.report [plan.openingEvent site.cores]).call
        (.rows plan.target plan.query) = r
        at hopen kept
      obtain ⟨answer, reached⟩ := r
      cases answer with
      | error e => cases hopen; exact kept
      | ok rows => cases hopen

/-! ## The end -/

/-- What a recount comes to. -/
theorem take_eq_ok {ns : Namespace} {filter : Filter} {collation : Option String}
    {simulate : Bool} {site : Site} {v : Verification}
    (h : (Verification.take ns filter collation simulate site).1 = .ok v) :
    v.simulated = simulate ∧ ∃ c, Collation.parse collation = .ok c ∧
      v.residual = (site.store.holdings.entries ns).countP (·.isSelected ⟨filter, c⟩) := by
  unfold Verification.take at h
  generalize hcall : site.call (.count ns filter collation) = r at h
  obtain ⟨answer, reached⟩ := r
  cases answer with
  | error e => cases h
  | ok n =>
    obtain rfl := Except.ok.inj h
    refine ⟨rfl, ?_⟩
    obtain ⟨e, herror, -⟩ | ⟨s, hs, hanswer, -⟩ := site.call_cases (.count ns filter collation)
    · rw [hcall] at herror
      cases herror
    · rw [hcall] at hanswer
      obtain ⟨c, hc, -, hn⟩ := Store.gather_of_count hanswer.symm
      rw [hs] at hn
      exact ⟨c, hc, hn⟩

theorem holdings_take (ns : Namespace) (filter : Filter) (collation : Option String)
    (simulate : Bool) (site : Site) :
    (Verification.take ns filter collation simulate site).2.store.holdings =
      site.store.holdings := by
  unfold Verification.take
  have kept := site.holdings_call (.count ns filter collation) rfl
  generalize site.call (.count ns filter collation) = r at kept
  obtain ⟨answer, reached⟩ := r
  cases answer with
  | error e => exact kept
  | ok n => exact kept

/-- The site at which the recount of a purge starts. -/
theorem holdings_announced (plan : Plan) (totals : Totals) (site : Site) :
    (if totals.buckets = 0 then site.report [.nothingMatched plan.target]
      else site).store.holdings = site.store.holdings := by
  split
  · rfl
  · rfl

/-- The conclusion of a purge leaves the records as they are. -/
theorem holdings_conclude (plan : Plan) (pool : Pool) (site : Site) :
    (plan.conclude pool site).2.store.holdings = site.store.holdings := by
  unfold conclude
  split
  · rfl
  · next totals _ =>
    have kept := holdings_take plan.target plan.filter plan.collation plan.session.simulate
      (if totals.buckets = 0 then site.report [.nothingMatched plan.target] else site)
    rw [holdings_announced] at kept
    simp only
    generalize Verification.take plan.target plan.filter plan.collation plan.session.simulate
      (if totals.buckets = 0 then site.report [.nothingMatched plan.target] else site) = r at kept
    obtain ⟨answer, reached⟩ := r
    cases answer with
    | error e => exact kept
    | ok v => exact kept

/-- A purge that is concluded with a report had no error, and has counted what is left. -/
theorem conclude_eq_ok {plan : Plan} {pool : Pool} {site : Site} {report : Report}
    (h : (plan.conclude pool site).1 = .ok report) :
    pool.fatal = none ∧ ∃ v : Verification, report = reportOf pool.totals v ∧
      v.simulated = plan.safeguard ∧
      v.residual = (site.store.holdings.entries plan.target).countP plan.selects := by
  unfold conclude at h
  cases hfatal : pool.fatal with
  | some e => simp [Pool.verdict, hfatal] at h
  | none =>
    refine ⟨rfl, ?_⟩
    simp only [Pool.verdict, hfatal] at h
    have counted := fun v => @take_eq_ok plan.target plan.filter plan.collation
      plan.session.simulate
      (if pool.totals.buckets = 0 then site.report [.nothingMatched plan.target] else site) v
    rw [holdings_announced] at counted
    generalize Verification.take plan.target plan.filter plan.collation plan.session.simulate
      (if pool.totals.buckets = 0 then site.report [.nothingMatched plan.target] else site) = r
      at h counted
    obtain ⟨answer, reached⟩ := r
    cases answer with
    | error e => cases h
    | ok v =>
      obtain ⟨simulated, c, hc, residual⟩ := counted v rfl
      rw [← selects_eq hc] at residual
      exact ⟨v, (Except.ok.inj h).symm, simulated, residual⟩

/-! ## From beginning to end -/

/-- **The records after a purge**, however it came out: those of the beginning, less the buckets
that were settled well if the purge is live. -/
theorem holdings_runWith (policy : Pool.Policy) (fuel : Nat) (plan : Plan) (site : Site) :
    (plan.runWith policy fuel site).2.store.holdings =
      (plan.history policy fuel site).succeeded.foldl (plan.poolSettings site.cores).after
        site.store.holdings := by
  unfold runWith
  generalize hopen : plan.openPool site = r
  obtain ⟨answer, opened⟩ := r
  cases answer with
  | error e =>
    have none_succeeded : (plan.history policy fuel site).succeeded = [] :=
      History.succeeded_of_settled (views_history_of_error hopen policy fuel).2.1
    rw [none_succeeded]
    exact holdings_openPool_error hopen
  | ok pool =>
    obtain ⟨c, found, first, -, -, outset, conduct⟩ := conduct_openPool hopen
    have played := (Pool.conduct_play outset conduct policy fuel).records
    have same : (plan.history policy fuel site).succeeded =
        (pool.history policy fuel opened).succeeded := by
      rw [History.succeeded, History.succeeded, (views_history hopen policy fuel).2.1]
    rw [List.nil_append, ← same] at played
    simp only
    split
    · rw [holdings_conclude]
      exact played
    · exact played

/-- **A purge that comes to a report** has taken in everything that was selected, bucket by bucket,
has settled every bucket, and has counted what is left. -/
theorem runWith_eq_ok {policy : Pool.Policy} {fuel : Nat} {plan : Plan} {site : Site}
    {report : Report} (h : (plan.runWith policy fuel site).1 = some (.ok report)) :
    ∃ pool opened, plan.openPool site = (.ok pool, opened) ∧
      (pool.play policy fuel opened).1.isOver = true ∧
      (pool.play policy fuel opened).1.fatal = none ∧
      ∃ v : Verification, report = reportOf (pool.play policy fuel opened).1.totals v ∧
        v.simulated = plan.safeguard ∧
        v.residual = ((plan.runWith policy fuel site).2.store.holdings.entries
          plan.target).countP plan.selects := by
  unfold runWith at h ⊢
  generalize hopen : plan.openPool site = r at h
  obtain ⟨answer, opened⟩ := r
  cases answer with
  | error e => cases h
  | ok pool =>
    refine ⟨pool, opened, rfl, ?_⟩
    simp only at h ⊢
    by_cases hover : (pool.play policy fuel opened).1.isOver = true
    · rw [if_pos hover] at h ⊢
      obtain ⟨hfatal, v, hreport, hsimulated, hresidual⟩ := conclude_eq_ok (Option.some.inj h)
      rw [holdings_conclude]
      exact ⟨hover, hfatal, v, hreport, hsimulated, hresidual⟩
    · rw [if_neg hover] at h
      cases h

/-! ## Buckets and records -/

/-- **What the history of a purge tells of buckets.**  Either nothing, since no pool could be
opened, or what is told of a pool whose conduct is in order, and whose source was to bring the
selected records. -/
theorem history_cases (policy : Pool.Policy) (fuel : Nat) (plan : Plan) (site : Site) :
    ((plan.history policy fuel site).taken = [] ∧ (plan.history policy fuel site).settled = []) ∨
      ∃ c found first pool reached ds, Collation.parse plan.collation = .ok c ∧
        first.Answers ⟨plan.filter, c⟩ (site.store.holdings.entries plan.target) plan.bucketSize
          found ∧
        Pool.Outset (plan.poolSettings site.cores) site.store.holdings first plan.bucketSize found ∧
        Pool.Conduct (plan.poolSettings site.cores) site.store.holdings first plan.bucketSize
          found.length pool reached ds ∧
        (plan.history policy fuel site).taken = ds.taken ∧
        (plan.history policy fuel site).settled = ds.settled := by
  generalize hopen : plan.openPool site = r
  obtain ⟨answer, opened⟩ := r
  cases answer with
  | error e =>
    obtain ⟨htaken, hsettled, -⟩ := views_history_of_error hopen policy fuel
    exact .inl ⟨htaken, hsettled⟩
  | ok pool =>
    obtain ⟨c, found, first, hc, answers, outset, conduct⟩ := conduct_openPool hopen
    have played := Pool.conduct_play outset conduct policy fuel
    obtain ⟨htaken, hsettled, -⟩ := views_history hopen policy fuel
    rw [List.nil_append] at played
    exact .inr ⟨c, found, first, _, _, _, hc, answers, outset, played, htaken, hsettled⟩

/-- The buckets that a purge takes have distinct records, which were selected when it began. -/
theorem taken_selected (policy : Pool.Policy) (fuel : Nat) (plan : Plan) (site : Site) :
    ((plan.history policy fuel site).taken.flatMap (·.ids)).Nodup ∧
      ∀ id ∈ (plan.history policy fuel site).taken.flatMap (·.ids),
        ∃ e ∈ site.store.holdings.entries plan.target, e.id? = some id ∧ plan.selects e := by
  obtain ⟨htaken, -⟩ | ⟨c, found, first, pool, reached, ds, hc, answers, outset, conduct, htaken,
    -⟩ := history_cases policy fuel plan site
  · rw [htaken]
    exact ⟨List.nodup_nil, fun id hid => by cases hid⟩
  · obtain ⟨n, intake⟩ := conduct.intake
    have front := intake.cut.prefix_found outset.delivers
    rw [htaken]
    refine ⟨outset.distinct.sublist front.sublist, fun id hid => ?_⟩
    obtain ⟨candidate, hmem, rfl⟩ := List.mem_map.mp (front.subset hid)
    rw [selects_eq hc]
    exact Selection.mem_gather (answers.gathered.subset hmem)

/-- No bucket that a purge takes is empty. -/
theorem taken_filled (policy : Pool.Policy) (fuel : Nat) (plan : Plan) (site : Site) :
    ∀ b ∈ (plan.history policy fuel site).taken, b.ids ≠ [] := by
  obtain ⟨htaken, -⟩ | ⟨c, found, first, pool, reached, ds, -, -, -, conduct, htaken, -⟩ :=
    history_cases policy fuel plan site
  · rw [htaken]
    exact fun b hb => by cases hb
  · obtain ⟨n, intake⟩ := conduct.intake
    rw [htaken]
    exact intake.cut.filled

/-- Every bucket that was settled was taken before, and has a result of its own number that counts
all its records or none. -/
theorem settled_outcomes (policy : Pool.Policy) (fuel : Nat) (plan : Plan) (site : Site) :
    ∀ s ∈ (plan.history policy fuel site).settled,
      s.1 ∈ (plan.history policy fuel site).taken ∧ s.2.ordinal = s.1.ordinal ∧
        s.2.deleted = if s.2.isOk then s.1.size else 0 := by
  intro s hs
  obtain ⟨-, hsettled⟩ | ⟨c, found, first, pool, reached, ds, -, -, -, conduct, htaken,
    hsettled⟩ := history_cases policy fuel plan site
  · rw [hsettled] at hs
    cases hs
  · rw [hsettled] at hs
    rw [htaken]
    have member := conduct.accounted.subset
      (List.mem_append_right _ (List.mem_append_left _ (List.mem_map_of_mem hs)))
    exact ⟨member, conduct.outcomes s hs⟩

/-- No record is in two of the buckets that were settled, nor twice in one. -/
theorem nodup_settled (policy : Pool.Policy) (fuel : Nat) (plan : Plan) (site : Site) :
    (((plan.history policy fuel site).settled.map (·.1)).flatMap (·.ids)).Nodup := by
  have distinct := (taken_selected policy fuel plan site).1
  obtain ⟨-, hsettled⟩ | ⟨c, found, first, pool, reached, ds, -, -, -, conduct, htaken,
    hsettled⟩ := history_cases policy fuel plan site
  · rw [hsettled]
    exact List.nodup_nil
  · have parted := conduct.accounted.flatMap_right fun b : Bucket => b.ids
    rw [htaken, ← parted.nodup_iff, List.flatMap_append, List.flatMap_append] at distinct
    rw [hsettled]
    exact (List.nodup_append.mp (List.nodup_append.mp distinct).2.1).1

theorem width_pos (plan : Plan) (cores : Nat) : 0 < plan.width cores := by
  unfold width
  split
  · omega
  · exact Nat.lt_of_lt_of_le (by decide) (Nat.le_max_right cores leastWidth)

/-- A purge that comes to a report has had all rows of its source, which are those of all selected
records, and nothing has stopped it from finding them. -/
theorem all_delivered {policy : Pool.Policy} {fuel : Nat} {plan : Plan} {site : Site}
    {report : Report} (h : (plan.runWith policy fuel site).1 = some (.ok report)) :
    ∃ pool opened found first,
      plan.openPool site = (.ok pool, opened) ∧
      (pool.play policy fuel opened).1.isOver = true ∧
      (pool.play policy fuel opened).1.fatal = none ∧
      Pool.Outset (plan.poolSettings site.cores) site.store.holdings first plan.bucketSize found ∧
      Pool.Conduct (plan.poolSettings site.cores) site.store.holdings first plan.bucketSize
        found.length pool opened [] ∧
      Pool.Cut first plan.bucketSize found.length found.length
        (pool.history policy fuel opened).taken
        (pool.play policy fuel opened).1.source.assembly ∧
      first.rows.length = found.length ∧
      found.length = (site.store.holdings.entries plan.target).countP plan.selects ∧
      first.fault = none ∧ ∃ c, Collation.parse plan.collation = .ok c ∧
        (Selection.gather ⟨plan.filter, c⟩ (site.store.holdings.entries plan.target)).2 = none := by
  obtain ⟨pool, opened, hopen, hover, hfatal, -⟩ := runWith_eq_ok h
  obtain ⟨c, found, first, hc, answers, outset, conduct⟩ := conduct_openPool hopen
  have played := Pool.conduct_play outset conduct policy fuel
  obtain ⟨n, intake⟩ := played.intake
  have cut := intake.cut
  rw [List.nil_append] at cut
  -- The pool is over without an error, and there was room for more, so its source has ended.
  obtain ⟨hclosed, hempty⟩ : (pool.play policy fuel opened).1.takesIn = false ∧
      (pool.play policy fuel opened).1.line = [] := by
    simpa only [Pool.isOver, Bool.and_eq_true, List.isEmpty_iff, Bool.not_eq_true'] using hover
  have drained : (pool.play policy fuel opened).1.drained = true := by
    have room : List.length (pool.play policy fuel opened).1.line <
        (pool.play policy fuel opened).1.settings.width := by
      rw [hempty, played.settings_eq]
      exact plan.width_pos site.cores
    simpa [Pool.takesIn, hfatal, room] using hclosed
  obtain ⟨hn, hwhole⟩ := intake.ended drained
  -- So all rows have been delivered, and they are those of all selected records.
  have count : n = found.length := by
    rw [hn, outset.delivers.whole hwhole, Row.placeAll, List.length_mapIdx]
  have matched : found.length =
      (site.store.holdings.entries plan.target).countP plan.selects := by
    rw [selects_eq hc, ← Selection.length_gather (answers.unstopped hwhole)]
    exact answers.gathered.length_eq
  exact ⟨pool, opened, found, first, hopen, hover, hfatal, outset, conduct, count ▸ cut,
    hn.symm.trans count, matched, hwhole, c, hc, answers.unstopped hwhole⟩

/-- What has been taken when a purge comes to a report: all selected records, in as many buckets as
hold them, which are numbered from 1, of which none is empty and each has been settled. -/
theorem taken_of_report {policy : Pool.Policy} {fuel : Nat} {plan : Plan} {site : Site}
    {report : Report} (h : (plan.runWith policy fuel site).1 = some (.ok report)) :
    ((plan.history policy fuel site).taken.map Bucket.size).sum =
        (site.store.holdings.entries plan.target).countP plan.selects ∧
      (plan.history policy fuel site).taken.map (·.ordinal) = List.range' 1
        (((site.store.holdings.entries plan.target).countP plan.selects + plan.bucketSize - 1) /
          plan.bucketSize) ∧
      (∀ b ∈ (plan.history policy fuel site).taken, b.ids ≠ []) ∧
      ((plan.history policy fuel site).settled.map (·.1)).Perm
        (plan.history policy fuel site).taken := by
  obtain ⟨pool, opened, found, first, hopen, hover, hfatal, outset, conduct, cut, rows, matched,
    -⟩ := all_delivered h
  obtain ⟨htaken, hsettled, -⟩ := views_history hopen policy fuel
  have books := books_of_openPool hopen policy fuel
  have accounted := (Pool.conduct_play outset conduct policy fuel).accounted
  rw [List.nil_append] at accounted
  obtain ⟨hpending, hlast⟩ := Assembly.after_all cut.assembly
  have none_held : (pool.play policy fuel opened).1.source.assembly.held = [] := by
    simp only [Assembly.held, hpending]
  have none_lost : (pool.history policy fuel opened).lost = [] := books.lost hfatal
  have no_units : (pool.play policy fuel opened).1.units = [] := by
    simp only [Pool.isOver, Bool.and_eq_true, List.isEmpty_iff] at hover
    rw [Pool.units, hover.2]
    rfl
  rw [htaken, hsettled, ← matched]
  refine ⟨?_, ?_, cut.filled, ?_⟩
  · have all := congrArg List.length cut.delivered
    rw [none_held, List.append_nil, Bucket.length_flatMap_ids, List.length_map, ← rows,
      List.take_length, rows] at all
    exact all
  · rw [cut.numbered, hlast]
  · rw [no_units, none_lost, List.append_nil, List.map_nil, List.nil_append] at accounted
    exact accounted

/-- What a report says, told by the history. -/
theorem report_eq {policy : Pool.Policy} {fuel : Nat} {plan : Plan} {site : Site} {report : Report}
    (h : (plan.runWith policy fuel site).1 = some (.ok report)) :
    report.simulated = plan.safeguard ∧
      report.residual = ((plan.runWith policy fuel site).2.store.holdings.entries
        plan.target).countP plan.selects ∧
      report.buckets = (plan.history policy fuel site).taken.length ∧
      report.matched = ((plan.history policy fuel site).taken.map Bucket.size).sum ∧
      report.failedBuckets = (plan.history policy fuel site).failed.length ∧
      report.deleted = ((plan.history policy fuel site).results.map (·.deleted)).sum := by
  obtain ⟨pool, opened, hopen, -, -, v, rfl, simulated, residual⟩ := runWith_eq_ok h
  obtain ⟨htaken, hsettled, -⟩ := views_history hopen policy fuel
  have books := books_of_openPool hopen policy fuel
  rw [History.failed, History.results, htaken, hsettled]
  exact ⟨simulated, residual, books.buckets, books.records, books.failedBuckets, books.deleted⟩

end Plan

/-! ## A collection to look at -/

/-- The collection of orders. -/
def Namespace.orders : Namespace := ⟨"crm", "orders"⟩

/-- A plan to purge all orders but the one with the id `b`, two at a time. -/
def Plan.orders (safeguard : Bool) : Plan :=
  { database := "crm"
    collection := "orders"
    filter := ⟨[("_id", .object [("$ne", .string "b")])]⟩
    safeguard := safeguard
    bucketSize := 2
    concurrency := some 1 }

/-- Four orders. -/
def Partition.orders : Partition :=
  Std.TreeMap.ofList (["a", "b", "c", "d"].map fun id => (KeyedStore.keyOf ⟨id⟩, "\x7b\x7d"))

/-- A site with four orders, where the second call that deletes records is turned away, and likewise
the second that stages deletes, and the first that gives a transaction up. -/
def Site.orders : Site :=
  { store := .keyed
      { partitions := Std.TreeMap.ofList [("crm__orders", Partition.orders)] }
    gate := [(.deleteIds, ⟨none, none⟩), (.deleteIds, ⟨none, some (.storage "offline")⟩),
      (.stagedDelete, ⟨none, none⟩), (.stagedDelete, ⟨none, some (.storage "offline")⟩),
      (.abort, ⟨none, some (.storage "offline")⟩)] }

/-- The report that a purge has come to, if it has. -/
def Plan.reported : Option (Except PurgeError Report) → Option Report
  | some (.ok report) => some report
  | _ => none

theorem Plan.eq_of_reported {answer : Option (Except PurgeError Report)} {report : Report}
    (h : reported answer = some report) : answer = some (.ok report) := by
  unfold reported at h
  split at h
  · rw [Option.some.inj h]
  · cases h

end PacedPurge
