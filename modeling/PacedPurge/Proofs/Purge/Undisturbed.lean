import PacedPurge.Proofs.Purge.Endings
import PacedPurge.Proofs.Purge.LiveSafety
import PacedPurge.Proofs.Purge.Simulation

/-!
# Purges that nothing disturbs

At a site where nothing goes wrong (`Site.Calm`) no bucket of a purge fails
(`Plan.unfailed_runWith`).  The purge then hangs on two things that are known before it begins:
whether the store can serve what the plan asks for (`Plan.Fits`), and whether the filter makes sense
for all records of the collection (`Plan.Reads`).  If both hold, a purge that has come to its end
has come to a report (`Plan.report_of_ended`).  A report is never come to where the filter makes no
sense (`Plan.needs_of_report`).

That the purge ends is up to the order of moves.  It does end if no time is wasted, the counters
admit every bucket in the end, and tickets are left when it begins (`Plan.ends_run`).

What can be said of the site and its records before a purge can be said of them after it as well, so
that purges can follow one another.
-/

namespace PacedPurge

variable {α : Type}

/-- Nothing goes wrong at the site: no call is turned away, and the store has no faults. -/
structure Site.Calm (site : Site) : Prop where
  clean : site.gate.Clean
  faultless : site.store.Faultless

/-- Buckets that end well add no entries. -/
theorem PoolSettings.mem_entries_foldl_after {settings : PoolSettings} {buckets : List Bucket}
    {h : Holdings} {e : Entry} (he : e ∈ (buckets.foldl settings.after h).entries settings.ns) :
    e ∈ h.entries settings.ns := by
  cases mode : settings.session.simulate with
  | true => rwa [foldl_after_simulated mode] at he
  | false =>
    rw [entries_after_live mode] at he
    exact (List.mem_filter.mp he).1

/-- A call that is made when nothing goes wrong leaves a store of the same kind. -/
theorem Site.kin_call {site : Site} (clean : site.gate.Clean) (r : Request α) :
    site.store.Kin (site.call r).2.store := by
  rw [(calm_call clean r).2]
  exact (site.store.kin_enter r).trans (Store.kin_leave _ r)

namespace Plan

/-! ## What a purge needs -/

/-- Whether a store with these records can serve what the plan asks for.  Room for pages that are
not too large is taken to be granted. -/
def Fits (plan : Plan) (h : Holdings) : Prop :=
  ∀ c, Collation.parse plan.collation = .ok c →
    h.Serves (h.selectedIds plan.target ⟨plan.filter, c⟩) plan.target ⟨plan.filter, c⟩
      plan.bucketSize

/-- Whether every entry of the collection decodes to a record for which the filter makes sense. -/
def Reads (plan : Plan) (h : Holdings) : Prop :=
  ∀ c, Collation.parse plan.collation = .ok c →
    ∀ e ∈ h.entries plan.target, e.IsReadable ⟨plan.filter, c⟩

section Kept

variable {plan : Plan} {site : Site}

/-- The records that a purge leaves can be served if all could. -/
theorem fits_runWith (fits : plan.Fits site.store.holdings) (policy : Pool.Policy) (fuel : Nat) :
    plan.Fits (plan.runWith policy fuel site).2.store.holdings := by
  intro c hc
  rw [holdings_runWith]
  generalize (plan.history policy fuel site).succeeded = gone
  have served :=
    @PoolSettings.serves_foldl_after (plan.poolSettings site.cores) _ _ _ gone _ (fits c hc)
  refine served.of_subset fun id hid => ?_
  obtain ⟨e, he, hread, selected⟩ := Holdings.mem_selectedIds.mp hid
  exact Holdings.mem_selectedIds.mpr
    ⟨e, PoolSettings.mem_entries_foldl_after he, hread, selected⟩

/-- **Entries on which the filter makes no sense are never removed**, so that it makes sense for all
that a purge leaves only if it did for all before. -/
theorem reads_runWith_iff (policy : Pool.Policy) (fuel : Nat) :
    plan.Reads (plan.runWith policy fuel site).2.store.holdings ↔
      plan.Reads site.store.holdings := by
  have sub : ∀ e ∈ (plan.runWith policy fuel site).2.store.holdings.entries plan.target,
      e ∈ site.store.holdings.entries plan.target := by
    intro e he
    rw [holdings_runWith] at he
    exact PoolSettings.mem_entries_foldl_after he
  constructor
  · intro reads c hc e he
    by_cases left : e ∈ (plan.runWith policy fuel site).2.store.holdings.entries plan.target
    · exact reads c hc e left
    · -- An entry that is gone was removed in a live purge, so its record was selected.
      cases mode : plan.safeguard with
      | true =>
        rw [holdings_runWith, PoolSettings.foldl_after_simulated mode] at left
        exact absurd he left
      | false =>
        rw [entries_runWith_live policy fuel site mode, List.mem_filter, not_and] at left
        have removed : e.isOneOf ((plan.history policy fuel site).succeeded.flatMap (·.ids)) := by
          simpa using left he
        obtain ⟨id, hid, hread⟩ := Entry.isOneOf_iff.mp removed
        obtain ⟨e', he', hread', selected⟩ :=
          (succeeded_selected policy fuel plan site).2 id hid
        obtain rfl := Holdings.eq_of_id?_eq he he' hread hread'
        rw [selects_eq hc] at selected
        exact Entry.isReadable_of_isSelected selected
  · exact fun reads c hc e he => reads c hc e (sub e he)

end Kept

/-! ## The beginning -/

section Calm

variable {plan : Plan} {site : Site}

/-- An accepted plan has a collation that exists. -/
theorem exists_collation (accepted : plan.fault? = none) :
    ∃ c, Collation.parse plan.collation = .ok c := by
  cases hc : Collation.parse plan.collation with
  | ok c => exact ⟨c, rfl⟩
  | error e =>
    unfold fault? at accepted
    simp only [hc] at accepted
    split at accepted
    · cases accepted
    · split at accepted
      · cases accepted
      · split at accepted
        · cases accepted
        · split at accepted
          · cases accepted
          · cases accepted

/-- A pool is steady when it has been opened. -/
theorem steady_openPool {opened : Site} {pool : Pool}
    (hopen : plan.openPool site = (.ok pool, opened)) (calm : site.Calm) (first : Supply) :
    pool.Steady site.store first opened [] := by
  obtain ⟨-, rows, hcall, rfl⟩ := openPool_eq_ok hopen
  have clean : (site.report [plan.openingEvent site.cores]).gate.Clean := calm.clean
  obtain ⟨answered, reached⟩ := Site.calm_call clean (.rows plan.target plan.query)
  have passed := Site.clean_call clean (.rows plan.target plan.query)
  rw [hcall] at answered reached passed
  constructor
  · rw [reached]
    exact (site.store.kin_enter _).trans (Store.kin_leave _ _)
  · exact passed
  · exact fun u hu => (nomatch hu)
  · intro spare kind
    have admitted : site.store.admits (.rows plan.target plan.query) = true :=
      Store.admits_of_available fun kind _ => spare kind
    rw [reached]
    exact (Store.trades_through admitted).out kind (Nat.zero_le _)
  · exact RowSource.undelayed_of_rows answered.symm
  · rfl
  · exact fun _ => rfl

/-- What is known of a pool that has been opened when nothing goes wrong. -/
theorem outset_openPool {opened : Site} {pool : Pool}
    (hopen : plan.openPool site = (.ok pool, opened)) (calm : site.Calm)
    (fits : plan.Fits site.store.holdings) :
    ∃ c found first, Collation.parse plan.collation = .ok c ∧
      site.store.holdings.Serves (found.map (·.2)) plan.target ⟨plan.filter, c⟩ plan.bucketSize ∧
      Pool.Outset (plan.poolSettings site.cores) site.store.holdings first plan.bucketSize found ∧
      Pool.Conduct (plan.poolSettings site.cores) site.store.holdings first plan.bucketSize
        found.length pool opened [] ∧
      pool.Steady site.store first opened [] := by
  obtain ⟨c, found, first, hc, answers, outset, conduct⟩ := conduct_openPool hopen
  refine ⟨c, found, first, hc, (fits c hc).of_subset fun id hid => ?_, outset, conduct,
    steady_openPool hopen calm first⟩
  obtain ⟨candidate, found, rfl⟩ := List.mem_map.mp hid
  exact Holdings.mem_selectedIds.mpr (Selection.mem_gather (answers.gathered.subset found))

/-- **An accepted plan is taken up** if the store can serve it and the filter makes sense, and
nothing will stop the rows. -/
theorem openPool_of_calm (accepted : plan.fault? = none) (calm : site.Calm)
    (fits : plan.Fits site.store.holdings) (reads : plan.Reads site.store.holdings) :
    ∃ pool opened, plan.openPool site = (.ok pool, opened) ∧
      (pool.source.rows.supply opened.store.holdings).fault = none := by
  obtain ⟨c, hc⟩ := exists_collation accepted
  have positive := bucketSize_pos accepted
  have size := pageSize_query accepted
  have clean : (site.report [plan.openingEvent site.cores]).gate.Clean := calm.clean
  have entered := Store.holdings_enter site.store (.rows plan.target plan.query)
  have kept := Site.holdings_call (site.report [plan.openingEvent site.cores])
    (.rows plan.target plan.query) rfl
  have serves : (site.store.enter (.rows plan.target plan.query)).2.holdings.Serves
      (site.store.holdings.selectedIds plan.target ⟨plan.filter, c⟩) plan.target
      ⟨plan.query.filter, c⟩ (max 1 plan.query.bucketSize) := by
    rw [entered, size]
    exact fits c hc
  obtain ⟨rows, answered, whole⟩ := Store.answer_rows hc serves (by rw [entered]; exact reads c hc)
  have called := (Site.calm_call clean (.rows plan.target plan.query)).1.trans answered
  generalize hcall : (site.report [plan.openingEvent site.cores]).call
    (.rows plan.target plan.query) = r
    at called kept
  obtain ⟨answer, opened⟩ := r
  obtain rfl : answer = .ok rows := called
  refine ⟨.start (plan.poolSettings site.cores) (.ofRows rows plan.bucketSize) opened, opened,
    ?_, ?_⟩
  · have nonempty : ¬plan.query.bucketSize = 0 := Nat.pos_iff_ne_zero.mp positive
    simp only [openPool, accepted, BucketSource.openQuery, if_neg nonempty, hcall]
    rfl
  · show (rows.supply opened.store.holdings).fault = none
    have same : opened.store.holdings = site.store.holdings := kept
    rw [same, ← entered]
    exact whole

/-! ## The end -/

/-- A recount is answered if the store can serve the collection and the filter makes sense. -/
theorem take_of_calm {c : Collation} {ids : List RecordId} {size : Nat}
    (hc : Collation.parse plan.collation = .ok c)
    (clean : site.gate.Clean)
    (serves : site.store.holdings.Serves ids plan.target ⟨plan.filter, c⟩ size)
    (readable : ∀ e ∈ site.store.holdings.entries plan.target, e.IsReadable ⟨plan.filter, c⟩)
    (simulate : Bool) :
    ∃ v, (Verification.take plan.target plan.filter plan.collation simulate site).1 = .ok v := by
  have entered := Store.holdings_enter site.store (.count plan.target plan.filter plan.collation)
  rw [← entered] at serves readable
  obtain ⟨n, answered⟩ := Store.answer_count hc serves readable
  have called := (Site.calm_call clean _).1.trans answered
  unfold Verification.take
  generalize site.call (.count plan.target plan.filter plan.collation) = r at called
  obtain ⟨answer, reached⟩ := r
  obtain rfl : answer = .ok n := called
  exact ⟨_, rfl⟩

/-- A pool that has ended without an error comes to a report then. -/
theorem conclude_of_calm {pool : Pool} {c : Collation} {ids : List RecordId} {size : Nat}
    (fatal : pool.fatal = none) (hc : Collation.parse plan.collation = .ok c)
    (clean : site.gate.Clean)
    (serves : site.store.holdings.Serves ids plan.target ⟨plan.filter, c⟩ size)
    (readable : ∀ e ∈ site.store.holdings.entries plan.target, e.IsReadable ⟨plan.filter, c⟩) :
    ∃ report, (plan.conclude pool site).1 = .ok report := by
  have counted : ∃ v, (Verification.take plan.target plan.filter plan.collation
      plan.session.simulate (if pool.totals.buckets = 0 then
        site.report [.nothingMatched plan.target] else site)).1 = .ok v := by
    split
    · exact @take_of_calm plan (site.report [.nothingMatched plan.target]) _ _ _ hc clean serves
        readable _
    · exact take_of_calm hc clean serves readable _
  obtain ⟨v, counted⟩ := counted
  simp only [conclude, Pool.verdict, fatal]
  generalize Verification.take plan.target plan.filter plan.collation plan.session.simulate
    (if pool.totals.buckets = 0 then site.report [.nothingMatched plan.target] else site) = r
    at counted
  obtain ⟨answer, reached⟩ := r
  obtain rfl : answer = .ok v := counted
  exact ⟨_, rfl⟩

/-- How the rows of a pool that has just been opened end. -/
theorem fault_openPool {opened : Site} {pool : Pool} {first : Supply} {size count : Nat}
    (hopen : plan.openPool site = (.ok pool, opened))
    (conduct : Pool.Conduct (plan.poolSettings site.cores) site.store.holdings first size count
      pool opened []) :
    (pool.source.rows.supply opened.store.holdings).fault = first.fault := by
  obtain ⟨-, rows, -, rfl⟩ := openPool_eq_ok hopen
  obtain ⟨n, intake⟩ := conduct.intake
  rw [(intake.stands rfl rfl).supply]

/-- **A purge that has come to its end has come to a report**, if the store could serve it and the
filter makes sense. -/
theorem report_of_ended {policy : Pool.Policy} {fuel : Nat} (accepted : plan.fault? = none)
    (calm : site.Calm) (fits : plan.Fits site.store.holdings)
    (reads : plan.Reads site.store.holdings)
    (ended : (plan.runWith policy fuel site).1.isSome) :
    ∃ report, (plan.runWith policy fuel site).1 = some (.ok report) := by
  obtain ⟨pool, opened, hopen, whole⟩ := openPool_of_calm accepted calm fits reads
  obtain ⟨c, found, first, hc, serves, outset, conduct, begun⟩ := outset_openPool hopen calm fits
  rw [fault_openPool hopen conduct] at whole
  have steady := Pool.steady_play outset serves calm.faultless conduct begun policy fuel
  have records := (Pool.conduct_play outset conduct policy fuel).records
  have served : (pool.play policy fuel opened).2.store.holdings.Serves (found.map (·.2))
      plan.target ⟨plan.filter, c⟩ plan.bucketSize := by
    rw [records]
    generalize History.succeeded _ = gone
    exact @PoolSettings.serves_foldl_after (plan.poolSettings site.cores) _ _ _ gone _ serves
  have readable : ∀ e ∈ (pool.play policy fuel opened).2.store.holdings.entries plan.target,
      e.IsReadable ⟨plan.filter, c⟩ := by
    rw [records]
    exact fun e he => reads c hc e (PoolSettings.mem_entries_foldl_after he)
  unfold runWith at ended ⊢
  simp only [hopen] at ended ⊢
  by_cases stopped : (pool.play policy fuel opened).1.isOver = true
  · obtain ⟨report, concluded⟩ :=
      conclude_of_calm (steady.sound whole) hc steady.clean served readable
    rw [if_pos stopped, concluded]
    exact ⟨report, rfl⟩
  · rw [if_neg stopped] at ended
    cases ended

/-- **No report is come to where the filter makes no sense**, or where the store cannot serve the
plan for another reason than that of a key. -/
theorem needs_of_report {policy : Pool.Policy} {fuel : Nat} {report : Report}
    (h : (plan.runWith policy fuel site).1 = some (.ok report)) :
    plan.Reads site.store.holdings ∧ ∃ c, Collation.parse plan.collation = .ok c ∧
      site.store.holdings.Serves [] plan.target ⟨plan.filter, c⟩ plan.bucketSize := by
  obtain ⟨pool, opened, found, first, hopen, -, -, outset, conduct, -, -, -, whole, c, hc,
    unstopped⟩ := all_delivered h
  refine ⟨fun c' hc' => ?_, c, hc, ?_⟩
  · obtain rfl := Except.ok.inj (hc.symm.trans hc')
    exact Selection.isReadable_of_gather unstopped
  · rw [← fault_openPool hopen conduct] at whole
    obtain ⟨hfault, rows, hcall, rfl⟩ := openPool_eq_ok hopen
    have size := pageSize_query hfault
    have kept := Site.holdings_call (site.report [plan.openingEvent site.cores])
      (.rows plan.target plan.query) rfl
    obtain ⟨e, herror, -⟩ | ⟨s, same, answered, -⟩ :=
      Site.call_cases (site.report [plan.openingEvent site.cores]) (.rows plan.target plan.query)
    · rw [hcall] at herror
      cases herror
    · rw [hcall] at answered kept
      have there : (rows.supply s.holdings).fault = none := by
        rw [same, ← kept]
        exact whole
      have serves := Store.serves_of_rows hc answered.symm there
      rw [same, size] at serves
      exact serves

/-- **No bucket fails.** -/
theorem unfailed_runWith (calm : site.Calm) (fits : plan.Fits site.store.holdings)
    (policy : Pool.Policy) (fuel : Nat) : (plan.history policy fuel site).failed = [] := by
  generalize hopen : plan.openPool site = r
  obtain ⟨answer, opened⟩ := r
  cases answer with
  | error e => rw [History.failed, (views_history_of_error hopen policy fuel).2.1]; rfl
  | ok pool =>
    obtain ⟨c, found, first, -, serves, outset, conduct, begun⟩ := outset_openPool hopen calm fits
    have unfailed :=
      (Pool.steady_play outset serves calm.faultless conduct begun policy fuel).unfailed
    rwa [List.nil_append, History.failed, ← (views_history hopen policy fuel).2.1] at unfailed

/-- **A purge comes to its end** if no time is wasted, the counters admit every bucket in the end,
and tickets are left when it begins. -/
theorem ends_run (calm : site.Calm) (fits : plan.Fits site.store.holdings)
    (relents : site.store.Relents plan.thresholds)
    (spare : ∀ kind, (site.store.tickets kind).available = true) :
    ∃ fuel, (plan.run fuel site).1.isSome := by
  unfold run runWith
  generalize hopen : plan.openPool site = r
  obtain ⟨answer, opened⟩ := r
  cases answer with
  | error e => exact ⟨0, rfl⟩
  | ok pool =>
    obtain ⟨c, found, first, -, serves, outset, conduct, begun⟩ := outset_openPool hopen calm fits
    obtain ⟨fuel, stopped⟩ :=
      Pool.ends_promptly outset serves calm.faultless relents spare conduct begun
    refine ⟨fuel, ?_⟩
    simp only [if_pos stopped]
    rfl

/-! ## The site afterwards -/

theorem kin_openPool (clean : site.gate.Clean) :
    site.store.Kin (plan.openPool site).2.store := by
  unfold openPool
  split
  · exact .refl _
  · unfold BucketSource.openQuery
    by_cases empty : plan.query.bucketSize = 0
    · rw [if_pos empty]
      exact .refl _
    · rw [if_neg empty]
      have called := @Site.kin_call _ (site.report [plan.openingEvent site.cores]) clean
        (.rows plan.target plan.query)
      generalize (site.report [plan.openingEvent site.cores]).call
        (.rows plan.target plan.query) = r at called
      obtain ⟨answer, opened⟩ := r
      cases answer with
      | error e => exact called
      | ok rows => exact called

theorem kin_take (clean : site.gate.Clean) (ns : Namespace) (filter : Filter)
    (collation : Option String) (simulate : Bool) :
    site.store.Kin (Verification.take ns filter collation simulate site).2.store := by
  have called := Site.kin_call clean (.count ns filter collation)
  unfold Verification.take
  generalize site.call (.count ns filter collation) = r at called
  obtain ⟨answer, reached⟩ := r
  cases answer with
  | error e => exact called
  | ok n => exact called

theorem kin_conclude (clean : site.gate.Clean) (pool : Pool) :
    site.store.Kin (plan.conclude pool site).2.store := by
  unfold conclude
  split
  · exact .refl _
  · next totals _ =>
    have counted : site.store.Kin (Verification.take plan.target plan.filter plan.collation
        plan.session.simulate (if totals.buckets = 0 then
          site.report [.nothingMatched plan.target] else site)).2.store := by
      split
      · exact @kin_take (site.report [.nothingMatched plan.target]) clean _ _ _ _
      · exact kin_take clean _ _ _ _
    simp only
    generalize Verification.take plan.target plan.filter plan.collation plan.session.simulate
      (if totals.buckets = 0 then site.report [.nothingMatched plan.target] else site) = r
      at counted
    obtain ⟨answer, reached⟩ := r
    cases answer with
    | error e => exact counted
    | ok v => exact counted

/-- The store is of the same kind after a purge: with as many tickets, and the same counters to tell
in the end. -/
theorem kin_runWith (calm : site.Calm) (fits : plan.Fits site.store.holdings)
    (policy : Pool.Policy) (fuel : Nat) :
    site.store.Kin (plan.runWith policy fuel site).2.store := by
  unfold runWith
  have taken_up := @kin_openPool plan site calm.clean
  generalize hopen : plan.openPool site = r at taken_up
  obtain ⟨answer, opened⟩ := r
  cases answer with
  | error e => exact taken_up
  | ok pool =>
    obtain ⟨c, found, first, -, serves, outset, conduct, begun⟩ := outset_openPool hopen calm fits
    have steady := Pool.steady_play outset serves calm.faultless conduct begun policy fuel
    simp only
    split
    · exact steady.kin.trans (kin_conclude steady.clean _)
    · exact steady.kin

/-- **A purge at a site where nothing goes wrong leaves it as one.** -/
theorem calm_runWith (calm : site.Calm) (fits : plan.Fits site.store.holdings)
    (policy : Pool.Policy) (fuel : Nat) : (plan.runWith policy fuel site).2.Calm := by
  constructor
  · rw [gate_runWith]
    exact Gate.clean_after calm.clean _
  · have kin := kin_runWith calm fits policy fuel
    generalize (plan.runWith policy fuel site).2 = reached at kin
    exact kin.faultless calm.faultless

end Calm

end Plan

end PacedPurge
