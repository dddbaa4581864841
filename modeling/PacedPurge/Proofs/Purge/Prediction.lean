import PacedPurge.Proofs.Purge.Sizes
import PacedPurge.Proofs.Purge.Undisturbed

/-!
# Dry runs predict live runs

What a purge reports that nothing has disturbed hangs on how many records are selected
(`Plan.reported_of_ended`).  A dry run leaves the records as they are, so that a live run after it
reports the same numbers, bucket by bucket, in whatever order each of them moves; and a live run
leaves no record that is selected, so that the next run finds none
(`Plan.dry_run_predicts_live_run`).

The store has to be able to serve the plan (`Plan.Fits`).  A store in memory can serve any.  A keyed
store sets room aside for each page of a reading, which is as long as a bucket, and cannot do so for
more than `KeyedStore.maxPageSize` records.  An accepted plan with larger buckets comes to no report
there (`Plan.too_large_buckets_unreported`).
-/

namespace PacedPurge

namespace Plan

/-- The plan with the safeguard on or off. -/
def guarded (plan : Plan) (safeguard : Bool) : Plan := { plan with safeguard }

section Guarded

variable (plan : Plan) (safeguard : Bool)

@[simp] theorem target_guarded : (plan.guarded safeguard).target = plan.target := rfl

@[simp] theorem selects_guarded : (plan.guarded safeguard).selects = plan.selects := rfl

@[simp] theorem shares_guarded : (plan.guarded safeguard).shares = plan.shares := rfl

end Guarded

/-- Every bucket has its number for itself. -/
theorem nodup_ordinals_shares (plan : Plan) (count : Nat) :
    ((plan.shares count).map (·.1)).Nodup := by
  have ordinals : (plan.shares count).map (·.1) =
      List.range' 1 ((count + plan.bucketSize - 1) / plan.bucketSize) := by
    rw [shares, List.map_map]
    exact List.map_id _
  rw [ordinals]
  exact List.nodup_range'

/-- What a result tells of its bucket: the number, and how many records were deleted. -/
def counts (results : List ExecutionResult) : List (Nat × Nat) :=
  results.map fun r => (r.ordinal, r.deleted)

section Alone

variable {plan : Plan} {site : Site} {policy : Pool.Policy} {fuel : Nat}

/-- **What a purge reports that nothing has disturbed** hangs on how many records are selected. -/
theorem reported_of_ended (accepted : plan.fault? = none) (calm : site.Calm)
    (fits : plan.Fits site.store.holdings) (reads : plan.Reads site.store.holdings)
    (ended : (plan.runWith policy fuel site).1.isSome) :
    let count := (site.store.holdings.entries plan.target).countP plan.selects
    ∃ report, (plan.runWith policy fuel site).1 = some (.ok report) ∧
      report.matched = count ∧ report.deleted = count ∧
      report.buckets = (count + plan.bucketSize - 1) / plan.bucketSize ∧
      (counts (plan.results policy fuel site)).Perm (plan.shares count) ∧
      ((counts (plan.results policy fuel site)).map (·.1)).Nodup := by
  intro count
  obtain ⟨report, reported⟩ := report_of_ended accepted calm fits reads ended
  obtain ⟨matched, deleted, buckets, shares⟩ :=
    reported_of_unfailed reported (unfailed_runWith calm fits policy fuel)
  refine ⟨report, reported, matched, deleted, buckets, shares, ?_⟩
  have numbered : ((counts (plan.results policy fuel site)).map (·.1)).Perm
      ((plan.shares count).map (·.1)) := shares.map _
  rw [numbered.nodup_iff]
  exact nodup_ordinals_shares plan count

/-- A live purge leaves no record that is selected when nothing has disturbed it. -/
theorem none_left_of_live {report : Report} (live : plan.safeguard = false) (calm : site.Calm)
    (fits : plan.Fits site.store.holdings)
    (reported : (plan.runWith policy fuel site).1 = some (.ok report)) :
    report.residual = 0 ∧
      ((plan.runWith policy fuel site).2.store.holdings.entries plan.target).countP
        plan.selects = 0 := by
  have residual := (residual_of_report reported live).1
  rw [unfailed_runWith calm fits policy fuel] at residual
  exact ⟨residual, (report_eq reported).2.1.symm.trans residual⟩

/-- Where nothing goes wrong, a dry run and a live run leave a site where nothing goes wrong. -/
theorem calm_in_turn (calm : site.Calm) (fits : plan.Fits site.store.holdings)
    (dryMoves liveMoves : Pool.Policy) (dryFuel liveFuel : Nat) :
    ∀ reached ∈ [site, ((plan.guarded true).runWith dryMoves dryFuel site).2,
      ((plan.guarded false).runWith liveMoves liveFuel
        ((plan.guarded true).runWith dryMoves dryFuel site).2).2], reached.Calm := by
  have calm₂ := @calm_runWith (plan.guarded true) site calm fits dryMoves dryFuel
  have fits₂ := @fits_runWith (plan.guarded true) site fits dryMoves dryFuel
  have calm₃ := @calm_runWith (plan.guarded false) _ calm₂ fits₂ liveMoves liveFuel
  intro reached hreached
  simp only [List.mem_cons, List.not_mem_nil, or_false] at hreached
  obtain rfl | rfl | rfl := hreached
  · exact calm
  · exact calm₂
  · exact calm₃

end Alone

/-- What a plan needs is there for the live run and for the next run as it is for the dry run. -/
theorem needs_in_turn {plan : Plan} {first second third : Site} {dryMoves liveMoves : Pool.Policy}
    {dryFuel liveFuel : Nat} (fits : plan.Fits first.store.holdings)
    (next : second.store.holdings =
      ((plan.guarded true).runWith dryMoves dryFuel first).2.store.holdings)
    (last : third.store.holdings =
      ((plan.guarded false).runWith liveMoves liveFuel second).2.store.holdings) :
    second.store.holdings = first.store.holdings ∧
      (∀ site ∈ [first, second, third], plan.Fits site.store.holdings) ∧
      ∀ site ∈ [first, second, third],
        plan.Reads site.store.holdings ↔ plan.Reads first.store.holdings := by
  have same : second.store.holdings = first.store.holdings := by
    rw [next, holdings_runWith, PoolSettings.foldl_after_simulated rfl]
  have fits₂ : plan.Fits second.store.holdings := by
    rw [same]
    exact fits
  have fits₃ : plan.Fits third.store.holdings := by
    rw [last]
    exact @fits_runWith (plan.guarded false) second fits₂ liveMoves liveFuel
  have reads₃ : plan.Reads third.store.holdings ↔ plan.Reads second.store.holdings := by
    rw [last]
    exact @reads_runWith_iff (plan.guarded false) second liveMoves liveFuel
  simp only [List.mem_cons, List.not_mem_nil, or_false, forall_eq_or_imp, forall_eq]
  refine ⟨same, ⟨fits, fits₂, fits₃⟩, trivial, ?_, ?_⟩
  · rw [same]
  · rw [reads₃, same]

/-- **A dry run predicts the live run.**  An accepted plan is carried out three times where nothing
goes wrong and the store can serve it: as a dry run, live on the records that are left, and once
more on those that the live run leaves.  Each purge comes to its end if no time is wasted and the
counters admit every bucket in the end.

Let the three have come to their ends, in any orders of moves.  If the filter makes sense for all
records, each has come to a report.  The first two tell the same numbers of buckets, of selected and
of deleted records, and the same of each bucket, by its number.  The live run leaves no record that
is selected, and the last run finds no bucket and deletes nothing.  If the filter makes no sense for
some record, none of the three has come to a report. -/
theorem dry_run_predicts_live_run (plan : Plan) (first second third : Site)
    (dryMoves liveMoves lastMoves : Pool.Policy) (dryFuel liveFuel lastFuel : Nat)
    (safeguard : Bool) (accepted : plan.fault? = none)
    (calm : ∀ site ∈ [first, second, third], site.Calm)
    (fits : plan.Fits first.store.holdings)
    (next : second.store.holdings =
      ((plan.guarded true).runWith dryMoves dryFuel first).2.store.holdings)
    (last : third.store.holdings =
      ((plan.guarded false).runWith liveMoves liveFuel second).2.store.holdings) :
    let dry := ((plan.guarded true).runWith dryMoves dryFuel first).1
    let live := ((plan.guarded false).runWith liveMoves liveFuel second).1
    let further := ((plan.guarded safeguard).runWith lastMoves lastFuel third).1
    let dryCounts := counts ((plan.guarded true).results dryMoves dryFuel first)
    let liveCounts := counts ((plan.guarded false).results liveMoves liveFuel second)
    (∀ site ∈ [first, second, third], site.store.Relents plan.thresholds →
      (∀ kind, (site.store.tickets kind).available = true) →
      ∀ mode, ∃ fuel, ((plan.guarded mode).run fuel site).1.isSome) ∧
    (dry.isSome → live.isSome → further.isSome →
      (plan.Reads first.store.holdings →
        ∃ d l f, dry = some (.ok d) ∧ live = some (.ok l) ∧ further = some (.ok f) ∧
          d.buckets = l.buckets ∧ d.matched = l.matched ∧ d.deleted = l.deleted ∧
          dryCounts.Perm liveCounts ∧ (dryCounts.map (·.1)).Nodup ∧
          l.residual = 0 ∧ f.buckets = 0 ∧ f.deleted = 0) ∧
      (¬plan.Reads first.store.holdings →
        ∀ report, dry ≠ some (.ok report) ∧ live ≠ some (.ok report) ∧
          further ≠ some (.ok report))) := by
  intro dry live further dryCounts liveCounts
  obtain ⟨same, fitting, readable⟩ := needs_in_turn fits next last
  have member₁ : first ∈ [first, second, third] := List.mem_cons_self
  have member₂ : second ∈ [first, second, third] := List.mem_cons_of_mem _ List.mem_cons_self
  have member₃ : third ∈ [first, second, third] :=
    List.mem_cons_of_mem _ (List.mem_cons_of_mem _ List.mem_cons_self)
  refine ⟨fun site member relents spare mode => ?_, fun ended₁ ended₂ ended₃ =>
    ⟨fun reads => ?_, fun unread report => ⟨fun h => ?_, fun h => ?_, fun h => ?_⟩⟩⟩
  · exact @ends_run (plan.guarded mode) site (calm site member) (fitting site member) relents spare
  · obtain ⟨d, hd, matched, deleted, buckets, shares, distinct⟩ :=
      @reported_of_ended (plan.guarded true) first _ _ accepted (calm _ member₁) fits reads ended₁
    obtain ⟨l, hl, matched', deleted', buckets', shares', -⟩ :=
      @reported_of_ended (plan.guarded false) second _ _ accepted (calm _ member₂)
        (fitting _ member₂) ((readable _ member₂).mpr reads) ended₂
    obtain ⟨f, hf, -, nothing, none_taken, -⟩ :=
      @reported_of_ended (plan.guarded safeguard) third _ _ accepted (calm _ member₃)
        (fitting _ member₃) ((readable _ member₃).mpr reads) ended₃
    obtain ⟨residual, none_left⟩ :=
      @none_left_of_live (plan.guarded false) second _ _ _ rfl (calm _ member₂)
        (fitting _ member₂) hl
    simp only [target_guarded, selects_guarded, shares_guarded] at matched deleted buckets shares
    simp only [target_guarded, selects_guarded, shares_guarded, same]
      at matched' deleted' buckets' shares'
    simp only [target_guarded, selects_guarded, ← last] at nothing none_taken none_left
    rw [none_left] at nothing none_taken
    refine ⟨d, l, f, hd, hl, hf, buckets.trans buckets'.symm, matched.trans matched'.symm,
      deleted.trans deleted'.symm, shares.trans shares'.symm, distinct, residual, ?_, nothing⟩
    · have positive : 0 < plan.bucketSize := bucketSize_pos accepted
      rw [none_taken]
      refine Nat.div_eq_of_lt ?_
      show 0 + plan.bucketSize - 1 < plan.bucketSize
      omega
  · have reads := (@needs_of_report (plan.guarded true) first _ _ _ h).1
    exact unread reads
  · have reads := (@needs_of_report (plan.guarded false) second _ _ _ h).1
    exact unread ((readable _ member₂).mp reads)
  · have reads := (@needs_of_report (plan.guarded safeguard) third _ _ _ h).1
    exact unread ((readable _ member₃).mp reads)

end Plan

/-! ## Orders -/

/-- The site with the orders, when nothing goes wrong there. -/
def Site.calmOrders : Site := { Site.orders with gate := [] }

theorem Site.calm_calmOrders : calmOrders.Calm := ⟨fun _ h => (nomatch h), trivial⟩

theorem Site.available_calmOrders (kind : TicketKind) :
    (calmOrders.store.tickets kind).available = true := by
  cases kind <;> decide

/-- Whatever tickets are out, a bucket is let go. -/
theorem Site.relents_calmOrders : calmOrders.store.Relents Thresholds.standard := by
  intro read write
  have idle : ∀ m ∈ [Thresholds.standard.cache, Thresholds.standard.dirty],
      m.classify (Gauge.percent 0 1073741824) = .low := by decide +kernel
  have unmeasured : ∀ m ∈ [Thresholds.standard.updates, Thresholds.standard.checkpoint],
      m.classify .zero = .low := by decide +kernel
  simp only [List.mem_cons, List.not_mem_nil, or_false, forall_eq_or_imp, forall_eq]
    at idle unmeasured
  simp [Counters.Admit, KeyedStore.report, KeyedStore.counters, Snapshot.ofCounters,
    Snapshot.pressure?, Gauge.read, Gauge.percent?, Gauge.part, Gauge.whole, Gauge.marks,
    Marks.read, Thresholds.forCounters, idle, unmeasured]

namespace Plan

theorem fits_calmOrders : (orders true).Fits Site.calmOrders.store.holdings := by
  intro c hc
  obtain rfl : Collation.simple = c := Except.ok.inj hc
  refine ⟨⟨"crm__orders", by decide +kernel⟩, ?_, fun _ => by decide⟩
  decide +kernel

theorem reads_calmOrders : (orders true).Reads Site.calmOrders.store.holdings := by
  intro c hc
  obtain rfl : Collation.simple = c := Except.ok.inj hc
  exact Selection.isReadable_of_gather (by decide +kernel)

/-- The dry run of the orders predicts the live run when both are carried out at one site. -/
theorem dry_run_predicts_live_run_orders :
    ∃ second third : Site,
      (∀ site ∈ [Site.calmOrders, second, third], site.Calm) ∧
      second.store.holdings =
        (((orders true).guarded true).runWith Pool.promptly 40 Site.calmOrders).2.store.holdings ∧
      third.store.holdings =
        (((orders true).guarded false).runWith Pool.promptly 40 second).2.store.holdings ∧
      (orders true).fault? = none ∧
      (orders true).Fits Site.calmOrders.store.holdings ∧
      (orders true).Reads Site.calmOrders.store.holdings ∧
      (∃ fuel, (((orders true).guarded true).run fuel Site.calmOrders).1.isSome) ∧
      ∃ d l f,
        (((orders true).guarded true).runWith Pool.promptly 40 Site.calmOrders).1 = some (.ok d) ∧
        (((orders true).guarded false).runWith Pool.promptly 40 second).1 = some (.ok l) ∧
        (((orders true).guarded false).runWith Pool.promptly 40 third).1 = some (.ok f) ∧
        d.buckets = l.buckets ∧ d.matched = l.matched ∧ d.deleted = l.deleted ∧
        l.residual = 0 ∧ f.buckets = 0 ∧ f.deleted = 0 := by
  have accepted : (orders true).fault? = none := by decide +kernel
  have calm := calm_in_turn Site.calm_calmOrders fits_calmOrders Pool.promptly Pool.promptly 40 40
  obtain ⟨ends, predicted⟩ := dry_run_predicts_live_run (orders true) Site.calmOrders _ _
    Pool.promptly Pool.promptly Pool.promptly 40 40 40 false accepted calm fits_calmOrders rfl rfl
  obtain ⟨d, l, f, hd, hl, hf, buckets, matched, deleted, -, -, residual, none_taken, nothing⟩ :=
    (predicted (by decide +kernel) (by decide +kernel) (by decide +kernel)).1 reads_calmOrders
  refine ⟨_, _, calm, rfl, rfl, accepted, fits_calmOrders, reads_calmOrders, ?_, d, l, f, hd, hl,
    hf, buckets, matched, deleted, residual, none_taken, nothing⟩
  exact ends Site.calmOrders List.mem_cons_self Site.relents_calmOrders Site.available_calmOrders
    true

/-- **Buckets that are too large for pages**, although the plan is accepted and nothing goes wrong:
neither the dry run nor the live run of the orders comes to a report. -/
theorem too_large_buckets_unreported :
    let plan := { orders true with bucketSize := 18446744073709551615 }
    let site := Site.calmOrders
    plan.fault? = none ∧ site.Calm ∧ plan.Reads site.store.holdings ∧
      site.store.Relents plan.thresholds ∧
      (∀ kind, (site.store.tickets kind).available = true) ∧
      (site.store.holdings.entries plan.target).countP plan.selects = 3 ∧
      ∀ safeguard, (∃ fuel, ((plan.guarded safeguard).run fuel site).1.isSome) ∧
        ∀ policy fuel report,
          ((plan.guarded safeguard).runWith policy fuel site).1 ≠ some (.ok report) := by
  intro plan site
  have accepted : plan.fault? = none := by decide +kernel
  have selected : (site.store.holdings.entries plan.target).countP plan.selects = 3 := by
    decide +kernel
  refine ⟨accepted, Site.calm_calmOrders, reads_calmOrders, Site.relents_calmOrders,
    Site.available_calmOrders, selected, fun safeguard => ⟨⟨3, ?_⟩, fun policy fuel report h => ?_⟩⟩
  · revert safeguard
    decide +kernel
  · obtain ⟨-, c, hc, serves⟩ := needs_of_report h
    obtain rfl : Collation.simple = c := Except.ok.inj hc
    have ordered : KeyedStore.isKeyOrdered ⟨(orders true).filter, .simple⟩ = true := by
      decide +kernel
    have small : 18446744073709551615 ≤ KeyedStore.maxPageSize := serves.pages ordered
    exact absurd small (by decide)

end Plan

end PacedPurge
