import PacedPurge.Proofs.Purge.LiveSafety

/-!
# The account of a purge

The numbers of a report come from different parts of a purge: how many records were selected from
the source, how many were deleted from the answers of the store, how many buckets failed from the
results of units, and how many records are left from a recount.  They balance all the same.  The
selected records are those of the buckets, each bucket was settled once, and in a live purge the
records that are left of those selected are the records of the buckets that failed.
-/

namespace PacedPurge

namespace History

/-- The counts of the results add up to the sizes of the buckets that ended well. -/
theorem sum_deleted {ds : History}
    (counted : ∀ s ∈ ds.settled, s.2.deleted = if s.2.isOk then s.1.size else 0) :
    (ds.results.map (·.deleted)).sum = (ds.succeeded.map Bucket.size).sum := by
  unfold results succeeded
  generalize ds.settled = settled at counted
  induction settled with
  | nil => rfl
  | cons s rest ih =>
    have here := counted s List.mem_cons_self
    have there := ih fun s' hs' => counted s' (List.mem_cons_of_mem _ hs')
    rw [List.map_cons, List.map_cons, List.sum_cons, there, here]
    cases hok : s.2.isOk with
    | true => simp [hok]
    | false => simp [hok]

/-- A bucket that was settled ended well or failed. -/
theorem sum_settled (ds : History) :
    (ds.succeeded.map Bucket.size).sum + (ds.failed.map Bucket.size).sum =
      ((ds.settled.map (·.1)).map Bucket.size).sum := by
  have halves := (List.filter_append_perm (fun s => s.2.isOk) ds.settled).map (·.1)
  have parted := halves.map Bucket.size
  rw [List.map_append, List.map_append] at parted
  rw [← parted.sum_nat, List.sum_append]
  rfl

/-- As many buckets failed as results have an error. -/
theorem length_failed (ds : History) :
    ds.failed.length = ds.results.countP (·.error.isSome) := by
  unfold failed results
  rw [List.length_map, ← List.countP_eq_length_filter, List.countP_map]
  refine List.countP_congr fun s _ => ?_
  unfold ExecutionResult.isOk
  cases herror : s.2.error with
  | none => simp [herror]
  | some text => simp [herror]

end History

/-- Buckets that are not empty hold nothing only if there are none. -/
theorem Bucket.sum_size_eq_zero_iff {buckets : List Bucket} (sized : ∀ b ∈ buckets, 0 < b.size) :
    (buckets.map size).sum = 0 ↔ buckets.length = 0 := by
  cases buckets with
  | nil => exact ⟨fun _ => rfl, fun _ => rfl⟩
  | cons b rest =>
    have first := sized b List.mem_cons_self
    rw [List.map_cons, List.sum_cons, List.length_cons]
    constructor
    · intro h
      omega
    · intro h
      omega

/-- Of distinct selected records that go, each makes one selected entry less. -/
theorem Holdings.countP_selected_left {h : Holdings} {ns : Namespace} {selected : Entry → Bool}
    {gone : List RecordId} (distinct : gone.Nodup)
    (there : ∀ id ∈ gone, ∃ e ∈ h.entries ns, e.id? = some id ∧ selected e) :
    ((h.entries ns).filter fun e => !e.isOneOf gone).countP selected + gone.length =
      (h.entries ns).countP selected := by
  have present : ∀ id ∈ gone, id ∈ h.ids ns := fun id hid =>
    let ⟨e, he, hread, _⟩ := there id hid
    List.mem_filterMap.mpr ⟨e, he, hread⟩
  have all_selected : ∀ e ∈ h.entries ns, e.isOneOf gone → selected e := by
    intro e he hgone
    obtain ⟨id, hid, hread⟩ := Entry.isOneOf_iff.mp hgone
    obtain ⟨e', he', hread', hselected⟩ := there id hid
    rwa [Holdings.eq_of_id?_eq he he' hread hread']
  have counted := h.countP_isOneOf ns distinct present
  have same : (h.entries ns).countP (fun e => selected e && e.isOneOf gone) = gone.length := by
    rw [← counted]
    refine List.countP_congr fun e he => ?_
    simp only [Bool.and_eq_true]
    exact ⟨fun both => both.2, fun hgone => ⟨all_selected e he hgone, hgone⟩⟩
  have parted : (h.entries ns).countP selected =
      (h.entries ns).countP (fun e => selected e && !e.isOneOf gone) +
        (h.entries ns).countP (fun e => selected e && e.isOneOf gone) := by
    rw [← List.countP_filter, ← List.countP_filter, Nat.add_comm]
    exact List.countP_eq_countP_filter_add _ _ _
  rw [List.countP_filter, parted, same]

namespace Plan

/-- What a live purge takes away in entries, and in selected ones, is what its successful buckets
hold. -/
theorem live_shrinks (policy : Pool.Policy) (fuel : Nat) (plan : Plan) (site : Site)
    (live : plan.safeguard = false) :
    let before := site.store.holdings.entries plan.target
    let after := (plan.runWith policy fuel site).2.store.holdings.entries plan.target
    let gone := ((plan.history policy fuel site).succeeded.map Bucket.size).sum
    after.length + gone = before.length ∧
      after.countP plan.selects + gone = before.countP plan.selects := by
  intro before after gone
  let history := plan.history policy fuel site
  have left : after = before.filter (fun e => !e.isOneOf (history.succeeded.flatMap (·.ids))) :=
    entries_runWith_live policy fuel site live
  obtain ⟨distinct, there⟩ := succeeded_selected policy fuel plan site
  have size : (history.succeeded.flatMap (·.ids)).length = gone :=
    Bucket.length_flatMap_ids history.succeeded
  constructor
  · have held : ∀ id ∈ history.succeeded.flatMap (·.ids),
        ∃ e ∈ before, e.id? = some id ∧ (fun _ : Entry => true) e := by
      intro id hid
      obtain ⟨e, he, hread, -⟩ := there id hid
      exact ⟨e, he, hread, rfl⟩
    have all := Holdings.countP_selected_left distinct held
    rw [List.countP_true, ← left, size] at all
    exact all
  · have selected := Holdings.countP_selected_left distinct there
    rw [← left, size] at selected
    exact selected

/-- When a live purge comes to a report, the selected records that are left are those of the buckets
that failed, of which none is empty. -/
theorem residual_of_report {policy : Pool.Policy} {fuel : Nat} {plan : Plan} {site : Site}
    {report : Report} (h : (plan.runWith policy fuel site).1 = some (.ok report))
    (live : plan.safeguard = false) :
    report.residual = ((plan.history policy fuel site).failed.map Bucket.size).sum ∧
      ∀ b ∈ (plan.history policy fuel site).failed, 0 < b.size := by
  obtain ⟨-, residual, -⟩ := report_eq h
  obtain ⟨selected, -, nonempty, settled⟩ := taken_of_report h
  constructor
  · have left := (live_shrinks policy fuel plan site live).2
    have parted := (plan.history policy fuel site).sum_settled
    rw [(settled.map Bucket.size).sum_nat, selected] at parted
    omega
  · intro b hb
    obtain ⟨s, hs, rfl⟩ := List.mem_map.mp hb
    have taken := settled.subset (List.mem_map_of_mem (List.mem_filter.mp hs).1)
    rw [Bucket.size_eq]
    exact List.length_pos_of_ne_nil (nonempty s.1 taken)

/-- **The books of a purge balance.**  A report tells how many records were selected when the purge
began; that they came in as many buckets as they take, numbered from 1 and each settled once; how
many of these failed, as the results say; and how many records the others held.  When the purge was
live, the collection has lost as many entries as were reported deleted, the selected records that
are left are those that were not deleted, and none are left exactly if no bucket failed. -/
theorem report_balances (policy : Pool.Policy) (fuel : Nat) (plan : Plan) (site : Site)
    (report : Report) (h : (plan.runWith policy fuel site).1 = some (.ok report)) :
    let before := site.store.holdings.entries plan.target
    let after := (plan.runWith policy fuel site).2.store.holdings.entries plan.target
    let history := plan.history policy fuel site
    report.matched = before.countP plan.selects ∧
      report.buckets = (report.matched + plan.bucketSize - 1) / plan.bucketSize ∧
      history.taken.map (·.ordinal) = List.range' 1 report.buckets ∧
      (history.settled.map (·.1)).Perm history.taken ∧
      history.settled.map (·.2) = plan.results policy fuel site ∧
      report.failedBuckets = (plan.results policy fuel site).countP (·.error.isSome) ∧
      report.deleted = (history.succeeded.map Bucket.size).sum ∧
      (plan.safeguard = false →
        before.length = after.length + report.deleted ∧
        report.residual + report.deleted = report.matched ∧
        (report.residual = 0 ↔ report.failedBuckets = 0)) := by
  intro before after history
  obtain ⟨-, residual, buckets, matched, failed, deleted⟩ := report_eq h
  obtain ⟨selected, numbered, -, settled⟩ := taken_of_report h
  have matched' : report.matched = before.countP plan.selects := matched.trans selected
  have taken : history.taken.length =
      (before.countP plan.selects + plan.bucketSize - 1) / plan.bucketSize := by
    have counted := congrArg List.length numbered
    rwa [List.length_map, List.length_range'] at counted
  have told := results_eq policy fuel plan site
  have deleted' : report.deleted = (history.succeeded.map Bucket.size).sum :=
    deleted.trans (History.sum_deleted fun s hs =>
      (settled_outcomes policy fuel plan site s hs).2.2)
  refine ⟨matched', ?_, ?_, settled, told.symm, ?_, deleted', fun live => ?_⟩
  · rw [buckets, taken, matched']
  · rw [numbered, buckets, taken]
  · rw [failed, told, History.length_failed]
  · obtain ⟨shrunk, left⟩ := live_shrinks policy fuel plan site live
    have still : report.residual + report.deleted = report.matched := by
      rw [residual, deleted', matched']
      exact left
    obtain ⟨unsettled, sized⟩ := residual_of_report h live
    refine ⟨by rw [deleted']; exact shrunk.symm, still, ?_⟩
    rw [unsettled, failed]
    exact Bucket.sum_size_eq_zero_iff sized

/-- Three orders are selected, in two buckets; the second fails, and its one order is left. -/
theorem report_balances_orders :
    let before := Site.orders.store.holdings.entries Namespace.orders
    let after := ((Plan.orders false).runWith Pool.promptly 16 Site.orders).2.store.holdings.entries
      Namespace.orders
    let report : Report := ⟨1, 2, 3, 2, 1, 0, false⟩
    ((Plan.orders false).runWith Pool.promptly 16 Site.orders).1 = some (.ok report) ∧
      report.matched = before.countP (Plan.orders false).selects ∧
      before.length = after.length + report.deleted ∧
      report.residual + report.deleted = report.matched := by
  intro before after report
  have reported : ((Plan.orders false).runWith Pool.promptly 16 Site.orders).1 =
      some (.ok report) := eq_of_reported (by decide +kernel)
  obtain ⟨matched, -, -, -, -, -, -, live⟩ :=
    report_balances Pool.promptly 16 (Plan.orders false) Site.orders report reported
  obtain ⟨shrunk, left, -⟩ := live rfl
  exact ⟨reported, matched, shrunk, left⟩

end Plan

end PacedPurge
