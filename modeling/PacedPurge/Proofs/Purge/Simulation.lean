import PacedPurge.Proofs.Purge.Calls

/-!
# Simulated purges

With the safeguard on a purge removes nothing.  Its units stage deletes in transactions and give
these up, whatever came of them; so the store holds after the purge what it held before, wherever
calls failed on the way, the giving up included.  Neither the call that deletes records nor the one
that commits a transaction is ever made.  And when the purge comes to a report, as many records are
left as were selected.
-/

namespace PacedPurge

/-- Buckets that end well leave the records as they are while deletes are simulated. -/
theorem PoolSettings.foldl_after_simulated {settings : PoolSettings}
    (simulated : settings.session.simulate = true) (buckets : List Bucket) (h : Holdings) :
    buckets.foldl settings.after h = h := by
  induction buckets with
  | nil => rfl
  | cons b rest ih =>
    have first : settings.after h b = h := by
      unfold after
      rw [simulated]
      rfl
    rw [List.foldl_cons, first, ih]

namespace Plan

/-- A purge whose deletes are simulated makes only harmless calls. -/
theorem harmless_history {plan : Plan} (simulated : plan.safeguard = true) (policy : Pool.Policy)
    (fuel : Nat) (site : Site) :
    ∀ kind ∈ (plan.history policy fuel site).calls, kind.isHarmless := by
  intro kind hkind
  obtain rfl | rfl | ⟨u, follows, -, made⟩ := calls_history policy fuel plan site kind hkind
  · rfl
  · rfl
  · exact BatchUnit.calls_of_simulated follows simulated kind made

/-- **Simulated purges change nothing.**  Whatever came of the purge, the store holds what it held.
No call that deletes records or commits a transaction was made: the history tells of none, the gate
has been passed by the calls of the history alone, and all disturbances that were meant for such
calls are left.  A report says that the purge was simulated, and that as many records are left as
were selected. -/
theorem simulated_purge_changes_nothing (policy : Pool.Policy) (fuel : Nat) (plan : Plan)
    (site : Site) (simulated : plan.safeguard = true) :
    let reached := (plan.runWith policy fuel site).2
    let calls := (plan.history policy fuel site).calls
    reached.store.holdings = site.store.holdings ∧
      Method.deleteIds ∉ calls ∧ Method.commit ∉ calls ∧
      reached.gate = site.gate.after calls ∧
      (∀ kind ∈ [Method.deleteIds, .commit],
        reached.gate.filter (·.1 = kind) = site.gate.filter (·.1 = kind)) ∧
      ∀ report, (plan.runWith policy fuel site).1 = some (.ok report) →
        report.simulated = true ∧ report.residual = report.matched := by
  intro reached calls
  have kept : reached.store.holdings = site.store.holdings := by
    rw [holdings_runWith]
    exact PoolSettings.foldl_after_simulated simulated _ _
  have harmless := harmless_history simulated policy fuel site
  have passed : reached.gate = site.gate.after calls := gate_runWith policy fuel plan site
  have no_delete : Method.deleteIds ∉ calls := fun hmem => by cases harmless _ hmem
  have no_commit : Method.commit ∉ calls := fun hmem => by cases harmless _ hmem
  refine ⟨kept, no_delete, no_commit, passed, fun kind hkind => ?_, fun report hreport => ?_⟩
  · have not_called : kind ∉ calls := by
      obtain rfl | hlast := List.mem_cons.mp hkind
      · exact no_delete
      · rw [List.mem_singleton.mp hlast]
        exact no_commit
    rw [passed]
    exact Gate.filter_after not_called site.gate
  · obtain ⟨hsimulated, residual, -, matched, -⟩ := report_eq hreport
    refine ⟨hsimulated.trans simulated, ?_⟩
    rw [residual, matched, (taken_of_report hreport).1]
    exact congrArg (fun h => (Holdings.entries h plan.target).countP plan.selects) kept

/-- The orders are all left, and three of them are reported as selected and left, although staging
and giving up failed on the way. -/
theorem simulated_purge_changes_nothing_orders :
    let reached := ((Plan.orders true).runWith Pool.promptly 26 Site.orders).2
    let report : Report := ⟨3, 2, 3, 2, 1, 0, true⟩
    (Plan.orders true).safeguard = true ∧
      ((Plan.orders true).runWith Pool.promptly 26 Site.orders).1 = some (.ok report) ∧
      reached.store.holdings = Site.orders.store.holdings ∧
      reached.gate.filter (·.1 = .deleteIds) = Site.orders.gate.filter (·.1 = .deleteIds) ∧
      report.simulated = true ∧ report.residual = report.matched := by
  intro reached report
  have reported : ((Plan.orders true).runWith Pool.promptly 26 Site.orders).1 =
      some (.ok report) := eq_of_reported (by decide +kernel)
  obtain ⟨kept, -, -, -, left, told⟩ :=
    simulated_purge_changes_nothing Pool.promptly 26 (Plan.orders true) Site.orders rfl
  exact ⟨rfl, reported, kept, left .deleteIds List.mem_cons_self, told report reported⟩

end Plan

end PacedPurge
