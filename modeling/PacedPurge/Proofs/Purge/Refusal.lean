import PacedPurge.Proofs.Filter.Clauses
import PacedPurge.Proofs.Purge.Calls

/-!
# Purges with a filter that makes no sense

Matching stops at the first condition that is false, so a filter of which some part makes no sense
is found out by some records only.  The others are refused without an error, and a scan that goes
page by page may have passed many of them when it comes to one that stops it.

No record is accepted, though, whatever it holds.  So a purge with such a filter takes no bucket,
whether it comes to an error, to a report or to neither; no unit ever starts; and nothing is deleted
or asked to be (`Plan.illFormed_filter_deletes_nothing`).
-/

namespace PacedPurge

/-- An ill-formed filter selects no record. -/
theorem Entry.isSelected_of_illFormed {s : Selection} (illFormed : s.filter.IllFormed) (e : Entry) :
    e.isSelected s = false := by
  unfold isSelected
  split
  · rfl
  · next id doc _ =>
    unfold Selection.selects
    cases accepted : s.filter.accepts s.collation id doc with
    | error fault => rfl
    | ok b =>
      cases b with
      | false => rfl
      | true => exact absurd accepted illFormed.accepts_ne_true

namespace Plan

variable {plan : Plan}

theorem selects_of_illFormed (illFormed : plan.filter.IllFormed) (e : Entry) :
    plan.selects e = false := by
  unfold selects
  split
  · rfl
  · exact e.isSelected_of_illFormed illFormed

/-- A purge that selects no record takes no bucket. -/
theorem taken_of_none_selected {site : Site}
    (none_selected : ∀ e ∈ site.store.holdings.entries plan.target, plan.selects e = false)
    (policy : Pool.Policy) (fuel : Nat) : (plan.history policy fuel site).taken = [] := by
  rw [List.eq_nil_iff_forall_not_mem]
  intro b hb
  apply taken_filled policy fuel plan site b hb
  rw [List.eq_nil_iff_forall_not_mem]
  intro id hid
  obtain ⟨e, he, -, selected⟩ := (taken_selected policy fuel plan site).2 id
    (List.mem_flatMap.mpr ⟨b, hb, hid⟩)
  rw [none_selected e he] at selected
  cases selected

/-- A purge that takes no bucket settles none. -/
theorem settled_of_none_taken {policy : Pool.Policy} {fuel : Nat} {site : Site}
    (none_taken : (plan.history policy fuel site).taken = []) :
    (plan.history policy fuel site).settled = [] := by
  rw [List.eq_nil_iff_forall_not_mem]
  intro s hs
  have taken := (settled_outcomes policy fuel plan site s hs).1
  rw [none_taken] at taken
  cases taken

/-- A purge that takes no bucket asks for the rows and for a recount, and for nothing else. -/
theorem calls_of_none_taken {policy : Pool.Policy} {fuel : Nat} {site : Site}
    (none_taken : (plan.history policy fuel site).taken = []) :
    ∀ kind ∈ (plan.history policy fuel site).calls, kind = .bucketRows ∨ kind = .count := by
  intro kind hkind
  obtain rows | count | ⟨u, -, taken, -⟩ := calls_history policy fuel plan site kind hkind
  · exact .inl rows
  · exact .inr count
  · rw [none_taken] at taken
    cases taken

/-- **Filters that make no sense delete nothing.**  If some part of the filter is ill-formed, the
store holds after the purge what it held before, whatever came of the purge and whatever it was to
do.  No bucket was taken.  No calls were made but those that ask for the rows and for a recount, so
that all disturbances that were meant for other calls are left at the gate.  And a report, if there
is one, tells of no records. -/
theorem illFormed_filter_deletes_nothing (policy : Pool.Policy) (fuel : Nat) (plan : Plan)
    (site : Site) (illFormed : plan.filter.IllFormed) :
    let reached := (plan.runWith policy fuel site).2
    let history := plan.history policy fuel site
    reached.store.holdings = site.store.holdings ∧
      history.taken = [] ∧
      (∀ kind ∈ history.calls, kind = .bucketRows ∨ kind = .count) ∧
      reached.gate = site.gate.after history.calls ∧
      (∀ kind, kind ≠ .bucketRows → kind ≠ .count →
        reached.gate.filter (·.1 = kind) = site.gate.filter (·.1 = kind)) ∧
      ∀ report, (plan.runWith policy fuel site).1 = some (.ok report) →
        report.matched = 0 ∧ report.buckets = 0 ∧ report.deleted = 0 ∧ report.residual = 0 := by
  intro reached history
  have none_selected : ∀ e, plan.selects e = false := selects_of_illFormed illFormed
  have none_taken : history.taken = [] :=
    taken_of_none_selected (fun e _ => none_selected e) policy fuel
  have none_settled : history.settled = [] := settled_of_none_taken none_taken
  have kept : reached.store.holdings = site.store.holdings := by
    rw [holdings_runWith, History.succeeded_of_settled none_settled]
    rfl
  have asked := calls_of_none_taken none_taken
  have passed : reached.gate = site.gate.after history.calls := gate_runWith policy fuel plan site
  refine ⟨kept, none_taken, asked, passed, fun kind rows count => ?_,
    fun report hreport => ?_⟩
  · have not_called : kind ∉ history.calls := fun called => (asked kind called).elim rows count
    rw [passed]
    exact Gate.filter_after not_called site.gate
  · obtain ⟨-, residual, buckets, matched, -, deleted⟩ := report_eq hreport
    have no_results : history.results = [] := by
      rw [History.results, none_settled]
      rfl
    rw [none_taken] at buckets matched
    rw [no_results] at deleted
    refine ⟨matched, buckets, deleted, ?_⟩
    rw [residual, List.countP_eq_zero]
    exact fun e _ => by simp [none_selected e]

/-- A live purge of the orders with a filter that the first two orders do not meet, so that its
senseless part is not seen before the third. -/
theorem illFormed_filter_deletes_nothing_orders :
    let condition : Members := [("$gte", .string "c"), ("$regex", .string "x")]
    let plan : Plan := { Plan.orders false with filter := ⟨[("_id", .object condition)]⟩ }
    let reached := (plan.runWith Pool.promptly 16 Site.orders).2
    plan.filter.IllFormed ∧ plan.safeguard = false ∧
      plan.filter.accepts .simple ⟨"a"⟩ [] = .ok false ∧
      plan.filter.accepts .simple ⟨"c"⟩ [] = .error (.unknownOperator "$regex" "_id") ∧
      (plan.history Pool.promptly 16 Site.orders).calls = [.bucketRows] ∧
      reached.store.holdings = Site.orders.store.holdings ∧
      reached.gate.filter (·.1 = .deleteIds) = Site.orders.gate.filter (·.1 = .deleteIds) := by
  intro condition plan reached
  have illFormed : plan.filter.IllFormed :=
    ⟨_, List.mem_cons_self, .inr ⟨condition, rfl, by decide, ("$regex", .string "x"), by
      simp [condition], .inl (by decide)⟩⟩
  have asked : (plan.history Pool.promptly 16 Site.orders).calls = [.bucketRows] := by
    decide +kernel
  obtain ⟨kept, -, -, -, left, -⟩ :=
    illFormed_filter_deletes_nothing Pool.promptly 16 plan Site.orders illFormed
  exact ⟨illFormed, rfl, by decide +kernel, by decide +kernel, asked, kept,
    left .deleteIds nofun nofun⟩

end Plan

end PacedPurge
