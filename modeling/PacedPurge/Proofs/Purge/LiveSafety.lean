import Mathlib.Data.List.Flatten
import PacedPurge.Proofs.Purge.Outcome

/-!
# The safety of live purges

A live purge removes the records of the buckets that were settled without an error, and nothing
else: every other entry of the collection is as it was and where it was.  This holds whatever came
of the purge, a report or an error, and at every moment up to then; whichever moves were chosen;
whatever the counters told; and wherever calls were held up, turned away or failed.
-/

namespace PacedPurge

/-- The entries when buckets have ended well in a live purge. -/
theorem PoolSettings.entries_after_live {settings : PoolSettings}
    (live : settings.session.simulate = false) (buckets : List Bucket) (h : Holdings) :
    (buckets.foldl settings.after h).entries settings.ns =
      (h.entries settings.ns).filter fun e => !e.isOneOf (buckets.flatMap (·.ids)) := by
  induction buckets generalizing h with
  | nil =>
    refine (List.filter_eq_self.mpr fun e _ => ?_).symm
    unfold Entry.isOneOf
    cases e.id? with
    | none => rfl
    | some id => rfl
  | cons b rest ih =>
    have first : settings.after h b = h.without settings.ns b.ids := by
      unfold after
      rw [live]
      rfl
    rw [List.foldl_cons, ih, first, Holdings.entries_without, List.filter_filter]
    refine List.filter_congr fun e _ => ?_
    unfold Entry.isOneOf
    cases e.id? with
    | none => rfl
    | some id =>
      by_cases hid : id ∈ b.ids
      · simp [hid]
      · simp [hid]

namespace Plan

/-- What a live purge leaves in its collection. -/
theorem entries_runWith_live (policy : Pool.Policy) (fuel : Nat) {plan : Plan} (site : Site)
    (live : plan.safeguard = false) :
    (plan.runWith policy fuel site).2.store.holdings.entries plan.target =
      (site.store.holdings.entries plan.target).filter fun e =>
        !e.isOneOf ((plan.history policy fuel site).succeeded.flatMap (·.ids)) := by
  have reached := congrArg (·.entries plan.target) (holdings_runWith policy fuel plan site)
  exact reached.trans (PoolSettings.entries_after_live live _ _)

/-- The records of the buckets that ended well are distinct and were selected. -/
theorem succeeded_selected (policy : Pool.Policy) (fuel : Nat) (plan : Plan) (site : Site) :
    ((plan.history policy fuel site).succeeded.flatMap (·.ids)).Nodup ∧
      ∀ id ∈ (plan.history policy fuel site).succeeded.flatMap (·.ids),
        ∃ e ∈ site.store.holdings.entries plan.target, e.id? = some id ∧ plan.selects e := by
  have some_settled := History.succeeded_sublist (plan.history policy fuel site)
  constructor
  · have fewer := some_settled.flatMap fun b : Bucket => b.ids
    exact (nodup_settled policy fuel plan site).sublist fewer
  · intro id hid
    obtain ⟨b, hb, hidb⟩ := List.mem_flatMap.mp hid
    obtain ⟨s, hs, rfl⟩ := List.mem_map.mp (some_settled.subset hb)
    have taken := (settled_outcomes policy fuel plan site s hs).1
    exact (taken_selected policy fuel plan site).2 id (List.mem_flatMap.mpr ⟨s.1, taken, hidb⟩)

/-- **Live purges are safe.**  The entries that are left are those that hold none of the records of
the buckets that were settled without an error, each as it was and in its place.  These records are
distinct, and each of them was there and selected when the purge began.  The buckets that are meant
are those whose results the purge has come to: each result is that of a bucket that was taken. -/
theorem live_removes_settled_records (policy : Pool.Policy) (fuel : Nat) (plan : Plan) (site : Site)
    (live : plan.safeguard = false) :
    let before := site.store.holdings.entries plan.target
    let after := (plan.runWith policy fuel site).2.store.holdings.entries plan.target
    let history := plan.history policy fuel site
    let removed := history.succeeded.flatMap (·.ids)
    after = before.filter (fun e => !e.isOneOf removed) ∧
      removed.Nodup ∧
      (∀ id ∈ removed, ∃ e ∈ before, e.id? = some id ∧ plan.selects e) ∧
      history.settled.map (·.2) = plan.results policy fuel site ∧
      ∀ s ∈ history.settled, s.1 ∈ history.taken ∧ s.2.ordinal = s.1.ordinal := by
  intro before after history removed
  have left : after = before.filter (fun e => !e.isOneOf removed) :=
    entries_runWith_live policy fuel site live
  obtain ⟨distinct, selected⟩ := succeeded_selected policy fuel plan site
  refine ⟨left, distinct, selected, (results_eq policy fuel plan site).symm, fun s hs => ?_⟩
  obtain ⟨taken, ordinal, -⟩ := settled_outcomes policy fuel plan site s hs
  exact ⟨taken, ordinal⟩

/-- Of the orders the first bucket goes, the second fails and is left, and so is what was not
selected. -/
theorem live_removes_settled_records_orders :
    let before := Site.orders.store.holdings.entries Namespace.orders
    let after := ((Plan.orders false).runWith Pool.promptly 16 Site.orders).2.store.holdings.entries
      Namespace.orders
    let history := (Plan.orders false).history Pool.promptly 16 Site.orders
    (Plan.orders false).safeguard = false ∧
      history.succeeded.flatMap (·.ids) = [⟨"a"⟩, ⟨"c"⟩] ∧
      history.failed.flatMap (·.ids) = [⟨"d"⟩] ∧
      after = before.filter (fun e => !e.isOneOf [⟨"a"⟩, ⟨"c"⟩]) ∧
      ∀ id ∈ [RecordId.mk "a", ⟨"c"⟩],
        ∃ e ∈ before, e.id? = some id ∧ (Plan.orders false).selects e := by
  intro before after history
  have removed : history.succeeded.flatMap (·.ids) = [⟨"a"⟩, ⟨"c"⟩] := by decide +kernel
  have failed : history.failed.flatMap (·.ids) = [⟨"d"⟩] := by decide +kernel
  obtain ⟨left, -, selected, -⟩ :=
    live_removes_settled_records Pool.promptly 16 (Plan.orders false) Site.orders rfl
  rw [removed] at left selected
  exact ⟨rfl, removed, failed, left, selected⟩

end Plan

end PacedPurge
