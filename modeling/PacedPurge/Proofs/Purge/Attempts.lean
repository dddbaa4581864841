import PacedPurge.Proofs.Store.Effects
import PacedPurge.Purge.Unit

/-!
# What units do to the records

A unit that follows its course (`BatchUnit.Follows`) has nothing under way but calls that belong to
its bucket: the counters while it samples; then one delete of all its records, or, if deletes are
simulated, a transaction that has these records staged at most and is given up.

From this follows what a stage of a unit can come to (`UnitStep`).  Only one case touches the
records: the bucket ends well, in a live purge, and then its records and no others are gone.  In
every other case, whether the unit goes on, tries again or fails, the records are as they were.
What a bucket that ends well reports is the number of its records, provided that these are distinct
and there.
-/

namespace PacedPurge

/-! ## Attempts -/

/-- Whether an attempt is on the course that its assignment sets. -/
def AttemptPhase.Follows (task : Assignment) : AttemptPhase → Prop
  | .deleting call => task.session.simulate = false ∧
      call.request = .delete task.ns task.ids task.session.writeConcern
  | .beginning call => task.session.simulate = true ∧
      call.request = .begin task.session.writeConcern
  | .staging txn call => task.session.simulate = true ∧
      txn = .start task.session.writeConcern ∧ call.request = .stage txn task.ns task.ids
  | .aborting outcome call => task.session.simulate = true ∧ (∃ txn, call.request = .abort txn) ∧
      ∀ n, outcome = .ok n → n = task.ids.length

/-- The records when an assignment has ended well. -/
def Assignment.after (task : Assignment) (h : Holdings) : Holdings :=
  if task.session.simulate then h else h.without task.ns task.ids

/-- **What a stage of an execution can come to.** -/
inductive ExecutionStep (e : Execution) (site : Site) : Execution.Progress → Site → Prop where
  | goesOn {e' : Execution} {site' : Site} (same : e'.task = e.task)
      (follows : e'.phase.Follows e'.task) (kept : site'.store.holdings = site.store.holdings) :
      ExecutionStep e site (.running e') site'
  | done {attempts : UInt32} {site' : Site}
      (removed : site'.store.holdings = e.task.after site.store.holdings) :
      ExecutionStep e site (.finished ⟨e.task.ordinal, e.task.ids.length, none, attempts⟩) site'
  | gaveUp {text : String} {attempts : UInt32} {site' : Site}
      (kept : site'.store.holdings = site.store.holdings) :
      ExecutionStep e site (.finished ⟨e.task.ordinal, 0, some text, attempts⟩) site'

namespace Execution

/-- An attempt sets out to begin a transaction if deletes are simulated, and otherwise to delete. -/
theorem firstPhase_cases (task : Assignment) :
    (task.session.simulate = true ∧
        firstPhase task = .beginning (.start (.begin task.session.writeConcern))) ∨
      (task.session.simulate = false ∧
        firstPhase task =
          .deleting (.start (.delete task.ns task.ids task.session.writeConcern))) := by
  unfold firstPhase
  cases task.session.simulate with
  | true => exact .inl ⟨rfl, rfl⟩
  | false => exact .inr ⟨rfl, rfl⟩

theorem follows_firstPhase (task : Assignment) : (firstPhase task).Follows task := by
  rcases firstPhase_cases task with ⟨simulated, phase⟩ | ⟨live, phase⟩
  · rw [phase]
    exact ⟨simulated, rfl⟩
  · rw [phase]
    exact ⟨live, rfl⟩

theorem settle_error {e : Execution} {site site' : Site} (error : StoreError)
    (kept : site'.store.holdings = site.store.holdings) :
    ExecutionStep e site (e.settle (.error error) site').1 (e.settle (.error error) site').2 := by
  simp only [settle]
  split
  · exact .goesOn rfl (follows_firstPhase e.task) kept
  · exact .gaveUp kept

theorem settle_ok {e : Execution} {site site' : Site} {n : Nat} (hn : n = e.task.ids.length)
    (removed : site'.store.holdings = e.task.after site.store.holdings) :
    ExecutionStep e site (e.settle (.ok n) site').1 (e.settle (.ok n) site').2 := by
  subst hn
  exact .done removed

/-- **A stage of an execution.**  It comes to one of the three cases, if the records of the
assignment are distinct and there. -/
theorem advance_cases {e : Execution} {site : Site} (follows : e.phase.Follows e.task)
    (distinct : e.task.ids.Nodup)
    (present : ∀ id ∈ e.task.ids, id ∈ site.store.holdings.ids e.task.ns) :
    ExecutionStep e site (e.advance site).1 (e.advance site).2 := by
  obtain ⟨task, attempts, phase⟩ := e
  cases phase with
  | deleting call =>
    obtain ⟨live, hrequest⟩ := follows
    simp only at live hrequest distinct present
    have step := call.step_advance site
    simp only [advance]
    generalize call.advance site = r at step
    obtain ⟨outcome, site'⟩ := r
    cases step with
    | goesOn same kept => exact .goesOn rfl ⟨live, same.trans hrequest⟩ kept
    | turnedAway kept => exact settle_error _ kept
    | served left =>
      have effect := Store.holdings_leave_delete site.store task.ns task.ids
        task.session.writeConcern
      rw [hrequest] at left ⊢
      simp only
      cases hanswer : (site.store.leave (.delete task.ns task.ids task.session.writeConcern)).1 with
      | error error =>
        rw [hanswer, ← left] at effect
        exact settle_error error effect
      | ok n =>
        rw [hanswer, ← left] at effect
        refine settle_ok (Store.count_leave_delete hanswer distinct present) ?_
        simp only [Assignment.after, live]
        exact effect
  | beginning call =>
    obtain ⟨simulated, hrequest⟩ := follows
    simp only at simulated hrequest
    have step := call.step_advance site
    simp only [advance]
    generalize call.advance site = r at step
    obtain ⟨outcome, site'⟩ := r
    cases step with
    | goesOn same kept => exact .goesOn rfl ⟨simulated, same.trans hrequest⟩ kept
    | turnedAway kept => exact settle_error _ kept
    | served left =>
      have kept : site'.store.holdings = site.store.holdings := by
        rw [left]
        exact Store.holdings_leave _ _ (by rw [hrequest]; rfl)
      have begun : (site.store.leave call.request).1 = .ok (.start task.session.writeConcern) := by
        rw [hrequest]
        cases site.store <;> rfl
      rw [begun]
      exact .goesOn rfl ⟨simulated, rfl, rfl⟩ kept
  | staging txn call =>
    obtain ⟨simulated, hbegun, hrequest⟩ := follows
    simp only at simulated hbegun hrequest distinct present
    subst hbegun
    have step := call.step_advance site
    simp only [advance]
    generalize call.advance site = r at step
    obtain ⟨outcome, site'⟩ := r
    cases step with
    | goesOn same kept => exact .goesOn rfl ⟨simulated, rfl, same.trans hrequest⟩ kept
    | turnedAway kept =>
      exact .goesOn rfl ⟨simulated, ⟨_, rfl⟩, fun n hn => by cases hn⟩ kept
    | served left =>
      have kept : site'.store.holdings = site.store.holdings := by
        rw [left]
        exact Store.holdings_leave _ _ (by rw [hrequest]; rfl)
      cases hanswer : (site.store.leave call.request).1 with
      | error error => exact .goesOn rfl ⟨simulated, ⟨_, rfl⟩, fun n hn => by cases hn⟩ kept
      | ok counted =>
        obtain ⟨n, staged⟩ := counted
        rw [hrequest] at hanswer
        have hn := Store.count_leave_stage hanswer distinct present
        refine .goesOn rfl ⟨simulated, ⟨staged, rfl⟩, fun m hm => ?_⟩ kept
        rw [← Except.ok.inj hm]
        exact hn
  | aborting result call =>
    obtain ⟨simulated, ⟨txn, hrequest⟩, hresult⟩ := follows
    simp only at simulated hrequest hresult
    have settled : ∀ site' : Site, site'.store.holdings = site.store.holdings →
        ExecutionStep ⟨task, attempts, .aborting result call⟩ site
          (settle ⟨task, attempts, .aborting result call⟩ result site').1
          (settle ⟨task, attempts, .aborting result call⟩ result site').2 := by
      intro site' kept
      cases result with
      | error error => exact settle_error error kept
      | ok n =>
        refine settle_ok (hresult n rfl) ?_
        simp only [Assignment.after, simulated]
        exact kept
    have step := call.step_advance site
    simp only [advance]
    generalize call.advance site = r at step
    obtain ⟨outcome, site'⟩ := r
    cases step with
    | goesOn same kept =>
      exact .goesOn rfl ⟨simulated, ⟨txn, same.trans hrequest⟩, hresult⟩ kept
    | turnedAway kept => exact settled _ kept
    | served left =>
      refine settled _ ?_
      rw [Site.store_report, left]
      exact Store.holdings_leave _ _ (by rw [hrequest]; rfl)

end Execution

/-! ## Units -/

/-- Whether a unit is on the course that the pool's settings set for its bucket. -/
def BatchUnit.Follows (settings : PoolSettings) (u : BatchUnit) : Prop :=
  match u.phase with
  | .sampling call => call.request = .status
  | .resting _ => True
  | .executing e => e.task = settings.assignment u.bucket ∧ e.phase.Follows e.task

/-- The records when a bucket has ended well. -/
def PoolSettings.after (settings : PoolSettings) (h : Holdings) (b : Bucket) : Holdings :=
  if settings.session.simulate then h else h.without settings.ns b.ids

/-- **What a stage of a unit can come to.** -/
inductive UnitStep (settings : PoolSettings) (u : BatchUnit) (site : Site) :
    BatchUnit.Progress → Site → Prop where
  | goesOn {u' : BatchUnit} {site' : Site} (same : u'.bucket = u.bucket)
      (follows : u'.Follows settings) (kept : site'.store.holdings = site.store.holdings) :
      UnitStep settings u site (.running u') site'
  | turnedAway {u' : BatchUnit} {site' : Site} (same : u'.bucket = u.bucket)
      (follows : u'.Follows settings) (kept : site'.store.holdings = site.store.holdings) :
      UnitStep settings u site (.turnedAway u') site'
  | done {attempts : UInt32} {site' : Site}
      (removed : site'.store.holdings = settings.after site.store.holdings u.bucket) :
      UnitStep settings u site (.finished ⟨u.bucket.ordinal, u.bucket.size, none, attempts⟩) site'
  | gaveUp {text : String} {attempts : UInt32} {site' : Site}
      (kept : site'.store.holdings = site.store.holdings) :
      UnitStep settings u site (.finished ⟨u.bucket.ordinal, 0, some text, attempts⟩) site'
  | failed {e : StoreError} {site' : Site}
      (kept : site'.store.holdings = site.store.holdings) :
      UnitStep settings u site (.failed e) site'

namespace BatchUnit

theorem follows_start (settings : PoolSettings) (b : Bucket) : (start b).Follows settings := rfl

theorem judge_cases {settings : PoolSettings} (u : BatchUnit) (c : Counters) {site site' : Site}
    (kept : site'.store.holdings = site.store.holdings) :
    UnitStep settings u site (u.judge settings c site').1 (u.judge settings c site').2 := by
  simp only [judge]
  split
  · exact .goesOn rfl ⟨rfl, Execution.follows_firstPhase _⟩ kept
  · exact .turnedAway rfl trivial kept

/-- **A stage of a unit.**  It comes to one of the five cases, if the records of the bucket are
distinct and there. -/
theorem advance_cases {settings : PoolSettings} {u : BatchUnit} {site : Site}
    (follows : u.Follows settings) (distinct : u.bucket.ids.Nodup)
    (present : ∀ id ∈ u.bucket.ids, id ∈ site.store.holdings.ids settings.ns) :
    UnitStep settings u site (u.advance settings site).1 (u.advance settings site).2 := by
  obtain ⟨bucket, phase⟩ := u
  cases phase with
  | sampling call =>
    have hrequest : call.request = .status := follows
    have step := call.step_advance site
    simp only [advance]
    generalize call.advance site = r at step
    obtain ⟨outcome, site'⟩ := r
    cases step with
    | goesOn same kept => exact .goesOn rfl (same.trans hrequest) kept
    | turnedAway kept =>
      simp only
      split
      · next c _ => exact judge_cases _ c kept
      · exact .failed kept
    | served left =>
      have kept : site'.store.holdings = site.store.holdings := by
        rw [left]
        exact Store.holdings_leave _ _ (by rw [hrequest]; rfl)
      simp only
      split
      · next c _ => exact judge_cases _ c kept
      · exact .failed kept
  | resting time =>
    simp only [advance]
    split
    · exact .goesOn rfl rfl rfl
    · exact .goesOn rfl trivial rfl
  | executing e =>
    obtain ⟨htask, hphase⟩ := follows
    simp only at htask hphase distinct present
    have step := Execution.advance_cases hphase (by rw [htask]; exact distinct)
      (by rw [htask]; exact present)
    simp only [advance]
    generalize e.advance site = r at step
    obtain ⟨progress, site'⟩ := r
    cases step with
    | goesOn same follows kept => exact .goesOn rfl ⟨same.trans htask, follows⟩ kept
    | done removed =>
      have size : (settings.assignment bucket).ids.length = bucket.size := bucket.size_eq.symm
      rw [htask] at removed ⊢
      rw [size]
      exact .done removed
    | gaveUp kept =>
      rw [htask]
      exact .gaveUp kept

end BatchUnit

end PacedPurge
