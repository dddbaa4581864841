import Mathlib.Algebra.BigOperators.Group.List.Basic
import PacedPurge.Proofs.Purge.Calm
import PacedPurge.Proofs.Purge.Moves

/-!
# Pools when nothing goes wrong

What holds at every moment of a pool at a site where nothing goes wrong (`Pool.Steady`), whatever
the order of moves is.  No unit is to fail and none has failed.  The tickets that are out are those
that were out before and those that units hold.  And the pool has met an error only if its rows end
in one.

A pool that is over has then settled all its buckets well, and it has a verdict without an error
unless the rows have one.
-/

namespace PacedPurge

/-! ## Sources -/

namespace RowSource

/-- No row of the stream is held up. -/
def Undelayed : RowSource → Prop
  | .known arrivals => ∀ a ∈ arrivals.rest, a.delay = none
  | .paged .. => True

theorem undelayed_ofRows (rows : List Row) : (known (.ofRows rows)).Undelayed := by
  intro a ha
  obtain ⟨row, -, rfl⟩ := List.mem_map.mp ha
  rfl

/-- The rows that a store delivers are not held up. -/
theorem undelayed_of_rows {s : Store} {ns : Namespace} {query : Query} {rows : RowSource}
    (h : (s.leave (.rows ns query)).1 = .ok rows) : rows.Undelayed := by
  cases s with
  | memory m =>
    simp only [Store.leave, MemoryStore.leave] at h
    cases found : m.rows ns query with
    | error e =>
      rw [found] at h
      cases h
    | ok rows =>
      rw [found] at h
      cases h
      exact undelayed_ofRows rows
  | keyed k =>
    simp only [Store.leave, KeyedStore.leave, KeyedStore.perform, KeyedStore.rows] at h
    split at h
    · cases h
    · split at h
      · cases h
        trivial
      · split at h
        · cases h
        · cases h
          exact undelayed_ofRows _

theorem undelayed_poll {s : RowSource} (undelayed : s.Undelayed) (site : Site) :
    (s.poll site).2.1.Undelayed := by
  cases s with
  | known arrivals =>
    have later : (RowSource.known arrivals.take.2).Undelayed := by
      intro a ha
      refine undelayed a ?_
      unfold Arrivals.take at ha
      split at ha
      · exact ha
      · next heq =>
        rw [heq]
        exact List.mem_cons_of_mem _ ha
    simp only [poll]
    split
    · exact later
    · split
      · exact later
      · exact undelayed
  | paged scan buffered =>
    cases buffered with
    | cons row rest => trivial
    | nil =>
      simp only [poll]
      split
      · trivial
      · split
        · unfold takePage
          split
          · trivial
          · split
            · trivial
            · trivial
        · trivial

/-- A page is fetched with a ticket that is given back at once. -/
theorem trades_poll (s : RowSource) (site : Site) :
    site.store.Trades (s.poll site).2.2.store (fun _ => 0) (fun _ => 0) := by
  cases s with
  | known arrivals =>
    simp only [poll]
    split
    · exact .refl _ _
    · split
      · exact .refl _ _
      · exact .refl _ _
  | paged scan buffered =>
    cases buffered with
    | cons row rest => exact .refl _ _
    | nil =>
      simp only [poll]
      split
      · exact .refl _ _
      · split
        · next admitted =>
          simp only [fetchPage, Site.store_leave, Site.store_enter]
          exact Store.trades_through admitted
        · exact .refl _ _

end RowSource

namespace BucketSource

theorem undelayed_pull {s : BucketSource} (undelayed : s.rows.Undelayed) (site : Site) :
    (s.pull site).2.1.rows.Undelayed := by
  rw [(rows_pull s site).1]
  split
  · exact undelayed
  · exact RowSource.undelayed_poll undelayed site

theorem trades_pull (s : BucketSource) (site : Site) :
    site.store.Trades (s.pull site).2.2.store (fun _ => 0) (fun _ => 0) := by
  rw [(rows_pull s site).2]
  split
  · exact .refl _ _
  · exact RowSource.trades_poll s.rows site

/-- A source whose rows do not end in an error does not fail. -/
theorem pull_of_whole {first : Supply} {size n : Nat} {found : List Candidate} {s : BucketSource}
    {site : Site} (delivers : first.Delivers size found) (whole : first.fault = none)
    (stands : s.At first size found.length n site.store.holdings) (e : BucketError) :
    (s.pull site).1 ≠ .failed e := by
  intro h
  have step := (pull_cases delivers stands).1
  rw [h] at step
  generalize (s.pull site).2.1 = after at step
  cases step with
  | failed same =>
    have polled := poll_of_stream h
    have asked := (RowSource.poll_cases s.rows stands.room site).1
    rw [polled] at asked
    generalize (s.rows.poll site).2.1 = left at asked
    cases asked with
    | fault stop =>
      have supply := stands.supply.symm.trans stop
      rw [Supply.mk.injEq, whole] at supply
      cases supply.2

end BucketSource

/-! ## Units -/

/-- What a unit leaves behind when it has gone on: other units that are not to fail either, which
hold what it has taken and not given back, and no failure. -/
theorem BatchUnit.CalmStep.outcome {t : Thresholds} {u : BatchUnit} {site site' : Site}
    {progress : BatchUnit.Progress} (step : CalmStep t u site progress site')
    (unharmed : u.Unharmed) (b : Bucket) :
    (∀ u' ∈ progress.units, u'.Unharmed) ∧
      site.store.Trades site'.store (u.holding site.store)
        (fun kind => (progress.units.map fun u' => u'.holding site.store kind).sum) ∧
      (progress.deeds b).failed = [] ∧ progress.troubles b = [] := by
  have one : ∀ u' : BatchUnit, (fun kind => ([u'].map fun u => u.holding site.store kind).sum) =
      u'.holding site.store := by
    intro u'
    funext kind
    exact List.sum_singleton
  have alone : ∀ u' : BatchUnit, u'.Unharmed → ∀ other ∈ [u'], other.Unharmed := by
    intro u' h other hother
    rw [List.mem_singleton.mp hother]
    exact h
  cases step with
  | stays barred =>
    refine ⟨alone u unharmed, ?_, rfl, rfl⟩
    rw [Progress.units, one]
    exact .refl _ _
  | nears unharmed' nearer trades =>
    refine ⟨alone _ unharmed', ?_, rfl, rfl⟩
    rw [Progress.units, one]
    exact trades
  | turnedAway unharmed' spent trades =>
    refine ⟨alone _ unharmed', ?_, rfl, rfl⟩
    rw [Progress.units, one]
    exact trades
  | done ok trades =>
    refine ⟨fun u' h => (nomatch h), trades, ?_, rfl⟩
    simp only [Progress.deeds, History.failed_settled, ok, if_true]

/-- A collection that can be served can be served when buckets have ended well. -/
theorem PoolSettings.serves_foldl_after {settings : PoolSettings} {ids : List RecordId}
    {selection : Selection} {size : Nat} (buckets : List Bucket) {h : Holdings}
    (serves : h.Serves ids settings.ns selection size) :
    (buckets.foldl settings.after h).Serves ids settings.ns selection size := by
  induction buckets generalizing h with
  | nil => exact serves
  | cons b rest ih =>
    refine ih ?_
    unfold after
    split
    · exact serves
    · exact serves.without b.ids

/-! ## Pools -/

namespace Pool

/-- **What holds at every moment of a pool when nothing goes wrong**, if it began with a store and
a supply of rows. -/
structure Steady (origin : Store) (first : Supply) (p : Pool) (site : Site) (ds : History) :
    Prop where
  kin : origin.Kin site.store
  clean : site.gate.Clean
  unharmed : ∀ u ∈ p.units, u.Unharmed
  balanced : (∀ kind, (origin.tickets kind).available = true) →
    ∀ kind, (site.store.tickets kind).out =
      (origin.tickets kind).out + (p.units.map fun u => u.holding origin kind).sum
  undelayed : p.source.rows.Undelayed
  unfailed : ds.failed = []
  sound : first.fault = none → p.fatal = none

section Steady

variable {origin : Store} {settings : PoolSettings} {before : Holdings} {first : Supply}
  {size room : Nat} {selection : Selection} {found : List Candidate} {p q : Pool}
  {site site' : Site} {ds : History}

theorem Steady.of_alike (steady : p.Steady origin first site ds) (alike : p.Alike q)
    (kept : site.Kept site') : q.Steady origin first site' ds := by
  refine ⟨?_, ?_, fun u hu => steady.unharmed u (alike.units.subset hu), fun spare kind => ?_, ?_,
    steady.unfailed, fun whole => alike.fatal.trans (steady.sound whole)⟩
  · rw [kept.store]
    exact steady.kin
  · rw [kept.gate]
    exact steady.clean
  · rw [kept.store, steady.balanced spare, (alike.units.map _).sum_nat]
  · rw [alike.source]
    exact steady.undelayed

theorem Steady.pulled (outset : Outset settings before first size found)
    (conduct : Conduct settings before first size found.length p site ds)
    (steady : p.Steady origin first site ds) (takesIn : p.takesIn = true) :
    (p.afterPull (p.source.pull site).2.1 (p.source.pull site).1).Steady origin first
      (p.source.pull site).2.2 (ds ++ (p.source.pull site).1.deeds) := by
  have traded := p.source.trades_pull site
  have undelayed := BucketSource.undelayed_pull steady.undelayed site
  have gate := p.source.gate_pull site
  obtain ⟨hfatal, hdrained⟩ := active_of_takesIn takesIn
  obtain ⟨n, intake⟩ := conduct.intake
  have unfailing : first.fault = none → ∀ e, (p.source.pull site).1 ≠ .failed e := fun whole =>
    BucketSource.pull_of_whole outset.delivers whole (intake.stands hfatal hdrained)
  generalize p.source.pull site = r at traded undelayed gate unfailing
  obtain ⟨answer, source, site'⟩ := r
  have same : ∀ kind, (site'.store.tickets kind).out = (site.store.tickets kind).out := fun kind =>
    traded.out kind (Nat.zero_le _)
  have clean : site'.gate.Clean := by
    rw [gate]
    exact steady.clean
  -- Only a bucket adds a unit, which has just set out.
  have quiet : answer.deeds.failed = [] → (p.afterPull source answer).units = p.units →
      (p.afterPull source answer).source = source →
      (first.fault = none → (p.afterPull source answer).fatal = none) →
      (p.afterPull source answer).Steady origin first site' (ds ++ answer.deeds) := by
    intro none_failed units rows sound
    refine ⟨steady.kin.trans traded.kin, clean, ?_, fun spare kind => ?_, ?_, ?_, sound⟩
    · rw [units]
      exact steady.unharmed
    · rw [same, units]
      exact steady.balanced spare kind
    · rw [rows]
      exact undelayed
    · rw [History.failed_append, steady.unfailed, none_failed]
      rfl
  cases answer with
  | taken => exact quiet rfl rfl rfl steady.sound
  | later time => exact quiet rfl rfl rfl steady.sound
  | ended => exact quiet rfl rfl rfl steady.sound
  | failed e => exact quiet rfl rfl rfl fun whole => absurd rfl (unfailing whole e)
  | bucket b =>
    have units : (p.afterPull source (.bucket b)).units = p.units ++ [.start b] :=
      Line.tasks_join p.line (.start b)
    refine ⟨steady.kin.trans traded.kin, clean, fun u hu => ?_, fun spare kind => ?_, undelayed, ?_,
      steady.sound⟩
    · rw [units, List.mem_append] at hu
      obtain hold | hnew := hu
      · exact steady.unharmed u hold
      · rw [List.mem_singleton.mp hnew]
        exact BatchUnit.start_unharmed b
    · rw [same, units, List.map_append, List.sum_append, steady.balanced spare kind]
      rfl
    · rw [History.failed_append, steady.unfailed]
      rfl

/-- What a stage of the unit at a position comes to. -/
theorem Steady.unit_step (outset : Outset settings before first size found)
    (serves : before.Serves (found.map (·.2)) settings.ns selection room)
    (faultless : origin.Faultless)
    (conduct : Conduct settings before first size found.length p site ds)
    (steady : p.Steady origin first site ds) {position : Nat} {a : Attended BatchUnit}
    (place : p.line[position]? = some a) :
    a.task.Unharmed ∧ BatchUnit.CalmStep settings.thresholds a.task site
      (a.task.advance p.settings site).1 (a.task.advance p.settings site).2 := by
  have unit : a.task ∈ p.units := (parted_of_place place).symm.subset List.mem_cons_self
  have unharmed := steady.unharmed _ unit
  obtain ⟨-, -, taken⟩ := conduct.ids_of_unit outset place
  obtain ⟨n, intake⟩ := conduct.intake
  have front := intake.cut.prefix_found outset.delivers
  have served : site.store.holdings.Serves a.task.bucket.ids settings.ns selection room := by
    rw [conduct.records]
    refine (PoolSettings.serves_foldl_after _ serves).of_subset fun id hid => ?_
    exact front.subset (List.mem_flatMap.mpr ⟨_, taken, hid⟩)
  rw [conduct.settings_eq]
  exact ⟨unharmed, BatchUnit.calm_advance (conduct.follows _ unit) unharmed steady.clean
    (steady.kin.faultless faultless) served⟩

theorem Steady.advanced (outset : Outset settings before first size found)
    (serves : before.Serves (found.map (·.2)) settings.ns selection room)
    (faultless : origin.Faultless)
    (conduct : Conduct settings before first size found.length p site ds)
    (steady : p.Steady origin first site ds) {position : Nat} {a : Attended BatchUnit}
    (place : p.line[position]? = some a) :
    (p.afterTurn position a.task.bucket (a.task.advance p.settings site).1).Steady origin first
      (a.task.advance p.settings site).2 (ds ++ a.task.deeds p.settings site) := by
  have parted := parted_of_place place
  obtain ⟨alone, step⟩ := steady.unit_step outset serves faultless conduct place
  have gate := a.task.gate_advance p.settings site
  rw [BatchUnit.deeds_eq]
  obtain ⟨unharmed, traded, none_failed, untroubled⟩ := step.outcome alone a.task.bucket
  generalize a.task.advance p.settings site = r at gate unharmed traded none_failed untroubled
  obtain ⟨progress, site'⟩ := r
  have units := units_afterTurn (p := p) position a.task.bucket progress
  constructor
  · exact steady.kin.trans traded.kin
  · rw [gate]
    exact Gate.clean_after steady.clean _
  · intro u hu
    rw [units, List.mem_append] at hu
    obtain hother | hthis := hu
    · exact steady.unharmed u (parted.symm.subset (List.mem_cons_of_mem _ hother))
    · exact unharmed u hthis
  · intro spare kind
    have held := steady.balanced spare kind
    rw [(parted.map fun u => u.holding origin kind).sum_nat, List.map_cons, List.sum_cons] at held
    have out := traded.out kind
    simp only [BatchUnit.holding_of_kin _ steady.kin] at out
    show (site'.store.tickets kind).out = _
    rw [units, List.map_append, List.sum_append]
    omega
  · have source : (p.afterTurn position a.task.bucket progress).source = p.source := by
      cases progress <;> rfl
    rw [source]
    exact steady.undelayed
  · obtain ⟨-, settled, -⟩ := a.task.views_callDeeds
    rw [History.failed_append, History.failed_append, steady.unfailed, none_failed, History.failed,
      settled]
    rfl
  · intro whole
    have fatal : (p.afterTurn position a.task.bucket progress).fatal = p.fatal := by
      cases progress with
      | failed e => cases untroubled
      | _ => rfl
    rw [fatal]
    exact steady.sound whole

/-- **Pools stay steady in every move.** -/
theorem Steady.moved (outset : Outset settings before first size found)
    (serves : before.Serves (found.map (·.2)) settings.ns selection room)
    (faultless : origin.Faultless)
    (conduct : Conduct settings before first size found.length p site ds)
    (steady : p.Steady origin first site ds) (m : Move) :
    (p.move site m).1.Steady origin first (p.move site m).2 (ds ++ p.deeds site m) := by
  have step := move_cases p site m
  generalize p.deeds site m = more at step
  generalize p.move site m = r at step
  obtain ⟨p', site'⟩ := r
  cases step with
  | quiet alike kept =>
    rw [List.append_nil]
    exact steady.of_alike alike kept
  | pulled takesIn alike kept =>
    exact (steady.pulled outset conduct takesIn).of_alike alike kept
  | advanced place alike kept =>
    exact (steady.advanced outset serves faultless conduct place).of_alike alike kept

/-- So they stay steady through all moves. -/
theorem steady_play (outset : Outset settings before first size found)
    (serves : before.Serves (found.map (·.2)) settings.ns selection room)
    (faultless : origin.Faultless)
    (conduct : Conduct settings before first size found.length p site ds)
    (steady : p.Steady origin first site ds) (policy : Policy) (fuel : Nat) :
    (p.play policy fuel site).1.Steady origin first (p.play policy fuel site).2
      (ds ++ p.history policy fuel site) := by
  refine (play_induction (motive := fun p site ds =>
    Conduct settings before first size found.length p site ds ∧ p.Steady origin first site ds)
    ?_ policy fuel ⟨conduct, steady⟩).2
  intro p site ds m ⟨conduct, steady⟩
  exact ⟨conduct.moved outset m, steady.moved outset serves faultless conduct m⟩

end Steady

end Pool

end PacedPurge
