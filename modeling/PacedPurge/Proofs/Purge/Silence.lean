import PacedPurge.Proofs.Load.Tiers
import PacedPurge.Proofs.Purge.Diaries
import PacedPurge.Proofs.Purge.Outcome

/-!
# Purges of a store that tells nothing

A store may be unable or unwilling to tell its counters, or have none to tell.  It is then taken to
be idle: all its percentages read as 0.  Whether an idle store is let go is a matter of the marks
alone, and it is not so for all marks that a plan may have.  A plan is checked for marks that are in
order (`Thresholds.InOrder`).  But 0 is low only below a target above 0, and it is high from a
trigger of 0 on.  `Thresholds.LetIdleGo` is the condition on the marks, and it is exact
(`Snapshot.idle_proceeds_iff`).

With such marks the diary of every unit is as short as can be: it asks once, and begins on the first
answer (`Diary.AtOnce`).  The waits of a purge are the rests in its diaries (`Plan.log_kept`), so
there are none.  With any other marks no unit ever begins.
-/

namespace PacedPurge

/-! ## Marks and an idle store -/

/-- Whether high begins where medium does or above, for each resource that a plan is checked for. -/
def Thresholds.InOrder (t : Thresholds) : Prop :=
  ∀ m ∈ Plan.checkedMarks t, m.2.target ≤ m.2.trigger

/-- Whether a store that does nothing is let go by these marks. -/
def Thresholds.LetIdleGo (t : Thresholds) : Prop :=
  .zero < t.cache.trigger ∧ .zero < t.dirty.target ∧ .zero < t.updates.target ∧
    (.zero < t.tickets.trigger ∨ .zero < t.checkpoint.trigger)

instance (t : Thresholds) : Decidable t.InOrder :=
  inferInstanceAs (Decidable (∀ m ∈ Plan.checkedMarks t, m.2.target ≤ m.2.trigger))

instance (t : Thresholds) : Decidable t.LetIdleGo :=
  inferInstanceAs (Decidable (.zero < t.cache.trigger ∧ .zero < t.dirty.target ∧
    .zero < t.updates.target ∧ (.zero < t.tickets.trigger ∨ .zero < t.checkpoint.trigger)))

/-- The marks of a plan without fault are in order. -/
theorem Plan.inOrder_of_fault {plan : Plan} (h : plan.fault? = none) :
    plan.thresholds.InOrder := by
  unfold fault? at h
  split at h
  · cases h
  · split at h
    · cases h
    · split at h
      · cases h
      · split at h
        · cases h
        · split at h
          · cases h
          · split at h
            · cases h
            · next uncrossed =>
              intro m hm
              have crossed := List.find?_eq_none.mp uncrossed m hm
              exact Int.not_lt.mp fun lower => crossed (decide_eq_true lower)

theorem Marks.classify_eq_low_iff (m : Marks) (x : Binary64) :
    m.classify x = .low ↔ x < m.target := by
  unfold classify
  by_cases low : x < m.target
  · rw [if_pos low]
    exact ⟨fun _ => low, fun _ => rfl⟩
  · rw [if_neg low]
    refine ⟨fun h => ?_, fun below => absurd below low⟩
    split at h
    · cases h
    · cases h

theorem Marks.classify_eq_high_iff {m : Marks} (ordered : m.target ≤ m.trigger) (x : Binary64) :
    m.classify x = .high ↔ ¬x < m.trigger := by
  unfold classify
  by_cases below : x < m.trigger
  · refine ⟨fun h => ?_, fun above => absurd below above⟩
    rw [if_pos below] at h
    split at h
    · cases h
    · cases h
  · have above : ¬x < m.target := fun low => below (Int.lt_of_lt_of_le low ordered)
    rw [if_neg above, if_neg below]
    exact ⟨fun _ => below, fun _ => rfl⟩

/-- **Which marks let an idle store go.** -/
theorem Snapshot.idle_proceeds_iff {t : Thresholds} (ordered : t.InOrder) (words : Chance) :
    ((ofCounters {} t).decide words).1 = .proceed ↔ t.LetIdleGo := by
  have cache : (ofCounters {} t).cache.level = .high ↔ ¬.zero < t.cache.trigger :=
    Marks.classify_eq_high_iff (ordered ("cache", t.cache) (by simp [Plan.checkedMarks])) .zero
  have tickets : (ofCounters {} t).writeTickets.level = .high ↔ ¬.zero < t.tickets.trigger :=
    Marks.classify_eq_high_iff (ordered ("tickets", t.tickets) (by simp [Plan.checkedMarks])) .zero
  have checkpoint : (ofCounters {} t).checkpoint.level = .high ↔ ¬.zero < t.checkpoint.trigger :=
    Marks.classify_eq_high_iff
      (ordered ("checkpoint", t.checkpoint) (by simp [Plan.checkedMarks])) .zero
  have dirty : (ofCounters {} t).dirty.level = .low ↔ .zero < t.dirty.target :=
    t.dirty.classify_eq_low_iff .zero
  have updates : (ofCounters {} t).updates.level = .low ↔ .zero < t.updates.target :=
    t.updates.classify_eq_low_iff .zero
  rw [decide_eq_proceed_iff, tier_eq_proceed_iff]
  unfold Blocks Saturates Builds
  rw [cache, tickets, checkpoint]
  constructor
  · rintro ⟨unblocked, unsaturated, unbuilt⟩
    simp only [not_or, ne_eq, Classical.not_not, dirty, updates] at unblocked unbuilt
    have spare := Classical.not_and_iff_not_or_not.mp unsaturated
    rw [Classical.not_not, Classical.not_not] at spare
    exact ⟨unblocked.1, unbuilt.1, unbuilt.2, spare⟩
  · rintro ⟨below, dirtyLow, updatesLow, spare⟩
    rw [dirty.mpr dirtyLow, updates.mpr updatesLow]
    refine ⟨not_or.mpr ⟨not_not_intro below, by decide⟩, ?_, by decide⟩
    exact fun none => spare.elim none.1 none.2

/-! ## Answers that tell nothing -/

/-- Whether an answer to a request for counters tells nothing: they are not to be had, or there is
none. -/
def TellsNothing : Except StoreError Counters → Prop
  | .ok c => c = {}
  | .error e => e.isUnavailable = true

instance : DecidablePred TellsNothing := fun answer =>
  match answer with
  | .ok c => inferInstanceAs (Decidable (c = {}))
  | .error e => inferInstanceAs (Decidable (e.isUnavailable = true))

theorem countersOf_of_tellsNothing {answer : Except StoreError Counters}
    (h : TellsNothing answer) : countersOf answer = .ok {} := by
  cases answer with
  | ok c => exact congrArg Except.ok h
  | error e => exact if_pos h

/-- The snapshot that is taken of a store that tells nothing. -/
theorem Snapshot.take_of_tellsNothing {site : Site} (t : Thresholds)
    (h : TellsNothing (site.call .status).1) : (take t site).1 = .ok (ofCounters {} t) := by
  show (countersOf (site.call .status).1).map _ = _
  rw [countersOf_of_tellsNothing h]
  rfl

theorem Sample.decision_of_tellsNothing {s : Sample} (t : Thresholds)
    (h : TellsNothing s.answer) :
    s.decision? t = some ((Snapshot.ofCounters {} t).decide s.chance).1 := by
  rw [decision?, countersOf_of_tellsNothing h]

/-- Whether the entry, if it is an answer, tells nothing. -/
def DiaryEntry.IsSilent : DiaryEntry → Prop
  | .answered s => TellsNothing s.answer
  | _ => True

instance : DecidablePred DiaryEntry.IsSilent := fun entry =>
  match entry with
  | .answered s => inferInstanceAs (Decidable (TellsNothing s.answer))
  | .called _ | .rests _ | .woke _ | .began | .settled _ | .lost _ => .isTrue trivial

namespace Diary

/-- Diaries of a unit that begins on the first answer that it gets. -/
inductive AtOnce : Diary → Prop where
  | toAsk : AtOnce []
  | asking : AtOnce [.called .status]
  | admitted {s : Sample} {course : Diary} (execution : ∀ entry ∈ course, IsOfExecution entry) :
      AtOnce ([.called .status, .answered s, .began] ++ course)

variable {thresholds : Thresholds} {d : Diary}

/-- No unit is turned away when each of its answers lets it go. -/
theorem Refused.eq_nil (h : Refused thresholds d)
    (go : ∀ s, .answered s ∈ d → s.decision? thresholds = some .proceed) : d = [] := by
  cases h with
  | never => rfl
  | @again d s pressure delay now earlier decided slept =>
    have proceeds := go s (by simp)
    rw [decided] at proceeds
    cases proceeds

/-- A unit begins on its first answer when each of its answers lets it go. -/
theorem Orderly.atOnce (h : Orderly thresholds d)
    (go : ∀ s, .answered s ∈ d → s.decision? thresholds = some .proceed) : AtOnce d := by
  cases h with
  | toAsk earlier =>
    rw [earlier.eq_nil go]
    exact .toAsk
  | @asking d earlier =>
    rw [earlier.eq_nil fun s hs => go s (List.mem_append_left _ hs)]
    exact .asking
  | @resting d s pressure delay earlier decided =>
    have proceeds := go s (by simp)
    rw [decided] at proceeds
    cases proceeds
  | @lost d s e earlier undecided =>
    have proceeds := go s (by simp)
    rw [Sample.decision?, undecided] at proceeds
    cases proceeds
  | @admitted d course s earlier decided execution =>
    rw [earlier.eq_nil fun s hs => go s (List.mem_append_left _ hs)]
    exact .admitted execution

/-- A unit never begins when none of its answers lets it go. -/
theorem Orderly.never_began (h : Orderly thresholds d)
    (held : ∀ s, .answered s ∈ d → s.decision? thresholds ≠ some .proceed) : .began ∉ d := by
  cases h with
  | toAsk earlier => exact earlier.decided.1
  | asking earlier => simpa using earlier.decided.1
  | resting earlier decided => simpa using earlier.decided.1
  | lost earlier _ => simpa using earlier.decided.1
  | @admitted d course s earlier decided execution => exact absurd decided (held s (by simp))

end Diary

/-! ## Waits and rests -/

/-- Whether a rest begins with this entry. -/
def DiaryEntry.isRest : DiaryEntry → Bool
  | .rests _ => true
  | _ => false

/-- How many rests the log tells of. -/
def Log.rests (log : Log) : Nat := log.countP fun entry => entry.2.isRest

namespace Log

@[simp] theorem rests_append (log more : Log) : rests (log ++ more) = log.rests + more.rests :=
  List.countP_append

theorem rests_ofUnit (ordinal : Nat) (d : Diary) :
    (ofUnit ordinal d).rests = d.countP DiaryEntry.isRest := by
  unfold rests ofUnit
  rw [List.countP_map]
  rfl

theorem mem_diary {log : Log} {entry : Nat × DiaryEntry} (h : entry ∈ log) :
    entry.2 ∈ log.diary entry.1 :=
  List.mem_filterMap.mpr ⟨entry, h, if_pos rfl⟩

theorem mem_of_mem_diary {log : Log} {k : Nat} {e : DiaryEntry} (h : e ∈ log.diary k) :
    (k, e) ∈ log := by
  obtain ⟨⟨ordinal, e'⟩, member, found⟩ := List.mem_filterMap.mp h
  by_cases same : ordinal = k
  · rw [if_pos same] at found
    rw [← same, ← Option.some.inj found]
    exact member
  · rw [if_neg same] at found
    cases found

end Log

theorem Diary.AtOnce.no_rests {d : Diary} (h : AtOnce d) {e : DiaryEntry} (member : e ∈ d) :
    e.isRest = false := by
  cases h with
  | toAsk => cases member
  | asking =>
    rw [List.mem_singleton.mp member]
    rfl
  | @admitted s course execution =>
    obtain first | later := List.mem_append.mp member
    · simp only [List.mem_cons, List.not_mem_nil, or_false] at first
      obtain rfl | rfl | rfl := first
      · rfl
      · rfl
      · rfl
    · have ofExecution := execution e later
      cases e with
      | called kind => rfl
      | settled r => rfl
      | answered s => cases ofExecution
      | rests time => cases ofExecution
      | woke time => cases ofExecution
      | began => cases ofExecution
      | lost error => cases ofExecution

namespace BatchUnit

variable {settings : PoolSettings} {site : Site}

/-- What a stage of a unit that comes to this tells of the phases. -/
def Progress.Ensues (u : BatchUnit) : BatchUnit.Progress → Prop
  | .turnedAway u' => ∃ time, u'.phase = .resting time
  | .finished _ => ∃ e, u.phase = .executing e
  | .running _ | .failed _ => True

/-- Only a unit that is executing can finish, and one that is turned away rests. -/
theorem ensues_advance (u : BatchUnit) (settings : PoolSettings) (site : Site) :
    (u.advance settings site).1.Ensues u := by
  obtain ⟨bucket, phase⟩ := u
  cases phase with
  | sampling call =>
    simp only [advance]
    split
    · trivial
    · split
      · simp only [judge]
        split
        · trivial
        · exact ⟨_, rfl⟩
      · trivial
  | resting time =>
    simp only [advance]
    split
    · trivial
    · trivial
  | executing e =>
    simp only [advance]
    split
    · trivial
    · exact ⟨e, rfl⟩

/-- A unit that is turned away writes down that it rests. -/
theorem waits_advance (u : BatchUnit) (settings : PoolSettings) (site : Site) :
    (u.advance settings site).1.waits = (u.entries settings site).countP DiaryEntry.isRest := by
  have called : (u.callDeeds.calls.map DiaryEntry.called).countP DiaryEntry.isRest = 0 := by
    rw [List.countP_map]
    exact List.countP_eq_zero.mpr fun _ _ => Bool.false_ne_true
  have answered : ((u.samples site).map DiaryEntry.answered).countP DiaryEntry.isRest = 0 := by
    rw [List.countP_map]
    exact List.countP_eq_zero.mpr fun _ _ => Bool.false_ne_true
  rw [entries, List.countP_append, List.countP_append, called, answered, Nat.zero_add, Nat.zero_add]
  have ensues := u.ensues_advance settings site
  generalize (u.advance settings site).1 = progress at ensues
  cases progress with
  | running u' =>
    simp only [turnEntries]
    split
    · rfl
    · split
      · rfl
      · rfl
  | turnedAway u' =>
    obtain ⟨time, resting⟩ := ensues
    simp only [turnEntries, resting]
    rfl
  | finished r => rfl
  | failed e => rfl

/-- A unit that finishes has begun. -/
theorem began_of_finished {u : BatchUnit} {r : ExecutionResult} {thresholds : Thresholds}
    {d : Diary} (finished : (u.advance settings site).1 = .finished r)
    (writes : u.phase.Writes thresholds d) : .began ∈ d := by
  have ensues := u.ensues_advance settings site
  rw [finished] at ensues
  obtain ⟨e, executing⟩ := ensues
  rw [executing] at writes
  obtain ⟨earlier, s, course, -, -, -, rfl⟩ := writes
  simp

end BatchUnit

namespace Pool

variable {settings : PoolSettings} {p : Pool} {ds : History} {errors : List PoolError} {log : Log}

/-- A move counts a wait for each rest that it writes down. -/
theorem waits_moved (p : Pool) (site : Site) (m : Move) :
    (p.move site m).1.totals.throttledWaits =
      p.totals.throttledWaits + (p.entries site m).rests := by
  have turn := turn_cases p site m
  unfold entries
  generalize (p.move site m).1 = q at turn ⊢
  generalize p.mover? site m = mover at turn ⊢
  generalize p.deeds site m = more at turn
  generalize p.troubles site m = troubles at turn
  cases turn with
  | idle alike gauged => exact gauged.waits
  | pulled takesIn alike gauged => exact gauged.waits
  | advanced place alike gauged =>
    rw [gauged.waits, BatchUnit.waits_advance]
    exact congrArg _ (Log.rests_ofUnit _ _).symm

/-- **The waits that a pool counts are the rests in its diaries.** -/
theorem waits_through (p : Pool) (moves : List (Site × Move)) :
    (p.through moves).totals.throttledWaits =
      p.totals.throttledWaits + Log.rests (p.told entries moves) := by
  induction moves generalizing p with
  | nil => rfl
  | cons made rest ih =>
    show ((p.move made.1 made.2).1.through rest).totals.throttledWaits = _
    rw [ih, waits_moved, told, Log.rests_append, Nat.add_assoc]

/-- A bucket that a move settles has begun. -/
theorem Diaries.began_of_moved (h : Diaries settings p ds log)
    (began : ∀ s ∈ ds.settled, .began ∈ log.diary s.1.ordinal) (site : Site) (m : Move) :
    ∀ s ∈ (ds ++ p.deeds site m).settled,
      .began ∈ (log ++ p.entries site m).diary s.1.ordinal := by
  intro s hs
  rw [Log.diary_append]
  refine List.mem_append_left _ ?_
  rw [History.settled_append] at hs
  obtain old | new := List.mem_append.mp hs
  · exact began s old
  · have turn := turn_cases p site m
    generalize (p.move site m).1 = q at turn
    generalize p.mover? site m = mover at turn
    generalize p.deeds site m = more at turn new
    generalize p.troubles site m = troubles at turn
    cases turn with
    | idle alike gauged => cases new
    | pulled takesIn alike gauged =>
      cases answer : (p.source.pull site).1 <;> rw [answer] at new <;> cases new
    | @advanced q position a place alike gauged =>
      have member : a.task ∈ p.units := (parted_of_place place).symm.subset List.mem_cons_self
      rw [BatchUnit.deeds_eq, History.settled_append, a.task.views_callDeeds.2.1,
        List.nil_append] at new
      cases finished : (a.task.advance p.settings site).1 with
      | running u =>
        rw [finished] at new
        cases new
      | turnedAway u =>
        rw [finished] at new
        cases new
      | failed e =>
        rw [finished] at new
        cases new
      | finished r =>
        rw [finished] at new
        rw [List.mem_singleton.mp new]
        exact BatchUnit.began_of_finished finished (h.writes a.task member)

/-- **What has been settled has begun.** -/
theorem Diaries.began_of_through (h : Diaries settings p ds log)
    (ledger : Ledger settings p ds errors)
    (began : ∀ s ∈ ds.settled, .began ∈ log.diary s.1.ordinal) (moves : List (Site × Move)) :
    ∀ s ∈ (ds ++ p.told deeds moves).settled,
      .began ∈ (log ++ p.told entries moves).diary s.1.ordinal := by
  induction moves generalizing p ds errors log with
  | nil =>
    rw [told, told, List.append_nil]
    exact (List.append_nil log).symm ▸ began
  | cons made rest ih =>
    rw [told, told, ← List.append_assoc]
    have rest := ih (h.moved ledger made.1 made.2) (ledger.moved made.1 made.2)
      (h.began_of_moved began made.1 made.2)
    rw [List.append_assoc log] at rest
    exact rest

/-- The diaries of a pool that has done nothing are empty. -/
theorem diaries_start (settings : PoolSettings) (rows : RowSource) (bucketSize : Nat)
    (site : Site) : Diaries settings (start settings (.ofRows rows bucketSize) site) [] [] where
  orderly := fun _ => .toAsk .never
  writes := fun _ nothing => nomatch nothing
  proper := fun _ nothing => nomatch nothing
  blank := fun _ _ => rfl
  calls := rfl
  tally := rfl

end Pool

/-! ## Purges -/

namespace Plan

/-- What is seen of the units of a purge. -/
def log (policy : Pool.Policy) (fuel : Nat) (plan : Plan) (site : Site) : Log :=
  match plan.openPool site with
  | (.error _, _) => []
  | (.ok pool, site) => pool.told Pool.entries (Pool.chosen policy fuel pool site)

/-- **What the log of a purge tells of it.**  Its diaries are in order, what has been settled has
begun, and the waits that are reported are the rests. -/
theorem log_kept (policy : Pool.Policy) (fuel : Nat) (plan : Plan) (site : Site) :
    (∀ k, Diary.Orderly plan.thresholds ((plan.log policy fuel site).diary k)) ∧
    (∀ s ∈ (plan.history policy fuel site).settled,
      .began ∈ (plan.log policy fuel site).diary s.1.ordinal) ∧
    ∀ report, (plan.runWith policy fuel site).1 = some (.ok report) →
      report.throttledWaits = (plan.log policy fuel site).rests := by
  cases opens : plan.openPool site with
  | mk answer opened =>
  cases answer with
  | error e =>
    have blank : plan.log policy fuel site = [] := by
      rw [log, opens]
    refine ⟨fun k => ?_, fun s hs => ?_, fun report reported => ?_⟩
    · rw [blank]
      exact .toAsk .never
    · rw [(views_history_of_error opens policy fuel).2.1] at hs
      cases hs
    · obtain ⟨pool, reached, opens', -⟩ := runWith_eq_ok reported
      rw [opens] at opens'
      cases opens'
  | ok pool =>
    obtain ⟨-, rows, -, fresh⟩ := openPool_eq_ok opens
    have ledger : pool.Ledger (plan.poolSettings site.cores) [] [] :=
      fresh ▸ Pool.ledger_start (plan.poolSettings site.cores) rows plan.bucketSize opened
    have blank : pool.Diaries (plan.poolSettings site.cores) [] [] :=
      fresh ▸ Pool.diaries_start (plan.poolSettings site.cores) rows plan.bucketSize opened
    have told : plan.log policy fuel site =
        pool.told Pool.entries (Pool.chosen policy fuel pool opened) := by
      rw [log, opens]
    rw [told, (views_history opens policy fuel).2.1, ← Pool.told_chosen]
    refine ⟨(blank.through ledger _).orderly, ?_, fun report reported => ?_⟩
    · exact blank.began_of_through ledger (fun s nothing => nomatch nothing) _
    · obtain ⟨pool', reached, opens', -, -, v, rfl, -⟩ := runWith_eq_ok reported
      rw [opens] at opens'
      cases opens'
      have waits := pool.waits_through (Pool.chosen policy fuel pool opened)
      rw [Pool.through_chosen] at waits
      show (pool.play policy fuel opened).1.totals.throttledWaits = _
      rw [waits, fresh]
      exact Nat.zero_add _

/-- **Whether a store that tells nothing is purged at all, is a matter of the marks alone.**  Take
any plan with marks in order, any policy and any site, such that no answer that its units get tells
anything.  From an answer that tells nothing a snapshot is taken, and the decision on it is to
proceed if and only if the marks let an idle store go.  If they do, each unit begins on its first
answer; a purge that comes to a report has begun all buckets that it took, and has not waited once.
If they do not, no unit ever begins and no bucket is settled, so only a purge that found none comes
to a report. -/
theorem silent_store_purged_iff (policy : Pool.Policy) (fuel : Nat) (plan : Plan) (site : Site)
    (ordered : plan.thresholds.InOrder)
    (silent : ∀ entry ∈ plan.log policy fuel site, entry.2.IsSilent) :
    (∀ asked : Site, TellsNothing (asked.call .status).1 →
      ∃ s, (Snapshot.take plan.thresholds asked).1 = .ok s ∧
        ∀ words, (s.decide words).1 = .proceed ↔ plan.thresholds.LetIdleGo) ∧
    (plan.thresholds.LetIdleGo →
      (∀ k, Diary.AtOnce ((plan.log policy fuel site).diary k)) ∧
      ∀ report, (plan.runWith policy fuel site).1 = some (.ok report) →
        report.throttledWaits = 0 ∧ ∀ b ∈ (plan.history policy fuel site).taken,
          .began ∈ (plan.log policy fuel site).diary b.ordinal) ∧
    (¬plan.thresholds.LetIdleGo →
      (∀ k, .began ∉ (plan.log policy fuel site).diary k) ∧
      (plan.history policy fuel site).settled = [] ∧
      ∀ report, (plan.runWith policy fuel site).1 = some (.ok report) → report.buckets = 0) := by
  obtain ⟨orderly, began, waits⟩ := plan.log_kept policy fuel site
  have decided : ∀ k s, .answered s ∈ (plan.log policy fuel site).diary k →
      (s.decision? plan.thresholds = some .proceed ↔ plan.thresholds.LetIdleGo) := by
    intro k s answered
    have nothing : TellsNothing s.answer := silent _ (Log.mem_of_mem_diary answered)
    rw [Sample.decision_of_tellsNothing plan.thresholds nothing, Option.some_inj]
    exact Snapshot.idle_proceeds_iff ordered s.chance
  have settledAll : ∀ report, (plan.runWith policy fuel site).1 = some (.ok report) →
      ((plan.history policy fuel site).settled.map (·.1)).Perm
        (plan.history policy fuel site).taken := fun report reported =>
    (taken_of_report reported).2.2.2
  refine ⟨fun asked nothing => ?_, fun go => ?_, fun held => ?_⟩
  · exact ⟨_, Snapshot.take_of_tellsNothing plan.thresholds nothing,
      fun words => Snapshot.idle_proceeds_iff ordered words⟩
  · have atOnce : ∀ k, Diary.AtOnce ((plan.log policy fuel site).diary k) := fun k =>
      (orderly k).atOnce fun s answered => (decided k s answered).mpr go
    refine ⟨atOnce, fun report reported => ⟨?_, fun b taken => ?_⟩⟩
    · rw [waits report reported, Log.rests, List.countP_eq_zero]
      intro entry member
      rw [(atOnce entry.1).no_rests (Log.mem_diary member)]
      exact Bool.false_ne_true
    · obtain ⟨s, settled, rfl⟩ := List.mem_map.mp ((settledAll report reported).mem_iff.mpr taken)
      exact began s settled
  · have never : ∀ k, .began ∉ (plan.log policy fuel site).diary k := fun k =>
      (orderly k).never_began fun s answered => mt (decided k s answered).mp held
    have unsettled : (plan.history policy fuel site).settled = [] :=
      List.eq_nil_iff_forall_not_mem.mpr fun s settled => never _ (began s settled)
    refine ⟨never, unsettled, fun report reported => ?_⟩
    have balanced := (settledAll report reported).length_eq
    rw [unsettled] at balanced
    rw [(report_eq reported).2.2.1, ← balanced]
    rfl

/-- Four orders, of which three are purged in two buckets.  The store turns both requests for
counters away, each for another reason. -/
theorem silent_store_purged_iff_orders :
    let plan : Plan := .orders false
    let site : Site := { Site.orders with
      gate := [(.status, ⟨none, some (.unauthorized "serverStatus")⟩),
        (.status, ⟨some 5, some (.unsupported "serverStatus")⟩)] }
    let report : Report := ⟨0, 2, 3, 3, 0, 0, false⟩
    plan.thresholds.InOrder ∧ plan.thresholds.LetIdleGo ∧
      (∀ entry ∈ plan.log Pool.promptly 60 site, entry.2.IsSilent) ∧
      (plan.runWith Pool.promptly 60 site).1 = some (.ok report) ∧ report.throttledWaits = 0 ∧
      ∀ k, Diary.AtOnce ((plan.log Pool.promptly 60 site).diary k) := by
  intro plan site report
  have ordered : plan.thresholds.InOrder := by decide +kernel
  have go : plan.thresholds.LetIdleGo := by decide +kernel
  have silent : ∀ entry ∈ plan.log Pool.promptly 60 site, entry.2.IsSilent := by decide +kernel
  have ended : (plan.runWith Pool.promptly 60 site).1 = some (.ok report) :=
    eq_of_reported (by decide +kernel)
  obtain ⟨-, begins, -⟩ := silent_store_purged_iff Pool.promptly 60 plan site ordered silent
  obtain ⟨atOnce, reports⟩ := begins go
  exact ⟨ordered, go, silent, ended, (reports report ended).1, atOnce⟩

/-- A plan by whose marks no reading of dirty bytes is low. -/
def watchful : Plan :=
  { Plan.orders true with
    thresholds := { Thresholds.standard with dirty := Thresholds.marks 0 20 } }

end Plan

/-- A store in memory with one order, which cannot tell its counters. -/
def MemoryStore.silentOrder : MemoryStore :=
  insertAll { status := .unsupported } .orders [(⟨"a"⟩, [])]

namespace Plan

/-- **A plan without fault can keep a store that tells nothing waiting.**  The counters of this one
are unsupported, and its only bucket is turned away at each request. -/
theorem silent_store_turned_away :
    let site : Site := { store := .memory .silentOrder }
    let log := watchful.log Pool.promptly 30 site
    watchful.fault? = none ∧
      (site.call .status).1 = .error (.unsupported "serverStatus wiredTiger section") ∧
      (∃ s, (Snapshot.take watchful.thresholds site).1 = .ok s ∧
        ∀ words, (s.decide words).1 ≠ .proceed) ∧
      (∀ entry ∈ log, entry.2.IsSilent) ∧ .began ∉ log.diary 1 ∧ log.rests = 6 := by
  intro site log
  have fault : watchful.fault?.isNone = true := by decide +kernel
  have faultless : watchful.fault? = none := Option.isNone_iff_eq_none.mp fault
  have answer : (site.call .status).1 =
      .error (.unsupported "serverStatus wiredTiger section") := by
    decide +kernel
  have nothing : TellsNothing (site.call .status).1 := by
    rw [answer]
    rfl
  have silent : ∀ entry ∈ log, entry.2.IsSilent := by decide +kernel
  have held : ¬watchful.thresholds.LetIdleGo := by decide +kernel
  have rests : log.rests = 6 := by decide +kernel
  have decided := fun words =>
    mt (Snapshot.idle_proceeds_iff (inOrder_of_fault faultless) words).mp held
  refine ⟨faultless, answer, ⟨_, Snapshot.take_of_tellsNothing _ nothing, decided⟩, silent, ?_,
    rests⟩
  refine ((watchful.log_kept Pool.promptly 30 site).1 1).never_began fun s answered => ?_
  rw [Sample.decision_of_tellsNothing _ (silent _ (Log.mem_of_mem_diary answered))]
  exact fun proceeds => decided s.chance (Option.some.inj proceeds)

end Plan

end PacedPurge
