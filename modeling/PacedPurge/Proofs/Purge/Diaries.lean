import PacedPurge.Proofs.Purge.Bookkeeping
import PacedPurge.Proofs.Purge.Calls

/-!
# The diaries of units

A unit asks the store for its counters, decides on the answer, and rests or begins.  What is seen of
it goes into its diary (`BatchUnit.entries`): its calls, the answers to its requests for counters,
from when to when it rested, that it began to execute its bucket, and how it ended.  An entry says
what happened; it does not say that this was right.

That it was is a matter of the order of the entries (`Diary.Orderly`).  Each answer on which a unit
was turned away is followed by a rest of just the time decided on it, and after the rest the unit
asks again.  The execution begins right after an answer on which the decision was to proceed.  And
an answer on which there is nothing to decide is the last but one entry.  Every diary of a pool is
orderly, whatever its moves were (`Pool.fresh_admission`).
-/

namespace PacedPurge

/-! ## Diaries -/

/-- An answer to a request for counters, the time when it came, and the words that a decision on it
could draw from. -/
structure Sample where
  answer : Except StoreError Counters
  clock : Nat
  chance : Chance

/-- What is decided on a sample, if anything can be. -/
def Sample.decision? (thresholds : Thresholds) (s : Sample) : Option Decision :=
  match countersOf s.answer with
  | .ok c => some ((Snapshot.ofCounters c thresholds).decide s.chance).1
  | .error _ => none

/-- An entry in the diary of a unit. -/
inductive DiaryEntry where
  /-- A call came to the gate. -/
  | called (kind : Method)
  /-- A request for counters was answered. -/
  | answered (s : Sample)
  /-- A rest began that is to last up to a time. -/
  | rests (time : Nat)
  /-- A rest ended at a time. -/
  | woke (time : Nat)
  /-- The execution of the bucket began. -/
  | began
  | settled (r : ExecutionResult)
  | lost (error : StoreError)

/-- What is seen of a unit, in order. -/
abbrev Diary := List DiaryEntry

namespace Diary

/-- Whether the entry can stand in a diary once the execution has begun. -/
def IsOfExecution : DiaryEntry → Prop
  | .called kind => kind ≠ .status
  | .settled _ => True
  | _ => False

variable (thresholds : Thresholds)

/-- Diaries of a unit that has been turned away some number of times, and has rested each time for
as long as was decided. -/
inductive Refused : Diary → Prop where
  | never : Refused []
  | again {d : Diary} {s : Sample} {pressure : Pressure} {delay now : Nat} (earlier : Refused d)
      (decided : s.decision? thresholds = some (.wait pressure delay))
      (slept : s.clock + delay ≤ now) :
      Refused (d ++ [.called .status, .answered s, .rests (s.clock + delay), .woke now])

/-- **Diaries that are in order.** -/
inductive Orderly : Diary → Prop where
  | toAsk {d : Diary} (earlier : Refused thresholds d) : Orderly d
  | asking {d : Diary} (earlier : Refused thresholds d) : Orderly (d ++ [.called .status])
  | resting {d : Diary} {s : Sample} {pressure : Pressure} {delay : Nat}
      (earlier : Refused thresholds d)
      (decided : s.decision? thresholds = some (.wait pressure delay)) :
      Orderly (d ++ [.called .status, .answered s, .rests (s.clock + delay)])
  | lost {d : Diary} {s : Sample} {e : StoreError} (earlier : Refused thresholds d)
      (undecided : countersOf s.answer = .error e) :
      Orderly (d ++ [.called .status, .answered s, .lost e])
  | admitted {d course : Diary} {s : Sample} (earlier : Refused thresholds d)
      (decided : s.decision? thresholds = some .proceed)
      (execution : ∀ entry ∈ course, IsOfExecution entry) :
      Orderly (d ++ ([.called .status, .answered s, .began] ++ course))

end Diary

/-- How far the diary of a unit has got, by what the unit is doing. -/
def UnitPhase.Writes (thresholds : Thresholds) (d : Diary) : UnitPhase → Prop
  | .sampling call =>
    if call.stage = .arriving then Diary.Refused thresholds d
    else ∃ earlier, Diary.Refused thresholds earlier ∧ d = earlier ++ [.called .status]
  | .resting time => ∃ earlier s pressure delay, Diary.Refused thresholds earlier ∧
      s.decision? thresholds = some (.wait pressure delay) ∧ time = s.clock + delay ∧
      d = earlier ++ [.called .status, .answered s, .rests time]
  | .executing _ => ∃ earlier s course, Diary.Refused thresholds earlier ∧
      s.decision? thresholds = some .proceed ∧ (∀ entry ∈ course, Diary.IsOfExecution entry) ∧
      d = earlier ++ ([.called .status, .answered s, .began] ++ course)

namespace Diary

variable {thresholds : Thresholds} {d : Diary}

theorem orderly_of_writes {phase : UnitPhase} (writes : phase.Writes thresholds d) :
    Orderly thresholds d := by
  cases phase with
  | sampling call =>
    by_cases arriving : call.stage = .arriving
    · rw [UnitPhase.Writes, if_pos arriving] at writes
      exact .toAsk writes
    · rw [UnitPhase.Writes, if_neg arriving] at writes
      obtain ⟨earlier, refused, rfl⟩ := writes
      exact .asking refused
  | resting time =>
    obtain ⟨earlier, s, pressure, delay, refused, decided, rfl, rfl⟩ := writes
    exact .resting refused decided
  | executing e =>
    obtain ⟨earlier, s, course, refused, decided, execution, rfl⟩ := writes
    exact .admitted refused decided execution

/-- Among the answers on which a unit was turned away there is none that left nothing to decide, and
no execution has begun. -/
theorem Refused.decided (h : Refused thresholds d) :
    .began ∉ d ∧ ∀ s, .answered s ∈ d → s.decision? thresholds ≠ none := by
  induction h with
  | never => exact ⟨List.not_mem_nil, fun s hs => (nomatch hs)⟩
  | @again d s pressure delay now earlier decided slept ih =>
    obtain ⟨unbegun, all⟩ := ih
    refine ⟨?_, fun s' hs' => ?_⟩
    · simpa using unbegun
    · simp only [List.mem_append, List.mem_cons, DiaryEntry.answered.injEq, reduceCtorEq,
        List.not_mem_nil, or_false, false_or] at hs'
      obtain old | rfl := hs'
      · exact all s' old
      · rw [decided]
        exact Option.some_ne_none _

/-- A unit that got an answer on which there was nothing to decide has not begun to execute. -/
theorem Orderly.not_began (h : Orderly thresholds d) {s : Sample} (answered : .answered s ∈ d)
    (undecided : s.decision? thresholds = none) : .began ∉ d := by
  cases h with
  | toAsk earlier => exact earlier.decided.1
  | asking earlier => simpa using earlier.decided.1
  | resting earlier decided => simpa using earlier.decided.1
  | lost earlier _ => simpa using earlier.decided.1
  | @admitted earlier course s' refused decided execution =>
    intro _
    simp only [List.mem_append, List.mem_cons, DiaryEntry.answered.injEq, reduceCtorEq,
      List.not_mem_nil, or_false, false_or] at answered
    obtain old | rfl | new := answered
    · exact refused.decided.2 s old undecided
    · rw [undecided] at decided
      cases decided
    · exact execution _ new

end Diary

/-! ## What a stage puts in the diary -/

namespace BatchUnit

/-- The answer that a unit gets in this stage to its request for counters, if it gets one. -/
def samples (u : BatchUnit) (site : Site) : List Sample :=
  match u.phase with
  | .sampling call =>
    match call.advance site with
    | (.answered answer, site) => [⟨answer, site.clock, site.chance⟩]
    | (.waiting _, _) => []
  | .resting _ | .executing _ => []

/-- Whether the unit is resting. -/
def isResting (u : BatchUnit) : Bool :=
  match u.phase with
  | .resting _ => true
  | .sampling _ | .executing _ => false

/-- What the diary says of the unit's having gone on to this at a time. -/
def turnEntries (u : BatchUnit) (clock : Nat) : BatchUnit.Progress → Diary
  | .running u' =>
    if u.isResting && !u'.isResting then [.woke clock]
    else if !u.isExecuting && u'.isExecuting then [.began]
    else []
  | .turnedAway u' =>
    match u'.phase with
    | .resting time => [.rests time]
    | .sampling _ | .executing _ => []
  | .finished r => [.settled r]
  | .failed e => [.lost e]

/-- What a stage puts in the diary of a unit. -/
def entries (u : BatchUnit) (settings : PoolSettings) (site : Site) : Diary :=
  u.callDeeds.calls.map .called ++ ((u.samples site).map .answered ++
    u.turnEntries site.clock (u.advance settings site).1)

end BatchUnit

/-- Whether no call of the execution asks for counters. -/
def Execution.AsksNothing (e : Execution) : Prop :=
  match e.phase with
  | .deleting call => call.request.method? ≠ some .status
  | .beginning call => call.request.method? ≠ some .status
  | .staging _ call => call.request.method? ≠ some .status
  | .aborting _ call => call.request.method? ≠ some .status

/-- Whether the unit asks for counters while it samples, and only then. -/
def BatchUnit.Proper (u : BatchUnit) : Prop :=
  match u.phase with
  | .sampling call => call.request = .status
  | .resting _ => True
  | .executing e => e.AsksNothing

/-- What a diary is when the unit has gone on. -/
def BatchUnit.Progress.Writes (thresholds : Thresholds) (d : Diary) : BatchUnit.Progress → Prop
  | .running u | .turnedAway u => u.Proper ∧ u.phase.Writes thresholds d
  | .finished _ | .failed _ => Diary.Orderly thresholds d

/-! ### Calls -/

section Calls

variable {α : Type}

theorem Call.waiting_letGo {c c' : Call α} {error : Option StoreError}
    (h : c.letGo error = .waiting c') : c'.request = c.request ∧ c'.stage ≠ .arriving := by
  cases error with
  | none =>
    cases h
    exact ⟨rfl, Stage.noConfusion⟩
  | some e => cases h

/-- A call that goes on is still for the same request, and has come to the gate. -/
theorem Call.waiting_advance {c c' : Call α} {site : Site}
    (h : (c.advance site).1 = .waiting c') : c'.request = c.request ∧ c'.stage ≠ .arriving := by
  obtain ⟨request, stage⟩ := c
  cases stage with
  | arriving =>
    simp only [advance, arrive] at h
    split at h
    · cases h
      exact ⟨rfl, Stage.noConfusion⟩
    · exact waiting_letGo h
    · cases h
      exact ⟨rfl, Stage.noConfusion⟩
  | held time error =>
    simp only [advance] at h
    split at h
    · exact waiting_letGo h
    · cases h
      exact ⟨rfl, Stage.noConfusion⟩
  | knocking =>
    simp only [advance, knock] at h
    split at h
    · cases h
      refine ⟨rfl, ?_⟩
      simp only
      split
      · exact Stage.noConfusion
      · exact Stage.noConfusion
    · cases h
      exact ⟨rfl, Stage.noConfusion⟩
  | ticketed =>
    simp only [advance] at h
    split at h
    · cases h
      exact ⟨rfl, Stage.noConfusion⟩
    · cases h
      exact ⟨rfl, Stage.noConfusion⟩
  | inside time =>
    cases time with
    | none => cases h
    | some time =>
      simp only [advance] at h
      split at h
      · cases h
      · cases h
        exact ⟨rfl, Stage.noConfusion⟩

theorem Call.calls_deeds {c : Call α} {kind : Method} (h : kind ∈ c.deeds.calls) :
    c.request.method? = some kind := by
  unfold deeds at h
  split at h
  · next made hmade =>
    rw [hmade, List.mem_singleton.mp h]
  · cases h

theorem Call.deeds_of_not_arriving {c : Call α} (h : c.stage ≠ .arriving) : c.deeds = [] := by
  unfold deeds
  split
  · next arriving _ => exact absurd arriving h
  · rfl

end Calls

/-! ### Executions -/

namespace Execution

theorem asksNothing_firstPhase (task : Assignment) (attempts : UInt32) :
    (⟨task, attempts, firstPhase task⟩ : Execution).AsksNothing := by
  unfold firstPhase
  split
  · exact fun h => by cases h
  · exact fun h => by cases h

theorem asksNothing_settle {e e' : Execution} {outcome : Except StoreError Nat} {site : Site}
    (h : (e.settle outcome site).1 = .running e') : e'.AsksNothing := by
  cases outcome with
  | ok n => cases h
  | error error =>
    simp only [settle] at h
    split at h
    · cases h
      exact asksNothing_firstPhase _ _
    · cases h

/-- An execution asks for counters at no time. -/
theorem asksNothing_advance {e e' : Execution} {site : Site} (asksNothing : e.AsksNothing)
    (h : (e.advance site).1 = .running e') : e'.AsksNothing := by
  obtain ⟨task, attempts, phase⟩ := e
  cases phase with
  | deleting call =>
    have same := fun c' => @Call.waiting_advance _ call c' site
    simp only [advance] at h
    generalize call.advance site = r at h same
    obtain ⟨outcome, reached⟩ := r
    cases outcome with
    | waiting call' =>
      cases h
      show call'.request.method? ≠ some .status
      rw [(same call' rfl).1]
      exact asksNothing
    | answered answer => exact asksNothing_settle h
  | beginning call =>
    have same := fun c' => @Call.waiting_advance _ call c' site
    simp only [advance] at h
    generalize call.advance site = r at h same
    obtain ⟨outcome, reached⟩ := r
    cases outcome with
    | waiting call' =>
      cases h
      show call'.request.method? ≠ some .status
      rw [(same call' rfl).1]
      exact asksNothing
    | answered answer =>
      cases answer with
      | error error => exact asksNothing_settle h
      | ok txn =>
        cases h
        exact fun h => by cases h
  | staging txn call =>
    have same := fun c' => @Call.waiting_advance _ call c' site
    simp only [advance] at h
    generalize call.advance site = r at h same
    obtain ⟨outcome, reached⟩ := r
    cases outcome with
    | waiting call' =>
      cases h
      show call'.request.method? ≠ some .status
      rw [(same call' rfl).1]
      exact asksNothing
    | answered answer =>
      cases answer with
      | error error =>
        cases h
        exact fun h => by cases h
      | ok counted =>
        cases h
        exact fun h => by cases h
  | aborting result call =>
    have same := fun c' => @Call.waiting_advance _ call c' site
    simp only [advance] at h
    generalize call.advance site = r at h same
    obtain ⟨outcome, reached⟩ := r
    cases outcome with
    | waiting call' =>
      cases h
      show call'.request.method? ≠ some .status
      rw [(same call' rfl).1]
      exact asksNothing
    | answered answer => exact asksNothing_settle h

theorem calls_deeds {e : Execution} (asksNothing : e.AsksNothing) {kind : Method}
    (h : kind ∈ e.deeds.calls) : kind ≠ .status := by
  intro status
  subst status
  obtain ⟨task, attempts, phase⟩ := e
  cases phase with
  | deleting call => exact asksNothing (Call.calls_deeds h)
  | beginning call => exact asksNothing (Call.calls_deeds h)
  | staging txn call => exact asksNothing (Call.calls_deeds h)
  | aborting result call => exact asksNothing (Call.calls_deeds h)

end Execution

/-! ### Units -/

namespace BatchUnit

variable {settings : PoolSettings} {d : Diary}

/-- A unit whose request for counters has come to the gate has written that down. -/
theorem asked_of_writes {thresholds : Thresholds} {call : Call Counters}
    (request : call.request = .status) (writes : (UnitPhase.sampling call).Writes thresholds d) :
    ∃ earlier, Diary.Refused thresholds earlier ∧
      d ++ call.deeds.calls.map .called = earlier ++ [.called .status] := by
  by_cases arriving : call.stage = .arriving
  · rw [UnitPhase.Writes, if_pos arriving] at writes
    refine ⟨d, writes, ?_⟩
    unfold Call.deeds
    rw [arriving, request]
    rfl
  · rw [UnitPhase.Writes, if_neg arriving] at writes
    obtain ⟨earlier, refused, rfl⟩ := writes
    refine ⟨earlier, refused, ?_⟩
    rw [Call.deeds_of_not_arriving arriving]
    exact List.append_nil _

/-- **A stage of a unit keeps its diary in order.** -/
theorem writes_advance {u : BatchUnit} (proper : u.Proper)
    (writes : u.phase.Writes settings.thresholds d) (site : Site) :
    (u.advance settings site).1.Writes settings.thresholds (d ++ u.entries settings site) := by
  obtain ⟨bucket, phase⟩ := u
  cases phase with
  | sampling call =>
    obtain ⟨earlier, refused, asked⟩ := asked_of_writes proper writes
    have same := fun c' => @Call.waiting_advance _ call c' site
    simp only [entries, callDeeds, samples, advance]
    generalize call.advance site = r at same
    obtain ⟨outcome, reached⟩ := r
    cases outcome with
    | waiting call' =>
      obtain ⟨request, come⟩ := same call' rfl
      refine ⟨request.trans proper, ?_⟩
      rw [UnitPhase.Writes, if_neg come, ← List.append_assoc, asked]
      exact ⟨earlier, refused, List.append_nil _⟩
    | answered answer =>
      simp only
      rw [← List.append_assoc, asked, List.append_assoc]
      cases told : countersOf answer with
      | error e => exact .lost refused told
      | ok c =>
        have decision : Sample.decision? settings.thresholds
            ⟨answer, reached.clock, reached.chance⟩ =
            some ((Snapshot.ofCounters c settings.thresholds).decide reached.chance).1 := by
          rw [Sample.decision?, told]
        simp only [judge, Site.report]
        generalize (Snapshot.ofCounters c settings.thresholds).decide reached.chance = decided
          at decision
        obtain ⟨verdict, chance⟩ := decided
        cases verdict with
        | proceed =>
          refine ⟨Execution.asksNothing_firstPhase _ _, earlier, _, [], refused, decision, ?_, rfl⟩
          exact fun _ nothing => absurd nothing List.not_mem_nil
        | wait pressure delay =>
          exact ⟨trivial, earlier, _, pressure, delay, refused, decision, rfl, rfl⟩
  | resting time =>
    obtain ⟨earlier, s, pressure, delay, refused, decided, rfl, rfl⟩ := writes
    simp only [entries, callDeeds, samples, advance]
    by_cases ends : site.mayEnd (s.clock + delay) = true
    · rw [if_pos ends]
      simp only [Site.mayEnd, Bool.and_eq_true, decide_eq_true_eq] at ends
      refine ⟨rfl, ?_⟩
      rw [List.append_assoc]
      exact .again refused decided ends.1
    · rw [if_neg ends]
      refine ⟨trivial, earlier, s, pressure, delay, refused, decided, rfl, ?_⟩
      simp [turnEntries, isResting, isExecuting, History.calls]
  | executing e =>
    obtain ⟨earlier, s, course, refused, decided, execution, rfl⟩ := writes
    have asksNothing : e.AsksNothing := proper
    have next := fun e' => @Execution.asksNothing_advance e e' site asksNothing
    have called : ∀ entry ∈ e.deeds.calls.map DiaryEntry.called, Diary.IsOfExecution entry := by
      intro entry hentry
      obtain ⟨kind, hkind, rfl⟩ := List.mem_map.mp hentry
      exact Execution.calls_deeds asksNothing hkind
    simp only [entries, callDeeds, samples, advance]
    generalize e.advance site = r at next
    obtain ⟨progress, reached⟩ := r
    cases progress with
    | running e' =>
      refine ⟨next e' rfl, earlier, s, course ++ e.deeds.calls.map .called, refused, decided, ?_,
        ?_⟩
      · intro entry hentry
        obtain old | new := List.mem_append.mp hentry
        · exact execution entry old
        · exact called entry new
      · simp [turnEntries, isResting, isExecuting]
    | finished r =>
      have whole : earlier ++ ([.called .status, .answered s, .began] ++ course) ++
          (e.deeds.calls.map .called ++ ([] ++ [DiaryEntry.settled r])) =
          earlier ++ ([.called .status, .answered s, .began] ++
            (course ++ (e.deeds.calls.map .called ++ [.settled r]))) := by
        simp
      show Diary.Orderly _ (earlier ++ ([.called .status, .answered s, .began] ++ course) ++
          (e.deeds.calls.map .called ++ ([] ++ [DiaryEntry.settled r])))
      rw [whole]
      refine .admitted refused decided fun entry hentry => ?_
      obtain old | new := List.mem_append.mp hentry
      · exact execution entry old
      · obtain made | last := List.mem_append.mp new
        · exact called entry made
        · rw [List.mem_singleton.mp last]
          trivial

/-- How many requests for counters the unit has made on which it has not been turned away. -/
def openSamples (u : BatchUnit) : Nat :=
  match u.phase with
  | .sampling call => if call.stage = .arriving then 0 else 1
  | .resting _ => 0
  | .executing _ => 1

theorem count_calls_of_executing {e : Execution} (asksNothing : e.AsksNothing) :
    e.deeds.calls.count .status = 0 := by
  rw [List.count_eq_zero]
  exact fun asked => Execution.calls_deeds asksNothing asked rfl

theorem count_calls_of_sampling {call : Call Counters} (request : call.request = .status) :
    call.deeds.calls.count .status + (if call.stage = .arriving then 0 else 1) = 1 := by
  by_cases arriving : call.stage = .arriving
  · unfold Call.deeds
    rw [arriving, request]
    rfl
  · rw [Call.deeds_of_not_arriving arriving, if_neg arriving]
    rfl

/-- In a stage of a unit a request for counters is made for each wait that is counted, and one more
for the execution or the end that the unit comes to. -/
theorem tally_advance {u : BatchUnit} (proper : u.Proper) (site : Site) :
    u.callDeeds.calls.count .status + u.openSamples =
      (u.advance settings site).1.waits +
        ((u.advance settings site).1.units.map openSamples).sum +
        (((u.advance settings site).1.deeds u.bucket).settled.length +
          ((u.advance settings site).1.deeds u.bucket).lost.length) := by
  obtain ⟨bucket, phase⟩ := u
  cases phase with
  | sampling call =>
    have one := count_calls_of_sampling proper
    have same := fun c' => @Call.waiting_advance _ call c' site
    simp only [callDeeds, openSamples, advance]
    rw [one]
    generalize call.advance site = r at same
    obtain ⟨outcome, reached⟩ := r
    cases outcome with
    | waiting call' =>
      obtain ⟨-, come⟩ := same call' rfl
      show 1 = 0 + ((if call'.stage = .arriving then 0 else 1) + 0) + (0 + 0)
      rw [if_neg come]
      rfl
    | answered answer =>
      simp only
      split
      · simp only [judge]
        split
        · rfl
        · rfl
      · rfl
  | resting time =>
    simp only [callDeeds, advance]
    split
    · rfl
    · rfl
  | executing e =>
    simp only [callDeeds, advance]
    rw [count_calls_of_executing proper]
    generalize e.advance site = r
    obtain ⟨progress, reached⟩ := r
    cases progress with
    | running e' => rfl
    | finished r => rfl

end BatchUnit

/-! ## The diaries of a pool -/

/-- What is seen of all units, each entry with the number of the bucket. -/
abbrev Log := List (Nat × DiaryEntry)

/-- The kind of a call that an entry tells of. -/
def DiaryEntry.call? : DiaryEntry → Option Method
  | .called kind => some kind
  | _ => none

namespace Log

/-- The diary of the unit that has the bucket of a number. -/
def diary (log : Log) (ordinal : Nat) : Diary :=
  log.filterMap fun entry => if entry.1 = ordinal then some entry.2 else none

/-- The calls of all units. -/
def calls (log : Log) : List Method := log.filterMap fun entry => entry.2.call?

/-- The log of one unit. -/
def ofUnit (ordinal : Nat) (d : Diary) : Log := d.map fun entry => (ordinal, entry)

theorem diary_append (log more : Log) (ordinal : Nat) :
    diary (log ++ more) ordinal = log.diary ordinal ++ more.diary ordinal :=
  List.filterMap_append

theorem calls_append (log more : Log) : calls (log ++ more) = log.calls ++ more.calls :=
  List.filterMap_append

theorem diary_ofUnit (ordinal k : Nat) (d : Diary) :
    (ofUnit ordinal d).diary k = if ordinal = k then d else [] := by
  unfold diary ofUnit
  rw [List.filterMap_map]
  by_cases same : ordinal = k
  · simp only [Function.comp_def, if_pos same, List.filterMap_some]
  · simp [if_neg same]

theorem calls_ofUnit (ordinal : Nat) (d : Diary) :
    (ofUnit ordinal d).calls = d.filterMap DiaryEntry.call? := by
  unfold calls ofUnit
  rw [List.filterMap_map]
  rfl

end Log

/-- The diary of a unit has the calls that the unit makes. -/
theorem BatchUnit.calls_entries (u : BatchUnit) (settings : PoolSettings) (site : Site) :
    (u.entries settings site).filterMap DiaryEntry.call? = u.callDeeds.calls := by
  have turned : (u.turnEntries site.clock (u.advance settings site).1).filterMap
      DiaryEntry.call? = [] := by
    cases (u.advance settings site).1 with
    | running u' =>
      simp only [turnEntries]
      split
      · rfl
      · split
        · rfl
        · rfl
    | turnedAway u' =>
      simp only [turnEntries]
      split
      · rfl
      · rfl
      · rfl
    | finished r => rfl
    | failed e => rfl
  have answered : ((u.samples site).map DiaryEntry.answered).filterMap DiaryEntry.call? = [] := by
    rw [List.filterMap_map]
    exact List.filterMap_eq_nil_iff.mpr fun _ _ => rfl
  have called : (u.callDeeds.calls.map DiaryEntry.called).filterMap DiaryEntry.call? =
      u.callDeeds.calls := by
    rw [List.filterMap_map]
    exact List.filterMap_some
  rw [entries, List.filterMap_append, List.filterMap_append, called, answered, turned,
    List.append_nil, List.append_nil]

namespace Pool

/-- What a move puts in the diaries. -/
def entries (p : Pool) (site : Site) (m : Move) : Log :=
  match p.mover? site m with
  | none => []
  | some u => .ofUnit u.bucket.ordinal (u.entries p.settings site)

/-- **What holds of the diaries at every moment.** -/
structure Diaries (settings : PoolSettings) (p : Pool) (ds : History) (log : Log) : Prop where
  orderly : ∀ k, Diary.Orderly settings.thresholds (log.diary k)
  writes : ∀ u ∈ p.units, u.phase.Writes settings.thresholds (log.diary u.bucket.ordinal)
  proper : ∀ u ∈ p.units, u.Proper
  blank : ∀ k, k ∉ ds.taken.map (·.ordinal) → log.diary k = []
  calls : ds.calls = log.calls
  tally : ds.calls.count .status = p.totals.throttledWaits +
    (p.units.map BatchUnit.openSamples).sum + (ds.settled.length + ds.lost.length)

section Diaries

variable {settings : PoolSettings} {p q : Pool} {ds : History} {errors : List PoolError} {log : Log}

theorem Diaries.of_units (h : Diaries settings p ds log) (units : q.units.Perm p.units)
    (waits : q.totals.throttledWaits = p.totals.throttledWaits) : Diaries settings q ds log where
  orderly := h.orderly
  writes := fun u hu => h.writes u (units.subset hu)
  proper := fun u hu => h.proper u (units.subset hu)
  blank := h.blank
  calls := h.calls
  tally := by
    rw [waits, (units.map BatchUnit.openSamples).sum_eq]
    exact h.tally

theorem Diaries.pulled (h : Diaries settings p ds log) (ledger : Ledger settings p ds errors)
    (takesIn : p.takesIn = true) (site : Site) :
    Diaries settings (p.afterPull (p.source.pull site).2.1 (p.source.pull site).1)
      (ds ++ (p.source.pull site).1.deeds) log := by
  have numbered := (ledger.pulled takesIn site).numbered
  generalize p.source.pull site = r at numbered
  obtain ⟨answer, source, site'⟩ := r
  have quiet : answer.deeds = [] → (p.afterPull source answer).units = p.units →
      (p.afterPull source answer).totals = p.totals →
      Diaries settings (p.afterPull source answer) (ds ++ answer.deeds) log := by
    intro nothing units totals
    rw [nothing, List.append_nil]
    exact h.of_units (List.Perm.of_eq units) (congrArg Totals.throttledWaits totals)
  cases answer with
  | taken => exact quiet rfl rfl rfl
  | later time => exact quiet rfl rfl rfl
  | ended => exact quiet rfl rfl rfl
  | failed e => exact quiet rfl rfl rfl
  | bucket b =>
    have units : (p.afterPull source (.bucket b)).units = p.units ++ [.start b] :=
      Line.tasks_join p.line (.start b)
    have taken : History.taken (ds ++ Pulled.deeds (.bucket b)) = ds.taken ++ [b] :=
      History.taken_append ds [.taken b]
    -- The number of the bucket is a new one, so there is nothing in its diary.
    have new : log.diary b.ordinal = [] := by
      refine h.blank _ fun old => ?_
      have distinct : ((ds.taken ++ [b]).map (·.ordinal)).Nodup := by
        rw [← taken, numbered]
        exact List.nodup_range'
      rw [List.map_append, List.nodup_append] at distinct
      exact distinct.2.2 _ old _ (List.mem_singleton_self _) rfl
    constructor
    · exact h.orderly
    · intro u hu
      rw [units, List.mem_append] at hu
      obtain earlier | this := hu
      · exact h.writes u earlier
      · rw [List.mem_singleton.mp this]
        show Diary.Refused _ (log.diary b.ordinal)
        rw [new]
        exact .never
    · intro u hu
      rw [units, List.mem_append] at hu
      obtain earlier | this := hu
      · exact h.proper u earlier
      · rw [List.mem_singleton.mp this]
        exact rfl
    · intro k untaken
      rw [taken, List.map_append, List.mem_append, not_or] at untaken
      exact h.blank k untaken.1
    · rw [History.calls_append, h.calls]
      exact List.append_nil _
    · have tally := h.tally
      rw [units, History.calls_append, History.settled_append, History.lost_append, List.map_append,
        List.sum_append]
      show List.count _ (ds.calls ++ []) = p.totals.throttledWaits +
        ((p.units.map BatchUnit.openSamples).sum + 0) +
          ((ds.settled ++ []).length + (ds.lost ++ []).length)
      rw [List.append_nil, List.append_nil, List.append_nil]
      exact tally

/-- The units have buckets of different numbers. -/
theorem Ledger.other_number (ledger : Ledger settings p ds errors) {position : Nat}
    {a : Attended BatchUnit} (place : p.line[position]? = some a) {u : BatchUnit}
    (other : u ∈ Line.tasks (p.line.eraseIdx position)) :
    a.task.bucket.ordinal ≠ u.bucket.ordinal := by
  have distinct : ((p.units.map (·.bucket)).map (·.ordinal)).Nodup := by
    have all := ledger.accounted.map (·.ordinal)
    rw [List.map_append] at all
    refine (List.nodup_append.mp (all.nodup_iff.mpr ?_)).1
    rw [ledger.numbered]
    exact List.nodup_range'
  rw [List.map_map] at distinct
  have parted := (parted_of_place place).map fun u => u.bucket.ordinal
  have apart := (List.nodup_cons.mp (parted.nodup_iff.mp distinct)).1
  exact fun same => apart (List.mem_map.mpr ⟨u, other, same.symm⟩)

/-- The unit at a position has gone on, and written its diary. -/
theorem Diaries.advanced (h : Diaries settings p ds log) (ledger : Ledger settings p ds errors)
    {position : Nat} {a : Attended BatchUnit} (place : p.line[position]? = some a) (site : Site)
    (waits : q.totals.throttledWaits =
      p.totals.throttledWaits + (a.task.advance p.settings site).1.waits)
    (alike : (p.afterTurn position a.task.bucket (a.task.advance p.settings site).1).Alike q) :
    Diaries settings q (ds ++ a.task.deeds p.settings site)
      (log ++ .ofUnit a.task.bucket.ordinal (a.task.entries p.settings site)) := by
  rw [ledger.settings_eq] at waits alike ⊢
  have parted := parted_of_place place
  have member : a.task ∈ p.units := parted.symm.subset List.mem_cons_self
  have written := BatchUnit.writes_advance (h.proper _ member) (h.writes _ member) site
  have tallied := @BatchUnit.tally_advance settings _ (h.proper _ member) site
  have about := BatchUnit.about_advance (ledger.onTask _ member) site
  have told := a.task.calls_entries settings site
  have made := a.task.calls_deeds settings site
  obtain ⟨untaken, unsettled, unlost⟩ := a.task.views_callDeeds
  rw [BatchUnit.deeds_eq] at made ⊢
  have units := alike.units
  rw [units_afterTurn] at units
  generalize (a.task.advance settings site).1 = progress at *
  generalize a.task.entries settings site = es at *
  have diaries : ∀ k, (log ++ Log.ofUnit a.task.bucket.ordinal es).diary k =
      log.diary k ++ if a.task.bucket.ordinal = k then es else [] := fun k => by
    rw [Log.diary_append, Log.diary_ofUnit]
  have others : ∀ u ∈ Line.tasks (p.line.eraseIdx position),
      u ∈ p.units ∧ (log ++ Log.ofUnit a.task.bucket.ordinal es).diary u.bucket.ordinal =
        log.diary u.bucket.ordinal := by
    intro u hu
    refine ⟨parted.symm.subset (List.mem_cons_of_mem _ hu), ?_⟩
    rw [diaries, if_neg (ledger.other_number place hu), List.append_nil]
  have still : ∀ u ∈ progress.units, u.Proper ∧ u.phase.Writes settings.thresholds
      ((log ++ Log.ofUnit a.task.bucket.ordinal es).diary u.bucket.ordinal) := by
    intro u hu
    cases progress with
    | running u' =>
      rw [List.mem_singleton.mp hu, about.1, diaries, if_pos rfl]
      exact written
    | turnedAway u' =>
      rw [List.mem_singleton.mp hu, about.1, diaries, if_pos rfl]
      exact written
    | finished r => cases hu
    | failed e => cases hu
  constructor
  · intro k
    rw [diaries]
    by_cases this : a.task.bucket.ordinal = k
    · rw [if_pos this, ← this]
      cases progress with
      | running u' => exact Diary.orderly_of_writes written.2
      | turnedAway u' => exact Diary.orderly_of_writes written.2
      | finished r => exact written
      | failed e => exact written
    · rw [if_neg this, List.append_nil]
      exact h.orderly k
  · intro u hu
    obtain other | this := List.mem_append.mp (units.subset hu)
    · obtain ⟨earlier, same⟩ := others u other
      rw [same]
      exact h.writes u earlier
    · exact (still u this).2
  · intro u hu
    obtain other | this := List.mem_append.mp (units.subset hu)
    · exact h.proper u (others u other).1
    · exact (still u this).1
  · intro k new
    rw [History.taken_append, List.map_append, List.mem_append, not_or] at new
    rw [diaries, h.blank k new.1, if_neg, List.nil_append]
    rintro rfl
    refine new.1 (List.mem_map_of_mem (ledger.accounted.subset ?_))
    exact List.mem_append_left _ (List.mem_map_of_mem member)
  · rw [History.calls_append, Log.calls_append, h.calls, Log.calls_ofUnit, told, made]
  · have tally := h.tally
    have before := (parted.map BatchUnit.openSamples).sum_eq
    have after := (units.map BatchUnit.openSamples).sum_eq
    rw [List.map_cons, List.sum_cons] at before
    rw [List.map_append, List.sum_append] at after
    rw [History.calls_append, made, List.count_append, History.settled_append, History.lost_append,
      History.settled_append, History.lost_append, unsettled, unlost, List.nil_append,
      List.nil_append, List.length_append, List.length_append, waits, after]
    omega

/-- **The diaries are kept in order by every move.** -/
theorem Diaries.moved (h : Diaries settings p ds log) (ledger : Ledger settings p ds errors)
    (site : Site) (m : Move) :
    Diaries settings (p.move site m).1 (ds ++ p.deeds site m) (log ++ p.entries site m) := by
  have turn := turn_cases p site m
  unfold entries
  generalize (p.move site m).1 = q at turn ⊢
  generalize p.mover? site m = mover at turn ⊢
  generalize p.deeds site m = more at turn ⊢
  generalize p.troubles site m = troubles at turn
  cases turn with
  | idle alike gauged =>
    rw [List.append_nil]
    exact (List.append_nil log).symm ▸ h.of_units alike.units gauged.waits
  | pulled takesIn alike gauged =>
    have same : (p.afterPull (p.source.pull site).2.1
        (p.source.pull site).1).totals.throttledWaits = p.totals.throttledWaits := by
      cases (p.source.pull site).1 <;> rfl
    refine (List.append_nil log).symm ▸ (h.pulled ledger takesIn site).of_units alike.units ?_
    rw [same]
    exact gauged.waits
  | advanced place alike gauged => exact h.advanced ledger place site gauged.waits alike

/-- So they are in order at every moment. -/
theorem Diaries.through (h : Diaries settings p ds log) (ledger : Ledger settings p ds errors)
    (moves : List (Site × Move)) :
    Diaries settings (p.through moves) (ds ++ p.told deeds moves)
      (log ++ p.told entries moves) := by
  induction moves generalizing p ds errors log with
  | nil =>
    rw [told, told, List.append_nil]
    exact (List.append_nil log).symm ▸ h
  | cons made rest ih =>
    rw [told, told, ← List.append_assoc]
    have moved := ih (h.moved ledger made.1 made.2) (ledger.moved made.1 made.2)
    rw [List.append_assoc log] at moved
    exact moved

end Diaries

/-- **No bucket is deleted without an admission of its own.**  Take any moves, each at any site, of
a pool of any width on any rows.  Every diary is in order: the execution of a bucket begins right
after an answer to a request of its own unit on which the decision was to proceed, and each earlier
answer is followed by a rest of the time decided on it.  The calls that were made are those in the
diaries, and each diary is of a bucket that was taken, of which no two have one number.  A unit that
is executing has begun to; one that got an error instead of counters, other than that there are none
to be had, never has.  And when the pool is over without an error, the counters were asked for once
for each bucket and once for each wait. -/
theorem fresh_admission (settings : PoolSettings) (width : Nat) (rows : RowSource)
    (bucketSize : Nat) (site : Site) (moves : List (Site × Move)) :
    let p := start { settings with width := max 1 width } (.ofRows rows bucketSize) site
    let q := p.through moves
    let done : History := p.told deeds moves
    let log : Log := p.told entries moves
    (∀ k, Diary.Orderly settings.thresholds (log.diary k)) ∧
    done.calls = log.calls ∧
    (done.taken.map (·.ordinal)).Nodup ∧
    (∀ entry ∈ log, entry.1 ∈ done.taken.map (·.ordinal)) ∧
    (∀ u ∈ q.units, u.isExecuting = true → .began ∈ log.diary u.bucket.ordinal) ∧
    (∀ k s e, .answered s ∈ log.diary k → s.answer = .error e → e.isUnavailable = false →
      .began ∉ log.diary k) ∧
    (q.isOver = true → ∀ totals, q.verdict = .ok totals →
      done.calls.count .status = totals.buckets + totals.throttledWaits) := by
  intro p q done log
  have ledgerStart := ledger_start { settings with width := max 1 width } rows bucketSize site
  have ledger : Ledger { settings with width := max 1 width } q done (p.told troubles moves) :=
    ledgerStart.through moves
  have blankStart : Diaries { settings with width := max 1 width } p [] [] :=
    { orderly := fun _ => .toAsk .never
      writes := fun _ nothing => nomatch nothing
      proper := fun _ nothing => nomatch nothing
      blank := fun _ _ => rfl
      calls := rfl
      tally := rfl }
  have diaries : Diaries { settings with width := max 1 width } q done log :=
    blankStart.through ledgerStart moves
  refine ⟨diaries.orderly, diaries.calls, ?_, ?_, ?_, ?_, ?_⟩
  · rw [ledger.numbered]
    exact List.nodup_range'
  · intro entry hentry
    by_contra untaken
    have blank := List.filterMap_eq_nil_iff.mp (diaries.blank _ untaken) entry hentry
    rw [if_pos rfl] at blank
    cases blank
  · intro u hu executing
    have writes := diaries.writes u hu
    unfold BatchUnit.isExecuting at executing
    split at executing
    · next e hphase =>
      rw [hphase] at writes
      obtain ⟨earlier, s, course, -, -, -, whole⟩ := writes
      rw [whole]
      simp
    · cases executing
  · intro k s e answered failed unexcused
    refine (diaries.orderly k).not_began answered ?_
    rw [Sample.decision?, failed, countersOf, unexcused]
    rfl
  · intro stopped totals ok
    have positive : 0 < max 1 width := Nat.lt_of_lt_of_le Nat.one_pos (Nat.le_max_left 1 width)
    obtain ⟨none_left, -⟩ := ledger.at_end positive stopped
    obtain ⟨-, same⟩ := ledger.of_ok ok
    have settled := (ledger.accounted.of_no_units none_left).length_eq
    rw [List.length_append, List.length_map] at settled
    have tally := diaries.tally
    rw [none_left] at tally
    rw [tally, same, ledger.books.buckets, ← settled]
    show q.totals.throttledWaits + 0 + (_ + _) = _
    omega

/-- A store whose cache is full when it is asked first: of two units one is turned away, and the
counters are asked for three times. -/
theorem fresh_admission_full_cache :
    let settings := (Plan.orders false).poolSettings 1
    let rows : RowSource := .known (.ofList
      [⟨none, .ok ⟨⟨"a"⟩, .null, 1, 1, 1⟩⟩, ⟨none, .ok ⟨⟨"c"⟩, .null, 2, 1, 1⟩⟩])
    let site : Site :=
      { store := .memory { script := [{ cacheInUse := some 99, cacheMax := some 100 }] } }
    let p := start { settings with width := max 1 2 } (.ofRows rows 1) site
    let moves := chosen promptly 20 p site
    let totals : Totals := ⟨2, 2, 0, 0, 1, 1⟩
    (p.through moves).isOver = true ∧ (p.through moves).verdict = .ok totals ∧
      (History.calls (p.told deeds moves)).count .status = totals.buckets + 1 := by
  intro settings rows site p moves totals
  have stopped : (p.through moves).isOver = true := by decide +kernel
  have fatal : (p.through moves).fatal = none := by decide +kernel
  have shown : (p.through moves).totals = totals := by decide +kernel
  have verdict : (p.through moves).verdict = .ok totals := by
    rw [Pool.verdict, fatal, shown]
  obtain ⟨-, -, -, -, -, -, asked⟩ := fresh_admission settings 2 rows 1 site moves
  exact ⟨stopped, verdict, asked stopped totals verdict⟩

end Pool

end PacedPurge
