import Mathlib.Algebra.BigOperators.Group.List.Basic
import Mathlib.Data.List.Nodup
import PacedPurge.Proofs.Purge.Outcome
import PacedPurge.Proofs.Purge.Moves

/-!
# The bookkeeping of a pool

A pool keeps its books (`Pool.Ledger`) whatever comes between its moves: whatever its source
delivers, whatever the store answers, and whichever of the source and the units goes on next.

At every moment each bucket that was taken is in one place.  It is under way, or it was settled with
a result of its own number, or it was lost; and buckets are known by their numbers, which the source
gives out in order.  No more units are under way than the width allows.  The first error closes the
intake and is the one that the pool ends with, once nothing is under way any more.
-/

namespace PacedPurge

/-! ## Numbers of buckets -/

/-- Whether the bucket under way, if there is one, is the one after the last complete one. -/
def Assembly.InStep (a : Assembly) : Prop := ∀ part ∈ a.pending, part.number = a.last + 1

/-- How the numbers go on when a source with this assembly has answered and is now the one given. -/
def Pulled.Numbers (a : Assembly) (after : BucketSource) : Pulled → Prop
  | .bucket b => b.ordinal = a.last + 1 ∧ after.assembly.last = b.ordinal
  | .ended => after.exhausted = true ∧ after.assembly.last = a.last
  | .taken | .later _ | .failed _ => after.assembly.last = a.last

namespace Assembly

variable {a a' : Assembly} {row : Row}

theorem number_bucketFor {part : PartBucket} (inStep : a.InStep) (h : a.bucketFor row = .ok part) :
    part.number = a.last + 1 := by
  unfold bucketFor at h
  split at h
  · cases h
  · cases hpending : a.pending with
    | some p =>
      simp only [hpending] at h
      split at h
      · cases h
        exact inStep _ hpending
      · cases h
    | none =>
      simp only [hpending] at h
      split at h
      · next opens =>
        simp only [Bool.and_eq_true, decide_eq_true_eq] at opens
        cases h
        exact opens.1
      · cases h

theorem numbers_accept (inStep : a.InStep) {complete : Option Bucket}
    (h : a.accept row = .ok (complete, a')) :
    a'.InStep ∧
      match complete with
      | some b => b.ordinal = a.last + 1 ∧ a'.last = b.ordinal
      | none => a'.last = a.last := by
  unfold accept at h
  split at h
  · cases h
  · next part hpart =>
    have number := number_bucketFor inStep hpart
    simp only at h
    split at h
    · cases h
      refine ⟨fun _ nothing => ?_, number, rfl⟩
      cases nothing
    · cases h
      refine ⟨fun p hp => ?_, rfl⟩
      obtain rfl := Option.some.inj hp
      exact number

end Assembly

namespace BucketSource

/-- The source gives its buckets consecutive numbers, and says that it has ended only when it has.
-/
theorem numbers_pull (s : BucketSource) (site : Site) (inStep : s.assembly.InStep) :
    (s.pull site).2.1.assembly.InStep ∧ (s.pull site).1.Numbers s.assembly (s.pull site).2.1 := by
  have step := s.pull_case site
  generalize s.pull site = r at step ⊢
  obtain ⟨pulled, s', site'⟩ := r
  cases step with
  | spent done => exact ⟨inStep, done, rfl⟩
  | later active polled => exact ⟨inStep, rfl⟩
  | lost active polled => exact ⟨inStep, rfl⟩
  | refused active polled accepted => exact ⟨inStep, rfl⟩
  | taken active polled accepted => exact Assembly.numbers_accept inStep accepted
  | bucket active polled accepted => exact Assembly.numbers_accept inStep accepted
  | truncated active polled pending => exact ⟨fun _ nothing => (nomatch nothing), rfl⟩
  | ended active polled pending => exact ⟨inStep, rfl, rfl⟩

end BucketSource

/-! ## Results of units -/

/-- Whether the unit is executing its own bucket, if it is executing. -/
def BatchUnit.OnTask (settings : PoolSettings) (u : BatchUnit) : Prop :=
  ∀ e, u.phase = .executing e → e.task = settings.assignment u.bucket

/-- Whether what has become of an execution is about its assignment. -/
def Execution.Progress.About (task : Assignment) : Execution.Progress → Prop
  | .running e => e.task = task
  | .finished r => r.ordinal = task.ordinal

/-- Whether what has become of a unit is about its bucket. -/
def BatchUnit.Progress.About (settings : PoolSettings) (b : Bucket) : BatchUnit.Progress → Prop
  | .running u | .turnedAway u => u.bucket = b ∧ u.OnTask settings
  | .finished r => r.ordinal = b.ordinal
  | .failed _ => True

theorem Execution.about_settle (e : Execution) (outcome : Except StoreError Nat) (site : Site) :
    (e.settle outcome site).1.About e.task := by
  cases outcome with
  | ok n => rfl
  | error error =>
    simp only [settle]
    split
    · rfl
    · rfl

theorem Execution.about_advance (e : Execution) (site : Site) :
    (e.advance site).1.About e.task := by
  obtain ⟨task, attempts, phase⟩ := e
  cases phase with
  | deleting call =>
    simp only [advance]
    generalize call.advance site = r
    obtain ⟨outcome, site'⟩ := r
    cases outcome with
    | waiting call' => rfl
    | answered answer => exact about_settle _ answer site'
  | beginning call =>
    simp only [advance]
    generalize call.advance site = r
    obtain ⟨outcome, site'⟩ := r
    cases outcome with
    | waiting call' => rfl
    | answered answer =>
      cases answer with
      | error error => exact about_settle _ (.error error) site'
      | ok txn => rfl
  | staging txn call =>
    simp only [advance]
    generalize call.advance site = r
    obtain ⟨outcome, site'⟩ := r
    cases outcome with
    | waiting call' => rfl
    | answered answer =>
      cases answer with
      | error error => rfl
      | ok counted => rfl
  | aborting result call =>
    simp only [advance]
    generalize call.advance site = r
    obtain ⟨outcome, site'⟩ := r
    cases outcome with
    | waiting call' => rfl
    | answered answer => exact about_settle _ result _

theorem BatchUnit.about_advance {settings : PoolSettings} {u : BatchUnit}
    (onTask : u.OnTask settings) (site : Site) :
    (u.advance settings site).1.About settings u.bucket := by
  obtain ⟨bucket, phase⟩ := u
  cases phase with
  | sampling call =>
    simp only [advance]
    generalize call.advance site = r
    obtain ⟨outcome, site'⟩ := r
    cases outcome with
    | waiting call' => exact ⟨rfl, fun e he => by cases he⟩
    | answered answer =>
      simp only
      split
      · simp only [judge]
        split
        · refine ⟨rfl, fun e he => ?_⟩
          cases he
          rfl
        · exact ⟨rfl, fun e he => by cases he⟩
      · trivial
  | resting time =>
    simp only [advance]
    split
    · exact ⟨rfl, fun e he => by cases he⟩
    · exact ⟨rfl, onTask⟩
  | executing e =>
    have about := e.about_advance site
    rw [onTask e rfl] at about
    simp only [advance]
    generalize e.advance site = r at about
    obtain ⟨progress, site'⟩ := r
    cases progress with
    | running e' =>
      refine ⟨rfl, fun e he => ?_⟩
      cases he
      exact about
    | finished r => exact about

/-! ## The ledger -/

/-- The number of the bucket that was lost with the error. -/
def PoolError.bucket? : PoolError → Option Nat
  | .source _ => none
  | .telemetry bucket _ => some bucket

namespace Pool

/-- Whether each bucket that was taken is under way, settled or lost, and in one of these once. -/
def Accounted (p : Pool) (ds : History) : Prop :=
  (p.units.map (·.bucket) ++ (ds.settled.map (·.1) ++ ds.lost)).Perm ds.taken

/-- **What the books of a pool show at every moment**, with its history and the errors that it has
met. -/
structure Ledger (settings : PoolSettings) (p : Pool) (ds : History) (errors : List PoolError) :
    Prop where
  settings_eq : p.settings = settings
  books : p.Books ds
  accounted : p.Accounted ds
  within : p.units.length ≤ settings.width
  peak : p.totals.peakInFlight ≤ min settings.width ds.taken.length
  fatal : p.fatal = errors.head?
  numbered : ds.taken.map (·.ordinal) = List.range' 1 p.source.assembly.last
  inStep : p.source.assembly.InStep
  onTask : ∀ u ∈ p.units, u.OnTask settings
  outcomes : ∀ s ∈ ds.settled, s.2.ordinal = s.1.ordinal
  losses : ds.lost.map (·.ordinal) = errors.filterMap PoolError.bucket?
  ended : p.drained = true → p.source.exhausted = true

section Ledger

variable {settings : PoolSettings} {p q : Pool} {ds more : History} {errors : List PoolError}

theorem Accounted.length_units (h : p.Accounted ds) : p.units.length ≤ ds.taken.length := by
  have all := h.length_eq
  rw [List.length_append, List.length_map] at all
  omega

/-- A bucket is taken in. -/
theorem Accounted.tookIn (h : p.Accounted ds) {b : Bucket} {u : BatchUnit} (same : u.bucket = b)
    (units : q.units = p.units ++ [u]) : q.Accounted (ds ++ [.taken b]) := by
  classical
  refine List.perm_iff_count.mpr fun x => ?_
  have all := List.perm_iff_count.mp h x
  simp only [units, same, History.settled_append, History.lost_append, History.taken_append,
    History.views_taken, List.map_append, List.map_cons, List.map_nil, List.count_append,
    List.append_nil] at all ⊢
  omega

/-- A unit has gone on: its bucket is still under way, or settled, or lost. -/
theorem Accounted.turned (h : p.Accounted ds) {position : Nat} {a : Attended BatchUnit}
    (place : p.line[position]? = some a) {progress : BatchUnit.Progress}
    (units : q.units = Line.tasks (p.line.eraseIdx position) ++ progress.units)
    (same : ∀ u ∈ progress.units, u.bucket = a.task.bucket) :
    q.Accounted (ds ++ (a.task.callDeeds ++ progress.deeds a.task.bucket)) := by
  classical
  obtain ⟨htaken, hsettled, hlost⟩ := a.task.views_callDeeds
  refine List.perm_iff_count.mpr fun x => ?_
  have all := List.perm_iff_count.mp h x
  have others := List.perm_iff_count.mp ((parted_of_place place).map (·.bucket)) x
  rw [List.map_cons, List.count_cons] at others
  -- Of the unit's bucket there is one entry more in one of the three places, and in no other.
  have whereabouts : List.count x (progress.units.map (·.bucket)) +
      (List.count x ((progress.deeds a.task.bucket).settled.map (·.1)) +
        List.count x (progress.deeds a.task.bucket).lost) =
      (if a.task.bucket == x then 1 else 0) ∧ (progress.deeds a.task.bucket).taken = [] := by
    cases progress with
    | running u => exact ⟨by simp [BatchUnit.Progress.units, BatchUnit.Progress.deeds,
        same u (List.mem_singleton_self u), History.settled, History.lost, List.count_singleton],
        rfl⟩
    | turnedAway u => exact ⟨by simp [BatchUnit.Progress.units, BatchUnit.Progress.deeds,
        same u (List.mem_singleton_self u), History.settled, History.lost, List.count_singleton],
        rfl⟩
    | finished r => exact ⟨by simp [BatchUnit.Progress.units, BatchUnit.Progress.deeds,
        List.count_singleton], rfl⟩
    | failed e => exact ⟨by simp [BatchUnit.Progress.units, BatchUnit.Progress.deeds,
        List.count_singleton], rfl⟩
  obtain ⟨placed, untaken⟩ := whereabouts
  simp only [units, History.settled_append, History.lost_append, History.taken_append, htaken,
    hsettled, hlost, untaken, List.map_append, List.nil_append, List.append_nil, List.count_append]
    at all ⊢
  omega

/-! ### What keeps the ledger -/

theorem Ledger.of_alike (h : Ledger settings p ds errors) (alike : p.Alike q)
    (peak : q.totals.peakInFlight ≤ max p.totals.peakInFlight q.units.length) :
    Ledger settings q ds errors where
  settings_eq := alike.settings.trans h.settings_eq
  books := h.books.of_alike alike
  accounted := ((alike.units.map _).append_right _).trans h.accounted
  within := by rw [alike.units.length_eq]; exact h.within
  peak := by
    have within := h.within
    have accounted := h.accounted.length_units
    have earlier := h.peak
    rw [alike.units.length_eq] at peak
    omega
  fatal := alike.fatal.trans h.fatal
  numbered := by rw [alike.source]; exact h.numbered
  inStep := by rw [alike.source]; exact h.inStep
  onTask := fun u hu => h.onTask u (alike.units.subset hu)
  outcomes := h.outcomes
  losses := h.losses
  ended := by rw [alike.drained, alike.source]; exact h.ended

/-- Nothing is taken once there has been an error. -/
theorem Ledger.open_of_takesIn (h : Ledger settings p ds errors) (takesIn : p.takesIn = true) :
    errors = [] ∧ p.units.length < settings.width := by
  obtain ⟨unharmed, -⟩ := active_of_takesIn takesIn
  rw [h.fatal, List.head?_eq_none_iff] at unharmed
  refine ⟨unharmed, ?_⟩
  simp only [Pool.takesIn, Bool.and_eq_true, decide_eq_true_eq, h.settings_eq] at takesIn
  rw [units, Line.tasks, List.length_map]
  exact takesIn.2

theorem Ledger.pulled (h : Ledger settings p ds errors) (takesIn : p.takesIn = true) (site : Site) :
    Ledger settings (p.afterPull (p.source.pull site).2.1 (p.source.pull site).1)
      (ds ++ (p.source.pull site).1.deeds) (errors ++ (p.source.pull site).1.troubles) := by
  obtain ⟨unharmed, room⟩ := h.open_of_takesIn takesIn
  obtain ⟨inStep, numbers⟩ := p.source.numbers_pull site h.inStep
  have books := h.books.pulled (p.source.pull site).2.1 (p.source.pull site).1
  generalize p.source.pull site = r at inStep numbers books
  obtain ⟨answer, source, site'⟩ := r
  subst unharmed
  -- An answer that is no bucket changes the source, and what it says of itself.
  have quiet : answer.deeds = [] → source.assembly.last = p.source.assembly.last →
      (p.afterPull source answer).settings = p.settings →
      (p.afterPull source answer).units = p.units →
      (p.afterPull source answer).totals = p.totals →
      (p.afterPull source answer).source = source →
      (p.afterPull source answer).fatal = answer.troubles.head? →
      answer.troubles.filterMap PoolError.bucket? = [] →
      ((p.afterPull source answer).drained = true → source.exhausted = true) →
      Ledger settings (p.afterPull source answer) (ds ++ answer.deeds) ([] ++ answer.troubles) := by
    intro nothing last hsettings hunits htotals hsource hfatal hlosses hended
    rw [nothing, List.append_nil] at books ⊢
    constructor
    · exact hsettings.trans h.settings_eq
    · exact books
    · rw [Accounted, hunits]; exact h.accounted
    · rw [hunits]; exact h.within
    · rw [htotals]; exact h.peak
    · rw [hfatal]; rfl
    · rw [hsource, last]; exact h.numbered
    · rw [hsource]; exact inStep
    · rw [hunits]; exact h.onTask
    · exact h.outcomes
    · rw [List.nil_append, hlosses]; exact h.losses
    · rw [hsource]; exact hended
  have fatal : p.fatal = none := h.fatal
  have undrained : p.drained = true → source.exhausted = true := fun drained => by
    rw [(active_of_takesIn takesIn).2] at drained
    cases drained
  cases answer with
  | taken => exact quiet rfl numbers rfl rfl rfl rfl fatal rfl undrained
  | later time => exact quiet rfl numbers rfl rfl rfl rfl fatal rfl undrained
  | ended => exact quiet rfl numbers.2 rfl rfl rfl rfl fatal rfl fun _ => numbers.1
  | failed e => exact quiet rfl numbers rfl rfl rfl rfl rfl rfl undrained
  | bucket b =>
    obtain ⟨ordinal, last⟩ := numbers
    have units : (p.afterPull source (.bucket b)).units = p.units ++ [.start b] :=
      Line.tasks_join p.line (.start b)
    constructor
    · exact h.settings_eq
    · exact books
    · exact h.accounted.tookIn rfl units
    · rw [units, List.length_append]
      exact room
    · have peak := h.peak
      show p.totals.peakInFlight ≤ _
      rw [History.taken_append, List.length_append]
      omega
    · exact fatal
    · show _ = List.range' 1 source.assembly.last
      rw [History.taken_append, List.map_append, h.numbered, last, ordinal, List.range'_concat,
        Nat.one_mul, Nat.add_comm]
      exact congrArg (fun n => List.range' 1 p.source.assembly.last ++ [n]) ordinal
    · exact inStep
    · intro u hu
      rw [units, List.mem_append] at hu
      obtain earlier | new := hu
      · exact h.onTask u earlier
      · rw [List.mem_singleton.mp new]
        intro e he
        cases he
    · simpa [Pulled.deeds] using h.outcomes
    · simpa [Pulled.deeds, Pulled.troubles] using h.losses
    · exact undrained

/-- The unit at a position has gone on. -/
theorem Ledger.advanced (h : Ledger settings p ds errors) {position : Nat}
    {a : Attended BatchUnit} (place : p.line[position]? = some a) (site : Site) :
    Ledger settings (p.afterTurn position a.task.bucket (a.task.advance p.settings site).1)
      (ds ++ a.task.deeds p.settings site)
      (errors ++ (a.task.advance p.settings site).1.troubles a.task.bucket) := by
  have books := h.books.advanced position a site
  have member : a.task ∈ p.units := List.mem_map_of_mem (List.mem_of_getElem? place)
  have about := BatchUnit.about_advance (h.onTask _ member) site
  obtain ⟨htaken, hsettled, hlost⟩ := a.task.views_callDeeds
  rw [BatchUnit.deeds_eq] at books ⊢
  rw [h.settings_eq] at books ⊢
  generalize (a.task.advance settings site).1 = progress at about books
  have others : ∀ u ∈ Line.tasks (p.line.eraseIdx position), u ∈ p.units := fun u hu =>
    (parted_of_place place).symm.subset (List.mem_cons_of_mem _ hu)
  have fewer : (Line.tasks (p.line.eraseIdx position)).length + 1 = p.units.length :=
    (parted_of_place place).length_eq.symm
  have still : ∀ u ∈ progress.units, u.bucket = a.task.bucket ∧ u.OnTask settings := by
    intro u hu
    cases progress with
    | running u' => exact List.mem_singleton.mp hu ▸ about
    | turnedAway u' => exact List.mem_singleton.mp hu ▸ about
    | finished r => cases hu
    | failed e => cases hu
  have units := units_afterTurn (p := p) position a.task.bucket progress
  have source : (p.afterTurn position a.task.bucket progress).source = p.source := by
    cases progress <;> rfl
  have untaken : (progress.deeds a.task.bucket).taken = [] := by cases progress <;> rfl
  have taken : History.taken (ds ++ (a.task.callDeeds ++ progress.deeds a.task.bucket)) =
      ds.taken := by
    rw [History.taken_append, History.taken_append, htaken, untaken, List.append_nil,
      List.append_nil]
  constructor
  · refine Eq.trans ?_ h.settings_eq
    cases progress <;> rfl
  · exact books
  · exact h.accounted.turned place units fun u hu => (still u hu).1
  · have one : progress.units.length ≤ 1 := by
      cases progress <;> exact Nat.le_of_ble_eq_true rfl
    have within := h.within
    rw [units, List.length_append]
    omega
  · rw [taken]
    refine Nat.le_trans (Nat.le_of_eq ?_) h.peak
    cases progress <;> rfl
  · have fatal := h.fatal
    rw [List.head?_append, ← fatal]
    cases progress with
    | running u => exact (Option.or_none).symm
    | turnedAway u => exact (Option.or_none).symm
    | finished r => exact (Option.or_none).symm
    | failed e =>
      show some (p.fatal.getD _) = _
      cases p.fatal with
      | none => rfl
      | some first => rfl
  · rw [taken, source]
    exact h.numbered
  · rw [source]
    exact h.inStep
  · intro u hu
    rw [units, List.mem_append] at hu
    obtain other | this := hu
    · exact h.onTask u (others u other)
    · exact (still u this).2
  · intro s hs
    rw [History.settled_append, History.settled_append, hsettled, List.nil_append,
      List.mem_append] at hs
    obtain earlier | new := hs
    · exact h.outcomes s earlier
    · cases progress with
      | finished r => exact List.mem_singleton.mp new ▸ about
      | running u => cases new
      | turnedAway u => cases new
      | failed e => cases new
  · rw [History.lost_append, History.lost_append, hlost, List.nil_append, List.map_append,
      h.losses, List.filterMap_append]
    cases progress <;> rfl
  · rw [source]
    refine fun drained => h.ended ?_
    rw [← drained]
    cases progress <;> rfl

/-- **The ledger is kept by every move.** -/
theorem Ledger.moved (h : Ledger settings p ds errors) (site : Site) (m : Move) :
    Ledger settings (p.move site m).1 (ds ++ p.deeds site m) (errors ++ p.troubles site m) := by
  have turn := turn_cases p site m
  generalize (p.move site m).1 = q at turn ⊢
  generalize p.mover? site m = mover at turn
  generalize p.deeds site m = more at turn ⊢
  generalize p.troubles site m = troubles at turn ⊢
  cases turn with
  | idle alike gauged =>
    rw [List.append_nil, List.append_nil]
    exact h.of_alike alike gauged.peak
  | pulled takesIn alike gauged =>
    refine (h.pulled takesIn site).of_alike alike ?_
    have same : (p.afterPull (p.source.pull site).2.1
        (p.source.pull site).1).totals.peakInFlight = p.totals.peakInFlight := by
      cases (p.source.pull site).1 <;> rfl
    rw [same]
    exact gauged.peak
  | @advanced _ position a place alike gauged =>
    refine (h.advanced place site).of_alike alike ?_
    have same : (p.afterTurn position a.task.bucket
        (a.task.advance p.settings site).1).totals.peakInFlight = p.totals.peakInFlight := by
      cases (a.task.advance p.settings site).1 <;> rfl
    rw [same]
    exact gauged.peak

/-- A pool that has done nothing has nothing in its books. -/
theorem ledger_start (settings : PoolSettings) (rows : RowSource) (bucketSize : Nat)
    (site : Site) :
    Ledger settings (start settings (.ofRows rows bucketSize) site) [] [] where
  settings_eq := rfl
  books := books_start settings _ site
  accounted := List.Perm.refl _
  within := Nat.zero_le _
  peak := Nat.zero_le _
  fatal := rfl
  numbered := rfl
  inStep := fun _ nothing => nomatch nothing
  onTask := fun _ nothing => nomatch nothing
  outcomes := fun _ nothing => nomatch nothing
  losses := rfl
  ended := fun nothing => nomatch nothing

/-- **So the ledger is kept at every moment.** -/
theorem Ledger.through (h : Ledger settings p ds errors) (moves : List (Site × Move)) :
    Ledger settings (p.through moves) (ds ++ p.told deeds moves)
      (errors ++ p.told troubles moves) := by
  induction moves generalizing p ds errors with
  | nil =>
    rw [told, told, List.append_nil, List.append_nil]
    exact h
  | cons made rest ih =>
    rw [told, told, ← List.append_assoc, ← List.append_assoc]
    exact ih (h.moved made.1 made.2)

/-- A move takes a bucket in only as long as there was no error and a place is free. -/
theorem Ledger.taken_only_when_open (h : Ledger settings p ds errors) (site : Site) (m : Move)
    {b : Bucket} (taken : b ∈ (p.deeds site m).taken) :
    errors = [] ∧ p.units.length < settings.width := by
  have turn := turn_cases p site m
  generalize (p.move site m).1 = q at turn
  generalize p.mover? site m = mover at turn
  generalize p.deeds site m = more at turn taken
  generalize p.troubles site m = troubles at turn
  cases turn with
  | idle alike gauged => cases taken
  | pulled takesIn alike gauged => exact h.open_of_takesIn takesIn
  | @advanced _ position a place alike gauged =>
    obtain ⟨untaken, -, -⟩ := a.task.views_callDeeds
    rw [BatchUnit.deeds_eq, History.taken_append, untaken, List.nil_append] at taken
    cases hprogress : (a.task.advance p.settings site).1 with
    | running u => rw [hprogress] at taken; cases taken
    | turnedAway u => rw [hprogress] at taken; cases taken
    | finished r => rw [hprogress] at taken; cases taken
    | failed e => rw [hprogress] at taken; cases taken

/-- After an error nothing is taken in any more. -/
theorem Ledger.closed (h : Ledger settings p ds errors) (harmed : errors ≠ [])
    (moves : List (Site × Move)) : History.taken (p.told deeds moves) = [] := by
  induction moves generalizing p ds errors with
  | nil => rfl
  | cons made rest ih =>
    have now : (p.deeds made.1 made.2).taken = [] := by
      refine List.eq_nil_iff_forall_not_mem.mpr fun b taken => harmed ?_
      exact (h.taken_only_when_open made.1 made.2 taken).1
    have later := ih (h.moved made.1 made.2) (List.append_ne_nil_of_left_ne_nil harmed _)
    show History.taken (p.deeds made.1 made.2 ++ told deeds (p.move made.1 made.2).1 rest) = []
    rw [History.taken_append, now, later]
    rfl

/-- A pool that is over has nothing under way; and without an error it has got to the end of its
source. -/
theorem Ledger.at_end (h : Ledger settings p ds errors) (positive : 0 < settings.width)
    (stopped : p.isOver = true) : p.units = [] ∧ (errors = [] → p.drained = true) := by
  simp only [isOver, Bool.and_eq_true, Bool.not_eq_true', List.isEmpty_iff] at stopped
  obtain ⟨closed, empty⟩ := stopped
  refine ⟨by rw [units, empty]; rfl, fun unharmed => ?_⟩
  have fatal : p.fatal = none := by rw [h.fatal, unharmed]; rfl
  have room : p.line.length < p.settings.width := by
    rw [empty, h.settings_eq]
    exact positive
  simpa [Pool.takesIn, fatal, room] using closed

/-- A pool shows the first error. -/
theorem Ledger.verdict (h : Ledger settings p ds errors) :
    p.verdict = match errors.head? with
      | some first => .error first
      | none => .ok p.totals := by
  have fatal := h.fatal
  cases first : errors.head? with
  | some e => simp only [Pool.verdict, fatal, first]
  | none => simp only [Pool.verdict, fatal, first]

/-- A pool that shows its totals had no error. -/
theorem Ledger.of_ok (h : Ledger settings p ds errors) {totals : Totals}
    (ok : p.verdict = .ok totals) : errors = [] ∧ totals = p.totals := by
  rw [h.verdict] at ok
  cases errors with
  | nil => exact ⟨rfl, (Except.ok.inj ok).symm⟩
  | cons first rest => cases ok

/-- What is accounted for when nothing is under way has been settled or lost. -/
theorem Accounted.of_no_units (h : p.Accounted ds) (none_left : p.units = []) :
    (ds.settled.map (·.1) ++ ds.lost).Perm ds.taken := by
  rw [Accounted, none_left] at h
  exact h

end Ledger

/-- **The bookkeeping of a pool.**  Take any moves, each at any site, of a pool of any width on any
rows.  Then no more units are under way than the width (a width of 0 counts as 1), and a bucket is
taken in only when there are fewer and there was no error.  The buckets that were taken have
different numbers; each of them is under way, or was passed on once with a result of its number, or
was lost to an error of its own, and in one of these only.  After the first error none is taken any
more; and the pool is over only when no unit is under way, with the first error if there was one.
Without one, all that the source had was taken and passed on, and the totals are those of the
buckets and of the results that were passed on. -/
theorem bookkeeping (settings : PoolSettings) (width : Nat) (rows : RowSource) (bucketSize : Nat)
    (site : Site) (moves : List (Site × Move)) :
    let p := start { settings with width := max 1 width } (.ofRows rows bucketSize) site
    let q := p.through moves
    let done : History := p.told deeds moves
    let errors := p.told troubles moves
    (q.units.length ≤ max 1 width ∧
      ∀ at' m b, b ∈ (q.deeds at' m).taken → q.units.length < max 1 width ∧ errors = []) ∧
    ((done.taken.map (·.ordinal)).Nodup ∧
      (q.units.map (·.bucket) ++ (done.settled.map (·.1) ++ done.lost)).Perm done.taken ∧
      q.results.reverse = done.settled.map (·.2) ∧
      (∀ s ∈ done.settled, s.2.ordinal = s.1.ordinal) ∧
      done.lost.map (·.ordinal) = errors.filterMap PoolError.bucket?) ∧
    (errors ≠ [] → ∀ more, History.taken (p.told deeds (moves ++ more)) = done.taken) ∧
    (q.isOver = true →
      q.units = [] ∧
      q.verdict = (match errors.head? with
        | some first => .error first
        | none => .ok q.totals) ∧
      ∀ totals, q.verdict = .ok totals →
        q.drained = true ∧ q.source.exhausted = true ∧
        (done.settled.map (·.1)).Perm done.taken ∧
        totals.buckets = q.results.length ∧
        totals.records = ((done.settled.map (·.1)).map Bucket.size).sum ∧
        totals.deleted = (q.results.map (·.deleted)).sum ∧
        totals.failedBuckets = q.results.countP (!·.isOk) ∧
        totals.peakInFlight ≤ min (max 1 width) totals.buckets) := by
  intro p q done errors
  have ledger : Ledger { settings with width := max 1 width } q done errors :=
    (ledger_start { settings with width := max 1 width } rows bucketSize site).through moves
  have books := ledger.books
  have distinct : (done.taken.map (·.ordinal)).Nodup := by
    rw [ledger.numbered]
    exact List.nodup_range'
  have passedOn : q.results.reverse = done.settled.map (·.2) := by
    rw [books.results, List.reverse_reverse]
    rfl
  refine ⟨⟨ledger.within, fun at' m b taken => ?_⟩,
    ⟨distinct, ledger.accounted, passedOn, ledger.outcomes, ledger.losses⟩,
    fun harmed more => ?_, fun stopped => ?_⟩
  · obtain ⟨unharmed, room⟩ := ledger.taken_only_when_open at' m taken
    exact ⟨room, unharmed⟩
  · rw [told_append, History.taken_append, ledger.closed harmed more, List.append_nil]
  · have positive : 0 < max 1 width := Nat.lt_of_lt_of_le Nat.one_pos (Nat.le_max_left 1 width)
    obtain ⟨none_left, drained⟩ := ledger.at_end positive stopped
    refine ⟨none_left, ledger.verdict, fun totals ok => ?_⟩
    obtain ⟨unharmed, same⟩ := ledger.of_ok ok
    have fatal : q.fatal = none := by rw [ledger.fatal, unharmed]; rfl
    have settled := ledger.accounted.of_no_units none_left
    rw [books.lost fatal, List.append_nil] at settled
    have buckets : totals.buckets = q.results.length := by
      have reversed : q.results.length = q.results.reverse.length := List.length_reverse.symm
      rw [same, books.buckets, ← settled.length_eq, reversed, passedOn, List.length_map,
        List.length_map]
    refine ⟨drained unharmed, ledger.ended (drained unharmed), settled, buckets, ?_, ?_, ?_, ?_⟩
    · rw [same, books.records]
      exact (settled.map Bucket.size).sum_eq.symm
    · rw [same, books.deleted, books.results, List.map_reverse, List.sum_reverse]
    · rw [same, books.failedBuckets, books.results, List.countP_reverse, History.failed,
        History.results, List.length_map, ← List.countP_eq_length_filter, List.countP_map]
      rfl
    · rw [same, books.buckets]
      exact ledger.peak

/-- Two rows, the second of them late, make two buckets.  The second delete is turned away, which is
a result, not an error of the pool. -/
theorem bookkeeping_orders :
    let settings := (Plan.orders false).poolSettings 1
    let rows : RowSource := .known (.ofList
      [⟨none, .ok ⟨⟨"a"⟩, .null, 1, 1, 1⟩⟩, ⟨some 5, .ok ⟨⟨"c"⟩, .null, 2, 1, 1⟩⟩])
    let p := start { settings with width := max 1 0 } (.ofRows rows 1) Site.orders
    let moves := chosen promptly 20 p Site.orders
    let totals : Totals := ⟨2, 2, 1, 1, 0, 1⟩
    (p.through moves).isOver = true ∧ (p.through moves).verdict = .ok totals ∧
      (p.through moves).drained = true ∧ totals.buckets = (p.through moves).results.length := by
  intro settings rows p moves totals
  have stopped : (p.through moves).isOver = true := by decide +kernel
  have fatal : (p.through moves).fatal = none := by decide +kernel
  have shown : (p.through moves).totals = totals := by decide +kernel
  have verdict : (p.through moves).verdict = .ok totals := by
    rw [Pool.verdict, fatal, shown]
  obtain ⟨-, -, -, ended⟩ := bookkeeping settings 0 rows 1 Site.orders moves
  obtain ⟨-, -, ok⟩ := ended stopped
  obtain ⟨drained, -, -, buckets, -⟩ := ok totals verdict
  exact ⟨stopped, verdict, drained, buckets⟩

end Pool

end PacedPurge
