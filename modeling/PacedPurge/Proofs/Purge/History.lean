import Mathlib.Algebra.GroupWithZero.Nat
import Mathlib.Data.List.Perm.Basic
import PacedPurge.Purge.Run

/-!
# What a purge has done

The *history* of a purge is the list of its deeds: calls that were made, buckets that were taken
from the source, buckets that were settled with a result, and buckets that were lost since the
counters for them could not be had.  It is told along with the moves of a pool (`Pool.history`), and
nothing in the pool depends on it.

What a move can come to is said once, by `MoveStep`: it does nothing of account, or the source goes
on, or a unit does.  `Pool.play_induction` carries a property of pools, sites and histories through
all moves.  Two such properties stand here.  The books of a pool agree with its history
(`Pool.books_play`): its results are those of the settled buckets, and its totals count what the
history tells.  And the gate has been passed by the calls of the history and by no others
(`Pool.gate_play`).
-/

namespace PacedPurge

/-- A deed of a purge. -/
inductive Deed where
  /-- A call came to the gate. -/
  | called (kind : Method)
  /-- A bucket was taken from the source. -/
  | taken (b : Bucket)
  /-- A bucket was settled. -/
  | settled (b : Bucket) (r : ExecutionResult)
  /-- The counters for a bucket could not be had. -/
  | lost (b : Bucket)

/-- What a purge has done, in order. -/
abbrev History := List Deed

namespace History

/-- The kinds of the calls. -/
def calls (ds : History) : List Method :=
  ds.filterMap fun
    | .called kind => some kind
    | _ => none

/-- The buckets that were taken. -/
def taken (ds : History) : List Bucket :=
  ds.filterMap fun
    | .taken b => some b
    | _ => none

/-- The buckets that were settled, each with its result. -/
def settled (ds : History) : List (Bucket × ExecutionResult) :=
  ds.filterMap fun
    | .settled b r => some (b, r)
    | _ => none

/-- The buckets that were lost. -/
def lost (ds : History) : List Bucket :=
  ds.filterMap fun
    | .lost b => some b
    | _ => none

/-- The results. -/
def results (ds : History) : List ExecutionResult := ds.settled.map (·.2)

/-- The buckets whose results have no error. -/
def succeeded (ds : History) : List Bucket := (ds.settled.filter (·.2.isOk)).map (·.1)

/-- The buckets whose results have an error. -/
def failed (ds : History) : List Bucket := (ds.settled.filter (!·.2.isOk)).map (·.1)

section Append

variable (ds more : History)

@[simp] theorem calls_append : calls (ds ++ more) = ds.calls ++ more.calls :=
  List.filterMap_append

@[simp] theorem taken_append : taken (ds ++ more) = ds.taken ++ more.taken :=
  List.filterMap_append

@[simp] theorem settled_append : settled (ds ++ more) = ds.settled ++ more.settled :=
  List.filterMap_append

@[simp] theorem lost_append : lost (ds ++ more) = ds.lost ++ more.lost :=
  List.filterMap_append

@[simp] theorem results_append : results (ds ++ more) = ds.results ++ more.results := by
  simp [results]

@[simp] theorem succeeded_append : succeeded (ds ++ more) = ds.succeeded ++ more.succeeded := by
  simp [succeeded]

@[simp] theorem failed_append : failed (ds ++ more) = ds.failed ++ more.failed := by
  simp [failed]

end Append

section Single

variable (b : Bucket) (r : ExecutionResult)

@[simp] theorem views_taken : taken [.taken b] = [b] ∧ settled [.taken b] = [] ∧
    lost [.taken b] = [] ∧ results [.taken b] = [] ∧ succeeded [.taken b] = [] ∧
    failed [.taken b] = [] :=
  ⟨rfl, rfl, rfl, rfl, rfl, rfl⟩

@[simp] theorem views_settled : taken [.settled b r] = [] ∧ settled [.settled b r] = [(b, r)] ∧
    lost [.settled b r] = [] ∧ results [.settled b r] = [r] :=
  ⟨rfl, rfl, rfl, rfl⟩

@[simp] theorem succeeded_settled : succeeded [.settled b r] = if r.isOk then [b] else [] := by
  cases hok : r.isOk with
  | true => simp [succeeded, hok]
  | false => simp [succeeded, hok]

@[simp] theorem failed_settled : failed [.settled b r] = if r.isOk then [] else [b] := by
  cases hok : r.isOk with
  | true => simp [failed, hok]
  | false => simp [failed, hok]

@[simp] theorem views_lost : taken [.lost b] = [] ∧ settled [.lost b] = [] ∧
    lost [.lost b] = [b] ∧ succeeded [.lost b] = [] :=
  ⟨rfl, rfl, rfl, rfl⟩

end Single

theorem succeeded_of_settled {ds : History} (h : ds.settled = []) : ds.succeeded = [] := by
  rw [succeeded, h]
  rfl

/-- The buckets that ended well are some of those that were settled. -/
theorem succeeded_sublist (ds : History) : ds.succeeded.Sublist (ds.settled.map (·.1)) :=
  List.filter_sublist.map _

end History

/-! ## Deeds -/

/-- The deed of a call that is about to come to the gate. -/
def Call.deeds {α : Type} (c : Call α) : History :=
  match c.stage, c.request.method? with
  | .arriving, some kind => [.called kind]
  | _, _ => []

/-- The deed of the call that an execution has under way. -/
def Execution.deeds (e : Execution) : History :=
  match e.phase with
  | .deleting call => call.deeds
  | .beginning call => call.deeds
  | .staging _ call => call.deeds
  | .aborting _ call => call.deeds

namespace BatchUnit

/-- The deed of the call that a unit has under way. -/
def callDeeds (u : BatchUnit) : History :=
  match u.phase with
  | .sampling call => call.deeds
  | .resting _ => []
  | .executing e => e.deeds

/-- The deeds of a stage of a unit. -/
def deeds (u : BatchUnit) (settings : PoolSettings) (site : Site) : History :=
  u.callDeeds ++
    match (u.advance settings site).1 with
    | .running _ | .turnedAway _ => []
    | .finished r => [.settled u.bucket r]
    | .failed _ => [.lost u.bucket]

end BatchUnit

/-- The deed of a source that has been asked to go on. -/
def Pulled.deeds : Pulled → History
  | .bucket b => [.taken b]
  | _ => []

namespace Pool

/-- The deeds of a move. -/
def deeds (p : Pool) (site : Site) : Move → History
  | .source => if p.takesIn then (p.source.pull site).1.deeds else []
  | .unit position =>
    match p.line[position]? with
    | none => []
    | some a =>
      if hasTurn site a || awaitsWorker site a then a.task.deeds p.settings site else []
  | .round | .wait _ => []

/-- The history of a pool that is played. -/
def history (policy : Policy) (fuel : Nat) (p : Pool) (site : Site) : History :=
  match fuel with
  | 0 => []
  | fuel + 1 =>
    if p.isOver then []
    else
      match policy p site with
      | none => []
      | some m => p.deeds site m ++ history policy fuel (p.move site m).1 (p.move site m).2

/-- What holds of a pool, a site and what has been done holds on after any moves, if it is kept by
each. -/
theorem play_induction {motive : Pool → Site → History → Prop}
    (step : ∀ p site ds m, motive p site ds →
      motive (p.move site m).1 (p.move site m).2 (ds ++ p.deeds site m))
    (policy : Policy) (fuel : Nat) {p : Pool} {site : Site} {ds : History}
    (h : motive p site ds) :
    motive (p.play policy fuel site).1 (p.play policy fuel site).2
      (ds ++ p.history policy fuel site) := by
  induction fuel generalizing p site ds with
  | zero => simpa [play, history] using h
  | succ fuel ih =>
    by_cases hover : p.isOver
    · simpa [play, history, hover] using h
    · cases hmove : policy p site with
      | none => simpa [play, history, hover, hmove] using h
      | some m =>
        have next := ih (step p site ds m h)
        rw [List.append_assoc] at next
        simpa [play, history, hover, hmove] using next

/-! ## Moves -/

/-- Pools that differ in nothing of account: only in who stands where in line, in the counts of
waits and of units at once, and in when progress was reported. -/
structure Alike (p q : Pool) : Prop where
  settings : q.settings = p.settings
  source : q.source = p.source
  units : q.units.Perm p.units
  fatal : q.fatal = p.fatal
  drained : q.drained = p.drained
  results : q.results = p.results
  buckets : q.totals.buckets = p.totals.buckets
  records : q.totals.records = p.totals.records
  deleted : q.totals.deleted = p.totals.deleted
  failedBuckets : q.totals.failedBuckets = p.totals.failedBuckets

theorem Alike.refl (p : Pool) : p.Alike p :=
  ⟨rfl, rfl, List.Perm.refl _, rfl, rfl, rfl, rfl, rfl, rfl, rfl⟩

theorem Alike.trans {p q r : Pool} (h : p.Alike q) (h' : q.Alike r) : p.Alike r :=
  ⟨h'.settings.trans h.settings, h'.source.trans h.source, h'.units.trans h.units,
    h'.fatal.trans h.fatal, h'.drained.trans h.drained, h'.results.trans h.results,
    h'.buckets.trans h.buckets, h'.records.trans h.records, h'.deleted.trans h.deleted,
    h'.failedBuckets.trans h.failedBuckets⟩

end Pool

/-- The store and the gate of a site have not been touched. -/
structure Site.Kept (site site' : Site) : Prop where
  store : site'.store = site.store
  gate : site'.gate = site.gate

theorem Site.Kept.trans {a b c : Site} (h : a.Kept b) (h' : b.Kept c) : a.Kept c :=
  ⟨h'.store.trans h.store, h'.gate.trans h.gate⟩

namespace Pool

/-- The pool when its source has gone on. -/
def afterPull (p : Pool) (source : BucketSource) : Pulled → Pool
  | .taken | .later _ => { p with source }
  | .bucket b => { p with source }.takeIn b
  | .ended => { p with source, drained := true }
  | .failed e => { p with source, fatal := some (.source e) }

/-- The pool when the unit at a position has gone on, which then stands last. -/
def afterTurn (p : Pool) (position : Nat) (b : Bucket) : BatchUnit.Progress → Pool
  | .running u | .turnedAway u => { p with line := Line.join (p.line.eraseIdx position) u }
  | .finished r => (p.dropUnit position).note r
  | .failed e =>
    { p.dropUnit position with fatal := some (p.fatal.getD (.telemetry b.ordinal e)) }

/-- **What a move can come to.**  It does nothing of account, or the source goes on, or the unit at
a position does. -/
inductive MoveStep (p : Pool) (site : Site) : History → Pool → Site → Prop where
  | quiet {p' : Pool} {site' : Site} (alike : p.Alike p') (kept : site.Kept site') :
      MoveStep p site [] p' site'
  | pulled {p' : Pool} {site' : Site} (takesIn : p.takesIn = true)
      (alike : (p.afterPull (p.source.pull site).2.1 (p.source.pull site).1).Alike p')
      (kept : (p.source.pull site).2.2.Kept site') :
      MoveStep p site (p.source.pull site).1.deeds p' site'
  | advanced {p' : Pool} {site' : Site} {position : Nat} {a : Attended BatchUnit}
      (place : p.line[position]? = some a)
      (alike : (p.afterTurn position a.task.bucket (a.task.advance p.settings site).1).Alike p')
      (kept : (a.task.advance p.settings site).2.Kept site') :
      MoveStep p site (a.task.deeds p.settings site) p' site'

end Pool

theorem Line.tasks_put_perm {τ : Type} {line : Line τ} {position : Nat} {a : Attended τ}
    (h : position < line.length) (b : Attended τ) (same : b.task = a.task) :
    (line.put position b).tasks.Perm (Line.join (line.eraseIdx position) a.task).tasks := by
  rw [Line.tasks_join, ← same]
  unfold Line.put
  split
  · have placed := (List.set_perm_cons_eraseIdx h b).map (·.task)
    exact placed.trans (List.perm_append_singleton _ _).symm
  · simp only [Line.tasks, List.map_append, List.map_cons, List.map_nil]
    exact List.Perm.refl _

namespace Pool

/-- The unit at a position and the others. -/
theorem parted_of_place {p : Pool} {position : Nat} {a : Attended BatchUnit}
    (place : p.line[position]? = some a) :
    p.units.Perm (a.task :: Line.tasks (p.line.eraseIdx position)) := by
  obtain ⟨inside, found⟩ := List.getElem?_eq_some_iff.mp place
  have erased := (List.getElem_cons_eraseIdx_perm inside).map (·.task)
  rw [found] at erased
  exact erased.symm

theorem alike_beginRound (p : Pool) (site : Site) : p.Alike (p.beginRound site).1 :=
  { Alike.refl p with units := Line.tasks_nextRound_perm p.line }

theorem alike_closeRound (p : Pool) (site : Site) : p.Alike (p.closeRound site).1 := by
  unfold closeRound
  split
  · exact alike_beginRound p site
  · exact .refl p

theorem kept_closeRound (p : Pool) (site : Site) : site.Kept (p.closeRound site).2 := by
  unfold closeRound
  split
  · exact ⟨rfl, rfl⟩
  · exact ⟨rfl, rfl⟩

/-- The report of progress and the end of the round that follow on the end of a unit. -/
theorem alike_wrapUp (p : Pool) (site : Site) :
    p.Alike ((p.reportProgress site).1.closeRound (p.reportProgress site).2).1 := by
  refine Alike.trans ?_ (alike_closeRound _ _)
  unfold reportProgress
  split
  · exact { Alike.refl p with }
  · exact .refl p

theorem kept_wrapUp (p : Pool) (site : Site) :
    site.Kept ((p.reportProgress site).1.closeRound (p.reportProgress site).2).2 := by
  refine Site.Kept.trans ?_ (kept_closeRound _ _)
  unfold reportProgress
  split
  · exact ⟨rfl, rfl⟩
  · exact ⟨rfl, rfl⟩

theorem alike_noteError (p : Pool) (e : PoolError) (site : Site) :
    ({ p with fatal := some (p.fatal.getD e) }).Alike (p.noteError e site).1 := by
  unfold noteError
  split
  · next hnone => exact { Alike.refl p with fatal := by simp [hnone] }
  · next first hsome => exact { Alike.refl p with fatal := by simp [hsome] }

theorem kept_noteError (p : Pool) (e : PoolError) (site : Site) :
    site.Kept (p.noteError e site).2 := by
  unfold noteError
  split
  · exact ⟨rfl, rfl⟩
  · exact ⟨rfl, rfl⟩

theorem alike_putUnit {p : Pool} {position : Nat} {a : Attended BatchUnit}
    (h : p.line[position]? = some a) (u : BatchUnit) (site : Site) :
    ({ p with line := Line.join (p.line.eraseIdx position) u }).Alike
      (p.putUnit position u site) := by
  obtain ⟨inside, -⟩ := List.getElem?_eq_some_iff.mp h
  exact { Alike.refl p with units := Line.tasks_put_perm inside _ rfl }

/-- The source goes on, if another bucket may be taken in. -/
theorem alike_moveSource {p : Pool} (takesIn : p.takesIn = true) (site : Site) :
    (p.afterPull (p.source.pull site).2.1 (p.source.pull site).1).Alike (p.moveSource site).1 ∧
      (p.source.pull site).2.2.Kept (p.moveSource site).2 := by
  unfold moveSource
  rw [if_pos takesIn]
  generalize p.source.pull site = r
  obtain ⟨answer, source, site'⟩ := r
  cases answer with
  | taken => exact ⟨.refl _, rfl, rfl⟩
  | later time => exact ⟨.refl _, rfl, rfl⟩
  | bucket b => exact ⟨alike_closeRound _ _, kept_closeRound _ _⟩
  | ended => exact ⟨alike_closeRound _ _, kept_closeRound _ _⟩
  | failed e => exact ⟨alike_closeRound _ _, kept_closeRound _ _⟩

/-- The unit at a position goes on, if it has its turn. -/
theorem alike_moveUnit {p : Pool} {site : Site} {position : Nat} {a : Attended BatchUnit}
    (place : p.line[position]? = some a) (turn : (hasTurn site a || awaitsWorker site a) = true) :
    (p.afterTurn position a.task.bucket (a.task.advance p.settings site).1).Alike
        (p.moveUnit position site).1 ∧
      (a.task.advance p.settings site).2.Kept (p.moveUnit position site).2 := by
  simp only [moveUnit, place, if_pos turn]
  generalize a.task.advance p.settings site = r
  obtain ⟨progress, site'⟩ := r
  cases progress with
  | running u => exact ⟨alike_putUnit place u site', rfl, rfl⟩
  | turnedAway u => exact ⟨{ alike_putUnit place u site' with }, rfl, rfl⟩
  | finished r =>
    have reported : site'.Kept (site'.report (p.settings.announce r)) := ⟨rfl, rfl⟩
    exact ⟨alike_wrapUp _ _, reported.trans (kept_wrapUp _ _)⟩
  | failed e =>
    exact ⟨(alike_noteError _ _ _).trans (alike_wrapUp _ _),
      (kept_noteError _ _ _).trans (kept_wrapUp _ _)⟩

/-- Every move comes to one of the three. -/
theorem move_cases (p : Pool) (site : Site) (m : Move) :
    MoveStep p site (p.deeds site m) (p.move site m).1 (p.move site m).2 := by
  have idle : MoveStep p site [] p site := .quiet (.refl p) ⟨rfl, rfl⟩
  cases m with
  | source =>
    unfold deeds move
    by_cases takesIn : p.takesIn = true
    · rw [if_pos takesIn]
      obtain ⟨alike, kept⟩ := alike_moveSource takesIn site
      exact .pulled takesIn alike kept
    · rw [if_neg takesIn, moveSource, if_neg takesIn]
      exact idle
  | unit position =>
    simp only [deeds, move]
    cases place : p.line[position]? with
    | none =>
      simp only [moveUnit, place]
      exact idle
    | some a =>
      simp only
      by_cases turn : (hasTurn site a || awaitsWorker site a) = true
      · rw [if_pos turn]
        obtain ⟨alike, kept⟩ := alike_moveUnit place turn
        exact .advanced place alike kept
      · simp only [moveUnit, place, if_neg turn]
        exact idle
  | round => exact .quiet (alike_beginRound p site) ⟨rfl, rfl⟩
  | wait ms =>
    refine .quiet (.refl p) ?_
    simp only [move, Site.waitUntil]
    split
    · exact ⟨rfl, rfl⟩
    · exact ⟨rfl, rfl⟩

end Pool

/-! ## Calls apart -/

theorem Call.deeds_cases {α : Type} (c : Call α) :
    c.deeds = [] ∨ ∃ kind, c.deeds = [.called kind] := by
  unfold deeds
  split
  · next kind _ _ => exact .inr ⟨kind, rfl⟩
  · exact .inl rfl

theorem BatchUnit.callDeeds_cases (u : BatchUnit) :
    u.callDeeds = [] ∨ ∃ kind, u.callDeeds = [.called kind] := by
  unfold callDeeds
  split
  · exact Call.deeds_cases _
  · exact .inl rfl
  · next e _ =>
    unfold Execution.deeds
    split
    · exact Call.deeds_cases _
    · exact Call.deeds_cases _
    · exact Call.deeds_cases _
    · exact Call.deeds_cases _

/-- The call that a unit has under way is the only thing that does not count in the books. -/
theorem BatchUnit.views_callDeeds (u : BatchUnit) :
    u.callDeeds.taken = [] ∧ u.callDeeds.settled = [] ∧ u.callDeeds.lost = [] := by
  obtain h | ⟨kind, h⟩ := u.callDeeds_cases
  · simp [h, History.taken, History.settled, History.lost]
  · simp [h, History.taken, History.settled, History.lost]

/-! ## Books -/

namespace Pool

/-- The books of a pool tell what its history tells. -/
structure Books (p : Pool) (ds : History) : Prop where
  results : p.results = ds.results.reverse
  buckets : p.totals.buckets = ds.taken.length
  records : p.totals.records = (ds.taken.map Bucket.size).sum
  deleted : p.totals.deleted = (ds.results.map (·.deleted)).sum
  failedBuckets : p.totals.failedBuckets = ds.failed.length
  lost : p.fatal = none → ds.lost = []

theorem books_start (settings : PoolSettings) (source : BucketSource) (site : Site) :
    Books (start settings source site) [] :=
  ⟨rfl, rfl, rfl, rfl, rfl, fun _ => rfl⟩

section Books

variable {p q : Pool} {ds more : History}

theorem Books.of_alike (h : p.Books ds) (alike : p.Alike q) : q.Books ds :=
  ⟨alike.results.trans h.results, alike.buckets.trans h.buckets, alike.records.trans h.records,
    alike.deleted.trans h.deleted, alike.failedBuckets.trans h.failedBuckets,
    fun hnone => h.lost (alike.fatal.symm.trans hnone)⟩

/-- Nothing has been taken or settled, and the pool still shows what it showed. -/
theorem Books.of_same (h : p.Books ds) (htaken : more.taken = []) (hsettled : more.settled = [])
    (results : q.results = p.results) (totals : q.totals = p.totals)
    (fatal : q.fatal = none → p.fatal = none ∧ more.lost = []) : q.Books (ds ++ more) := by
  have hresults : more.results = [] := by rw [History.results, hsettled]; rfl
  have hfailed : more.failed = [] := by rw [History.failed, hsettled]; rfl
  constructor
  · rw [results, h.results, History.results_append, hresults, List.append_nil]
  · rw [totals, h.buckets, History.taken_append, htaken, List.append_nil]
  · rw [totals, h.records, History.taken_append, htaken, List.append_nil]
  · rw [totals, h.deleted, History.results_append, hresults, List.append_nil]
  · rw [totals, h.failedBuckets, History.failed_append, hfailed, List.append_nil]
  · intro hnone
    obtain ⟨earlier, hlost⟩ := fatal hnone
    rw [History.lost_append, h.lost earlier, hlost, List.append_nil]

theorem Books.tookIn (h : p.Books ds) (b : Bucket) : (p.takeIn b).Books (ds ++ [.taken b]) := by
  constructor
  · simpa [takeIn] using h.results
  · simp [takeIn, h.buckets]
  · simp [takeIn, h.records]
  · simpa [takeIn] using h.deleted
  · simpa [takeIn] using h.failedBuckets
  · simpa [takeIn] using h.lost

theorem Books.pulled (h : p.Books ds) (source : BucketSource) (answer : Pulled) :
    (p.afterPull source answer).Books (ds ++ answer.deeds) := by
  cases answer with
  | taken => exact h.of_same rfl rfl rfl rfl fun hnone => ⟨hnone, rfl⟩
  | later time => exact h.of_same rfl rfl rfl rfl fun hnone => ⟨hnone, rfl⟩
  | bucket b =>
    have moved : ({ p with source }).Books ds :=
      ⟨h.results, h.buckets, h.records, h.deleted, h.failedBuckets, h.lost⟩
    exact moved.tookIn b
  | ended => exact h.of_same rfl rfl rfl rfl fun hnone => ⟨hnone, rfl⟩
  | failed e => exact h.of_same rfl rfl rfl rfl fun hnone => by cases hnone

theorem Books.noted (h : p.Books ds) (b : Bucket) (r : ExecutionResult) :
    (p.note r).Books (ds ++ [.settled b r]) := by
  constructor
  · simp [note, h.results]
  · simpa [note] using h.buckets
  · simpa [note] using h.records
  · simp [note, h.deleted]
  · rw [History.failed_append, List.length_append, ← h.failedBuckets, History.failed_settled]
    unfold note
    cases r.isOk with
    | true => rfl
    | false => rfl
  · simpa [note] using h.lost

theorem Books.advanced (h : p.Books ds) (position : Nat) (a : Attended BatchUnit) (site : Site) :
    (p.afterTurn position a.task.bucket (a.task.advance p.settings site).1).Books
      (ds ++ a.task.deeds p.settings site) := by
  obtain ⟨htaken, hsettled, hlost⟩ := a.task.views_callDeeds
  have called : (p.dropUnit position).Books (ds ++ a.task.callDeeds) :=
    h.of_same htaken hsettled rfl rfl fun hnone => ⟨hnone, hlost⟩
  unfold BatchUnit.deeds
  rw [← List.append_assoc]
  cases (a.task.advance p.settings site).1 with
  | running u => exact called.of_same rfl rfl rfl rfl fun hnone => ⟨hnone, rfl⟩
  | turnedAway u => exact called.of_same rfl rfl rfl rfl fun hnone => ⟨hnone, rfl⟩
  | finished r => exact called.noted a.task.bucket r
  | failed e => exact called.of_same rfl rfl rfl rfl fun hnone => by cases hnone

/-- **The books agree with the history**, after any moves. -/
theorem books_play (policy : Policy) (fuel : Nat) (site : Site) (h : p.Books ds) :
    (p.play policy fuel site).1.Books (ds ++ p.history policy fuel site) := by
  refine play_induction (motive := fun p _ ds => p.Books ds) ?_ policy fuel h
  intro p site ds m hbooks
  have step := move_cases p site m
  generalize p.deeds site m = more at step
  generalize p.move site m = r at step
  obtain ⟨p', site'⟩ := r
  cases step with
  | quiet alike kept => simpa using hbooks.of_alike alike
  | pulled _ alike kept => exact (hbooks.pulled _ _).of_alike alike
  | advanced _ alike kept => exact (hbooks.advanced _ _ _).of_alike alike

end Books

end Pool

namespace Plan

/-! ## Purges -/

/-- The call with which a plan is taken up. -/
def openingDeeds (plan : Plan) : History :=
  match plan.fault? with
  | some _ => []
  | none => if plan.bucketSize = 0 then [] else [.called .bucketRows]

/-- The call with which a purge is concluded. -/
def closingDeeds (p : Pool) : History :=
  if p.isOver then
    match p.verdict with
    | .error _ => []
    | .ok _ => [.called .count]
  else []

/-- The history of a purge. -/
def history (policy : Pool.Policy) (fuel : Nat) (plan : Plan) (site : Site) : History :=
  plan.openingDeeds ++
    match plan.openPool site with
    | (.error _, _) => []
    | (.ok pool, site) =>
      pool.history policy fuel site ++ closingDeeds (pool.play policy fuel site).1

/-- The results that a purge has come to, in order. -/
def results (policy : Pool.Policy) (fuel : Nat) (plan : Plan) (site : Site) :
    List ExecutionResult :=
  match plan.openPool site with
  | (.error _, _) => []
  | (.ok pool, site) => (pool.play policy fuel site).1.results.reverse

/-- The calls at both ends of a purge do not count in the books. -/
theorem views_openingDeeds (plan : Plan) :
    plan.openingDeeds.taken = [] ∧ plan.openingDeeds.settled = [] ∧
      plan.openingDeeds.lost = [] := by
  unfold openingDeeds
  split
  · exact ⟨rfl, rfl, rfl⟩
  · split
    · exact ⟨rfl, rfl, rfl⟩
    · exact ⟨rfl, rfl, rfl⟩

theorem views_closingDeeds (p : Pool) :
    (closingDeeds p).taken = [] ∧ (closingDeeds p).settled = [] ∧ (closingDeeds p).lost = [] := by
  unfold closingDeeds
  split
  · split
    · exact ⟨rfl, rfl, rfl⟩
    · exact ⟨rfl, rfl, rfl⟩
  · exact ⟨rfl, rfl, rfl⟩

/-- A pool that could be opened has the rows that the plan asks for. -/
theorem openPool_eq_ok {plan : Plan} {site opened : Site} {pool : Pool}
    (h : plan.openPool site = (.ok pool, opened)) :
    plan.fault? = none ∧ ∃ rows,
      (site.report [plan.openingEvent site.cores]).call (.rows plan.target plan.query) =
        (.ok rows, opened) ∧
      pool = .start (plan.poolSettings site.cores) (.ofRows rows plan.bucketSize) opened := by
  unfold openPool at h
  split at h
  · cases h
  · next hfault =>
    refine ⟨hfault, ?_⟩
    unfold BucketSource.openQuery at h
    by_cases hsize : plan.query.bucketSize = 0
    · simp [hsize] at h
    · rw [if_neg hsize] at h
      generalize (site.report [plan.openingEvent site.cores]).call
        (.rows plan.target plan.query) = r at h
      obtain ⟨answer, reached⟩ := r
      cases answer with
      | error e => cases h
      | ok rows =>
        cases h
        exact ⟨rows, rfl, rfl⟩

/-- The account of a purge whose pool could be opened is that of the pool. -/
theorem views_history {plan : Plan} {site opened : Site} {pool : Pool}
    (hopen : plan.openPool site = (.ok pool, opened)) (policy : Pool.Policy) (fuel : Nat) :
    (plan.history policy fuel site).taken = (pool.history policy fuel opened).taken ∧
      (plan.history policy fuel site).settled = (pool.history policy fuel opened).settled ∧
      (plan.history policy fuel site).lost = (pool.history policy fuel opened).lost := by
  obtain ⟨htaken, hsettled, hlost⟩ := plan.views_openingDeeds
  obtain ⟨htaken', hsettled', hlost'⟩ := views_closingDeeds (pool.play policy fuel opened).1
  simp only [history, hopen, History.taken_append, History.settled_append, History.lost_append,
    htaken, hsettled, hlost, htaken', hsettled', hlost', List.nil_append, List.append_nil, and_self]

/-- Nothing is taken, settled or lost when no pool could be opened. -/
theorem views_history_of_error {plan : Plan} {site opened : Site} {e : PurgeError}
    (hopen : plan.openPool site = (.error e, opened)) (policy : Pool.Policy) (fuel : Nat) :
    (plan.history policy fuel site).taken = [] ∧ (plan.history policy fuel site).settled = [] ∧
      (plan.history policy fuel site).lost = [] := by
  simp only [history, hopen, List.append_nil]
  exact plan.views_openingDeeds

/-- The books of a pool that could be opened agree with its history from the beginning. -/
theorem books_of_openPool {plan : Plan} {site opened : Site} {pool : Pool}
    (hopen : plan.openPool site = (.ok pool, opened)) (policy : Pool.Policy) (fuel : Nat) :
    (pool.play policy fuel opened).1.Books (pool.history policy fuel opened) := by
  obtain ⟨-, rows, -, rfl⟩ := openPool_eq_ok hopen
  have books := Pool.books_play policy fuel opened
    (Pool.books_start (plan.poolSettings site.cores) (.ofRows rows plan.bucketSize) opened)
  rwa [List.nil_append] at books

/-- **The results of a purge are those of the buckets that it settled**, in the same order. -/
theorem results_eq (policy : Pool.Policy) (fuel : Nat) (plan : Plan) (site : Site) :
    plan.results policy fuel site = (plan.history policy fuel site).results := by
  unfold results
  split
  · next e opened hopen =>
    rw [History.results, (views_history_of_error hopen policy fuel).2.1]
    rfl
  · next pool opened hopen =>
    rw [(books_of_openPool hopen policy fuel).results, List.reverse_reverse, History.results,
      History.results, (views_history hopen policy fuel).2.1]

end Plan

end PacedPurge
