import PacedPurge.Proofs.Purge.Outcome

/-!
# The calls of a purge

Each call that a purge makes passes the gate, where the next disturbance of its kind befalls it.
The gate after a purge is therefore the gate before it, passed by the calls that the history tells,
in their order, and by no others (`Plan.gate_runWith`).  Whoever doubts the history can look at the
gate: the disturbances that were meant for calls of a kind are all left exactly if no such call was
made.

A purge asks for its rows and for a recount, and makes no other calls but those of units, each of
which has a bucket that was taken (`Plan.calls_history`).  While deletes are simulated, units that
follow their course make no calls that could remove anything (`BatchUnit.calls_of_simulated`).
-/

namespace PacedPurge

variable {α : Type}

namespace Gate

/-- The gate when calls of these kinds have passed. -/
def after (gate : Gate) (calls : List Method) : Gate :=
  calls.foldl (fun gate kind => (pass kind gate).2) gate

theorem after_append (gate : Gate) (calls more : List Method) :
    gate.after (calls ++ more) = (gate.after calls).after more :=
  List.foldl_append

/-- A call leaves the disturbances of other kinds as they are. -/
theorem filter_pass {kind other : Method} (hne : kind ≠ other) (gate : Gate) :
    (pass kind gate).2.filter (·.1 = other) = gate.filter (·.1 = other) := by
  induction gate with
  | nil => rfl
  | cons entry rest ih =>
    obtain ⟨m, d⟩ := entry
    unfold pass
    split
    · next heq =>
      have hskip : m ≠ other := heq ▸ hne
      simp [hskip]
    · simp only [List.filter_cons, ih]

/-- The disturbances of a kind of which there was no call are all left. -/
theorem filter_after {calls : List Method} {kind : Method} (hnone : kind ∉ calls) (gate : Gate) :
    (gate.after calls).filter (·.1 = kind) = gate.filter (·.1 = kind) := by
  induction calls generalizing gate with
  | nil => rfl
  | cons first rest ih =>
    rw [List.mem_cons, not_or] at hnone
    exact (ih hnone.2 _).trans (filter_pass (Ne.symm hnone.1) gate)

end Gate

/-! ## Units at the gate -/

theorem Site.gate_leave (site : Site) (r : Request α) : (site.leave r).2.gate = site.gate := by
  unfold leave
  simp only
  split
  · rfl
  · rfl

theorem Call.gate_advance (c : Call α) (site : Site) :
    (c.advance site).2.gate = site.gate.after c.deeds.calls := by
  obtain ⟨request, stage⟩ := c
  cases stage with
  | arriving =>
    have passed : (arrive ⟨request, .arriving⟩ site).2.gate =
        (site.gate.passRequest request).2 := by
      unfold arrive
      split
      · next heq => rw [heq]
      · next heq => rw [heq]
      · next heq => rw [heq]
    simp only [advance, passed, deeds, Gate.passRequest]
    cases request.method? with
    | none => rfl
    | some kind => rfl
  | held time error =>
    simp only [advance]
    split
    · rfl
    · rfl
  | knocking =>
    simp only [advance, knock]
    split
    · rfl
    · rfl
  | ticketed =>
    simp only [advance]
    split
    · rfl
    · rfl
  | inside time =>
    cases time with
    | none => exact site.gate_leave request
    | some time =>
      simp only [advance]
      split
      · exact site.endWait.gate_leave request
      · rfl

namespace Execution

theorem gate_settle (e : Execution) (outcome : Except StoreError Nat) (site : Site) :
    (e.settle outcome site).2.gate = site.gate := by
  cases outcome with
  | ok n => rfl
  | error error =>
    simp only [settle]
    split
    · rfl
    · rfl

theorem gate_advance (e : Execution) (site : Site) :
    (e.advance site).2.gate = site.gate.after e.deeds.calls := by
  obtain ⟨task, attempts, phase⟩ := e
  cases phase with
  | deleting call =>
    have passed := call.gate_advance site
    simp only [advance, deeds]
    generalize call.advance site = r at passed
    obtain ⟨outcome, reached⟩ := r
    cases outcome with
    | waiting call' => exact passed
    | answered answer => exact (gate_settle _ answer reached).trans passed
  | beginning call =>
    have passed := call.gate_advance site
    simp only [advance, deeds]
    generalize call.advance site = r at passed
    obtain ⟨outcome, reached⟩ := r
    cases outcome with
    | waiting call' => exact passed
    | answered answer =>
      cases answer with
      | error error => exact (gate_settle _ (.error error) reached).trans passed
      | ok txn => exact passed
  | staging txn call =>
    have passed := call.gate_advance site
    simp only [advance, deeds]
    generalize call.advance site = r at passed
    obtain ⟨outcome, reached⟩ := r
    cases outcome with
    | waiting call' => exact passed
    | answered answer =>
      cases answer with
      | error error => exact passed
      | ok counted => exact passed
  | aborting result call =>
    have passed := call.gate_advance site
    simp only [advance, deeds]
    generalize call.advance site = r at passed
    obtain ⟨outcome, reached⟩ := r
    cases outcome with
    | waiting call' => exact passed
    | answered answer => exact (gate_settle _ result _).trans passed

end Execution

namespace BatchUnit

theorem gate_advance (u : BatchUnit) (settings : PoolSettings) (site : Site) :
    (u.advance settings site).2.gate = site.gate.after u.callDeeds.calls := by
  obtain ⟨bucket, phase⟩ := u
  cases phase with
  | sampling call =>
    have passed := call.gate_advance site
    simp only [advance, callDeeds]
    generalize call.advance site = r at passed
    obtain ⟨outcome, reached⟩ := r
    cases outcome with
    | waiting call' => exact passed
    | answered answer =>
      simp only
      cases countersOf answer with
      | error e => exact passed
      | ok c =>
        simp only [judge]
        split
        · exact passed
        · exact passed
  | resting time =>
    simp only [advance]
    split
    · rfl
    · rfl
  | executing e =>
    have passed := e.gate_advance site
    simp only [advance, callDeeds]
    generalize e.advance site = r at passed
    obtain ⟨progress, reached⟩ := r
    cases progress with
    | running e' => exact passed
    | finished r => exact passed

theorem calls_deeds (u : BatchUnit) (settings : PoolSettings) (site : Site) :
    (u.deeds settings site).calls = u.callDeeds.calls := by
  unfold deeds
  rw [History.calls_append]
  cases (u.advance settings site).1 with
  | running u' => exact List.append_nil _
  | turnedAway u' => exact List.append_nil _
  | finished r => exact List.append_nil _
  | failed e => exact List.append_nil _

end BatchUnit

/-! ## Pools at the gate -/

theorem RowSource.gate_poll (s : RowSource) (site : Site) : (s.poll site).2.2.gate = site.gate := by
  cases s with
  | known arrivals =>
    simp only [poll]
    split
    · rfl
    · split
      · rfl
      · rfl
  | paged scan buffered =>
    cases buffered with
    | cons row rest => rfl
    | nil =>
      simp only [poll]
      split
      · rfl
      · split
        · exact Site.gate_leave _ (.page scan)
        · rfl

theorem BucketSource.gate_pull (s : BucketSource) (site : Site) :
    (s.pull site).2.2.gate = site.gate := by
  rw [(rows_pull s site).2]
  split
  · rfl
  · exact s.rows.gate_poll site

/-- What the source does makes no call. -/
theorem Pulled.calls_deeds (answer : Pulled) : answer.deeds.calls = [] := by
  cases answer with
  | taken => rfl
  | later time => rfl
  | bucket b => rfl
  | ended => rfl
  | failed e => rfl

namespace Pool

/-- The calls of a pool are those that have passed the gate. -/
theorem gate_play (policy : Policy) (fuel : Nat) (p : Pool) (site : Site) :
    (p.play policy fuel site).2.gate = site.gate.after (p.history policy fuel site).calls := by
  have start : site.gate = site.gate.after (History.calls []) := rfl
  refine play_induction (motive := fun _ reached ds => reached.gate = site.gate.after ds.calls)
    ?_ policy fuel start
  intro p reached ds m passed
  have step := move_cases p reached m
  generalize p.deeds reached m = more at step
  generalize p.move reached m = r at step
  obtain ⟨p', reached'⟩ := r
  rw [History.calls_append, Gate.after_append, ← passed]
  cases step with
  | quiet alike kept => exact kept.gate
  | pulled takesIn alike kept =>
    rw [Pulled.calls_deeds]
    exact kept.gate.trans (BucketSource.gate_pull _ reached)
  | advanced place alike kept =>
    rw [BatchUnit.calls_deeds]
    exact kept.gate.trans (BatchUnit.gate_advance _ p.settings reached)

end Pool

/-! ## Purges at the gate -/

theorem Site.gate_sitOut (site : Site) (time : Nat) : (site.sitOut time).gate = site.gate := by
  simp only [sitOut, await, waitUntil]
  split
  · split
    · rfl
    · rfl
  · split
    · rfl
    · rfl

theorem Site.gate_serve (site : Site) (r : Request α) : (site.serve r).2.gate = site.gate := by
  unfold serve
  split
  · next entered heq =>
    rw [gate_leave]
    exact congrArg (·.2.gate) heq.symm
  · next time entered heq =>
    rw [gate_leave, gate_sitOut]
    exact congrArg (·.2.gate) heq.symm

theorem Site.gate_call (site : Site) (r : Request α) :
    (site.call r).2.gate = (site.gate.passRequest r).2 := by
  have held : ∀ (start : Site) (d : Disturbance), (start.heldBy d).gate = start.gate := by
    intro start d
    unfold heldBy
    split
    · rfl
    · exact gate_sitOut _ _
  unfold call
  split
  · next heq => rw [gate_serve, heq]
  · next d gate heq =>
    simp only
    split
    · rw [held, heq]
    · rw [gate_serve, held, heq]

namespace Plan

theorem gate_openPool (plan : Plan) (site : Site) :
    (plan.openPool site).2.gate = site.gate.after plan.openingDeeds.calls := by
  unfold openPool openingDeeds
  cases plan.fault? with
  | some fault => rfl
  | none =>
    simp only [BucketSource.openQuery]
    by_cases hsize : plan.bucketSize = 0
    · have query : plan.query.bucketSize = 0 := hsize
      rw [if_pos query, if_pos hsize]
      rfl
    · have query : ¬plan.query.bucketSize = 0 := hsize
      rw [if_neg query, if_neg hsize]
      have passed := Site.gate_call (site.report [plan.openingEvent site.cores])
        (.rows plan.target plan.query)
      generalize (site.report [plan.openingEvent site.cores]).call
        (.rows plan.target plan.query) = r
        at passed
      obtain ⟨answer, reached⟩ := r
      cases answer with
      | error e => exact passed
      | ok rows => exact passed

theorem gate_conclude (plan : Plan) (pool : Pool) (site : Site) :
    (plan.conclude pool site).2.gate =
      match pool.verdict with
      | .error _ => site.gate
      | .ok _ => (Gate.pass .count site.gate).2 := by
  unfold conclude
  cases pool.verdict with
  | error e => rfl
  | ok totals =>
    simp only
    have passed := Site.gate_call
      (if totals.buckets = 0 then site.report [.nothingMatched plan.target] else site)
      (.count plan.target plan.filter plan.collation)
    have same : (if totals.buckets = 0 then site.report [.nothingMatched plan.target]
        else site).gate = site.gate := by
      split
      · rfl
      · rfl
    rw [same] at passed
    unfold Verification.take
    generalize (if totals.buckets = 0 then site.report [.nothingMatched plan.target]
      else site).call (.count plan.target plan.filter plan.collation) = r at passed
    obtain ⟨answer, reached⟩ := r
    cases answer with
    | error e => exact passed
    | ok n => exact passed

/-- **The gate after a purge** has been passed by the calls of its history, and by no others. -/
theorem gate_runWith (policy : Pool.Policy) (fuel : Nat) (plan : Plan) (site : Site) :
    (plan.runWith policy fuel site).2.gate =
      site.gate.after (plan.history policy fuel site).calls := by
  have opened := plan.gate_openPool site
  unfold runWith history
  rw [History.calls_append, Gate.after_append, ← opened]
  generalize plan.openPool site = r
  obtain ⟨answer, reached⟩ := r
  cases answer with
  | error e => rfl
  | ok pool =>
    simp only
    rw [History.calls_append, Gate.after_append, ← Pool.gate_play]
    unfold closingDeeds
    split
    · rw [gate_conclude]
      cases (pool.play policy fuel reached).1.verdict with
      | error e => rfl
      | ok totals => rfl
    · rfl

end Plan

/-! ## Who makes the calls -/

namespace Pool

variable {settings : PoolSettings} {before : Holdings} {first : Supply} {size : Nat}
  {found : List Candidate} {p : Pool} {site : Site}

/-- The calls of a pool are made by units that follow their course, with buckets that the pool has
taken. -/
theorem calls_play (outset : Outset settings before first size found)
    (conduct : Conduct settings before first size found.length p site [])
    (policy : Policy) (fuel : Nat) :
    ∀ kind ∈ (p.history policy fuel site).calls, ∃ u : BatchUnit, u.Follows settings ∧
      u.bucket ∈ (p.history policy fuel site).taken ∧ kind ∈ u.callDeeds.calls := by
  have start : Conduct settings before first size found.length p site [] ∧
      ∀ kind ∈ History.calls [], ∃ u : BatchUnit, u.Follows settings ∧
        u.bucket ∈ History.taken [] ∧ kind ∈ u.callDeeds.calls :=
    ⟨conduct, fun kind hkind => by cases hkind⟩
  refine (play_induction (motive := fun p site ds =>
    Conduct settings before first size found.length p site ds ∧
      ∀ kind ∈ ds.calls, ∃ u : BatchUnit, u.Follows settings ∧ u.bucket ∈ ds.taken ∧
        kind ∈ u.callDeeds.calls) ?_ policy fuel start).2
  intro p site ds m ⟨hconduct, hmade⟩
  refine ⟨hconduct.moved outset m, fun kind hkind => ?_⟩
  rw [History.calls_append, List.mem_append] at hkind
  rw [History.taken_append]
  obtain hold | hnew := hkind
  · obtain ⟨u, follows, taken, made⟩ := hmade kind hold
    exact ⟨u, follows, List.mem_append_left _ taken, made⟩
  · have step := move_cases p site m
    generalize p.deeds site m = more at step hnew
    generalize p.move site m = r at step
    obtain ⟨p', site'⟩ := r
    cases step with
    | quiet alike kept => cases hnew
    | pulled takesIn alike kept =>
      rw [Pulled.calls_deeds] at hnew
      cases hnew
    | @advanced _ _ _ a place alike kept =>
      rw [BatchUnit.calls_deeds] at hnew
      obtain ⟨-, -, taken⟩ := hconduct.ids_of_unit outset place
      exact ⟨a.task, hconduct.follows _ (List.mem_map_of_mem (List.mem_of_getElem? place)),
        List.mem_append_left _ taken, hnew⟩

end Pool

/-- **Who makes the calls of a purge.**  It asks for the rows first and for a recount last.  All
other calls are made by units that follow their course, with buckets that were taken. -/
theorem Plan.calls_history (policy : Pool.Policy) (fuel : Nat) (plan : Plan) (site : Site) :
    ∀ kind ∈ (plan.history policy fuel site).calls, kind = .bucketRows ∨ kind = .count ∨
      ∃ u : BatchUnit, u.Follows (plan.poolSettings site.cores) ∧
        u.bucket ∈ (plan.history policy fuel site).taken ∧ kind ∈ u.callDeeds.calls := by
  have opening : ∀ kind ∈ plan.openingDeeds.calls, kind = .bucketRows := by
    unfold openingDeeds
    cases plan.fault? with
    | some fault => exact fun kind hkind => by cases hkind
    | none =>
      simp only
      split
      · exact fun kind hkind => by cases hkind
      · exact fun kind hkind => List.mem_singleton.mp hkind
  have closing : ∀ pool : Pool, ∀ kind ∈ (closingDeeds pool).calls, kind = .count := by
    intro pool
    unfold closingDeeds
    split
    · cases pool.verdict with
      | error e => exact fun kind hkind => by cases hkind
      | ok totals => exact fun kind hkind => List.mem_singleton.mp hkind
    · exact fun kind hkind => by cases hkind
  intro kind hkind
  generalize hopen : plan.openPool site = r
  obtain ⟨answer, opened⟩ := r
  simp only [history, hopen, History.calls_append, List.mem_append] at hkind
  obtain hfirst | hrest := hkind
  · exact .inl (opening kind hfirst)
  · cases answer with
    | error e => cases hrest
    | ok pool =>
      rw [History.calls_append, List.mem_append] at hrest
      obtain hplayed | hlast := hrest
      · obtain ⟨c, found, first, -, -, outset, conduct⟩ := conduct_openPool hopen
        rw [(views_history hopen policy fuel).1]
        exact .inr (.inr (Pool.calls_play outset conduct policy fuel kind hplayed))
      · exact .inr (.inl (closing _ kind hlast))

/-! ## Calls of simulated deletes -/

/-- The kinds of calls by which nothing can be removed, neither now nor later. -/
def Method.isHarmless : Method → Bool
  | .deleteIds | .commit => false
  | _ => true

theorem Call.harmless_deeds {c : Call α} (h : c.request.method?.all Method.isHarmless) :
    ∀ kind ∈ c.deeds.calls, kind.isHarmless := by
  intro kind hkind
  unfold deeds at hkind
  split at hkind
  · next made hmade =>
    rw [hmade] at h
    obtain rfl := List.mem_singleton.mp hkind
    exact h
  · cases hkind

/-- A unit that follows its course makes only harmless calls while deletes are simulated. -/
theorem BatchUnit.calls_of_simulated {settings : PoolSettings} {u : BatchUnit}
    (follows : u.Follows settings) (simulated : settings.session.simulate = true) :
    ∀ kind ∈ u.callDeeds.calls, kind.isHarmless := by
  obtain ⟨bucket, phase⟩ := u
  cases phase with
  | sampling call =>
    have hrequest : call.request = .status := follows
    exact Call.harmless_deeds (by rw [hrequest]; rfl)
  | resting time =>
    intro kind hkind
    cases hkind
  | executing e =>
    obtain ⟨htask, hphase⟩ := follows
    obtain ⟨task, attempts, phase⟩ := e
    simp only at htask
    subst htask
    cases phase with
    | deleting call =>
      have live : settings.session.simulate = false := hphase.1
      rw [simulated] at live
      cases live
    | beginning call => exact Call.harmless_deeds (by rw [hphase.2]; rfl)
    | staging txn call => exact Call.harmless_deeds (by rw [hphase.2.2]; rfl)
    | aborting result call =>
      obtain ⟨-, ⟨txn, hrequest⟩, -⟩ := hphase
      exact Call.harmless_deeds (by rw [hrequest]; rfl)

end PacedPurge
