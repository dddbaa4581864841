import PacedPurge.Proofs.Bucket.Agreement
import PacedPurge.Proofs.Purge.Calm

/-!
# Attempts at a bucket

An execution is asked to go on at some moments (`Execution.stages`), until it has a result.  The
moments may be any: between two of them other clients may have used the store, and calls may have
been told to fail.  So every call may be answered in every way that the store and the gate know.
When nobody else is about, they are the moments that the execution waits for (`runWithin_eq`).

The calls that have been answered are those of attempts (`Trial`), one after another: of deletes, or
of transactions that are begun, used and given up.  What a stage can come to is said once, by
`TrialStep`.  Each attempt but the last failed with a transient error and was followed by another
while retries were left, and the last one alone decides the result (`Execution.comes_of_trials`).
An execution that is not barred comes to its result within fifteen stages for each attempt.
-/

namespace PacedPurge

variable {α : Type}

/-! ## Exchanges -/

/-- A request that has been answered. -/
structure Exchange where
  {α : Type}
  request : Request α
  answer : Except StoreError α

/-- The kind of the request. -/
def Exchange.kind? (x : Exchange) : Option Method := x.request.method?

theorem Exchange.kinds_toList (x? : Option Exchange) :
    x?.toList.filterMap kind? = (x?.bind kind?).toList := by
  cases x? with
  | none => rfl
  | some x =>
    rw [Option.toList_some, List.filterMap_cons, Option.bind_some]
    cases x.kind? <;> rfl

/-- An attempt that has come to an outcome. -/
inductive Trial where
  /-- A delete was answered. -/
  | live (answer : Except StoreError Nat)
  /-- No transaction could be begun. -/
  | unbegun (error : StoreError)
  /-- A transaction was begun, the deletes in it were answered, and so was its abort. -/
  | simulated (txn : Transaction) (answer : Except StoreError (Nat × Transaction))
      (abort : Except StoreError Unit)

namespace Trial

/-- What the deletes came to; an abort has no part in it. -/
def outcome : Trial → Except StoreError Nat
  | live answer => answer
  | unbegun error => .error error
  | simulated _ answer _ => answer.map (·.1)

/-- Whether the attempt failed with an error that another attempt may not meet. -/
def isTransient (t : Trial) : Bool :=
  match t.outcome with
  | .ok _ => false
  | .error e => e.isTransient

/-- Whether the deletes were to be simulated. -/
def isSimulated : Trial → Bool
  | live _ => false
  | unbegun _ | simulated .. => true

/-- The transaction that is given up when the deletes in it have been answered. -/
def givenUp (txn : Transaction) : Except StoreError (Nat × Transaction) → Transaction
  | .ok (_, staged) => staged
  | .error _ => txn

/-- The requests of the attempt with their answers, in order. -/
def exchanges (task : Assignment) : Trial → List Exchange
  | live answer => [⟨.delete task.ns task.ids task.session.writeConcern, answer⟩]
  | unbegun error => [⟨.begin task.session.writeConcern, .error error⟩]
  | simulated txn answer abort =>
    [⟨.begin task.session.writeConcern, .ok txn⟩, ⟨.stage txn task.ns task.ids, answer⟩,
      ⟨.abort (givenUp txn answer), abort⟩]

/-- The kinds of the calls of the attempt. -/
def kinds : Trial → List Method
  | live _ => [.deleteIds]
  | unbegun _ => [.begin]
  | simulated .. => [.begin, .stagedDelete, .abort]

theorem kinds_eq (task : Assignment) (t : Trial) :
    (t.exchanges task).filterMap Exchange.kind? = t.kinds := by
  cases t <;> rfl

end Trial

namespace Assignment

/-- The kind of the call with which an attempt begins. -/
def opening (task : Assignment) : Method :=
  if task.session.simulate then .begin else .deleteIds

/-- The result when an attempt comes to an outcome and is the last one. -/
def conclude (task : Assignment) (attempts : UInt32) : Except StoreError Nat → ExecutionResult
  | .ok n => ⟨task.ordinal, n, none, attempts⟩
  | .error e => ⟨task.ordinal, 0, some e.message, attempts⟩

@[simp] theorem attempts_conclude (task : Assignment) (attempts : UInt32)
    (outcome : Except StoreError Nat) : (task.conclude attempts outcome).attempts = attempts := by
  cases outcome <;> rfl

end Assignment

/-- The attempt under way follows its assignment, and these requests of it have been answered. -/
inductive AttemptPhase.Underway (task : Assignment) : AttemptPhase → List Exchange → Prop where
  | deleting {call : Call Nat} (live : task.session.simulate = false)
      (request : call.request = .delete task.ns task.ids task.session.writeConcern) :
      Underway task (.deleting call) []
  | beginning {call : Call Transaction} (simulated : task.session.simulate = true)
      (request : call.request = .begin task.session.writeConcern) :
      Underway task (.beginning call) []
  | staging {txn : Transaction} {call : Call (Nat × Transaction)}
      (simulated : task.session.simulate = true)
      (request : call.request = .stage txn task.ns task.ids) :
      Underway task (.staging txn call) [⟨.begin task.session.writeConcern, .ok txn⟩]
  | aborting {txn : Transaction} {answer : Except StoreError (Nat × Transaction)}
      {call : Call Unit} (simulated : task.session.simulate = true)
      (request : call.request = .abort (Trial.givenUp txn answer)) :
      Underway task (.aborting (answer.map (·.1)) call)
        [⟨.begin task.session.writeConcern, .ok txn⟩, ⟨.stage txn task.ns task.ids, answer⟩]

/-! ## Calls -/

namespace Call

/-- The request and its answer, if the call is answered at this moment. -/
def exchange? (c : Call α) (moment : Site) : Option Exchange :=
  match (c.advance moment).1 with
  | .waiting _ => none
  | .answered answer => some ⟨c.request, answer⟩

/-- The kind of the call, if it has come to the gate. -/
def made (c : Call α) : List Method :=
  if c.stage = .arriving then [] else c.request.method?.toList

/-- When a call has gone on from where it was, it has come to the gate. -/
theorem made_append_deeds (c : Call α) : c.made ++ c.deeds.calls = c.request.method?.toList := by
  unfold made deeds
  by_cases arriving : c.stage = .arriving
  · rw [if_pos arriving, arriving]
    cases c.request.method? <;> rfl
  · rw [if_neg arriving]
    split
    · next arriving' _ => exact absurd arriving' arriving
    · exact List.append_nil _

theorem made_prefix (c : Call α) : c.made <+: c.request.method?.toList :=
  ⟨c.deeds.calls, c.made_append_deeds⟩

theorem made_of_nearer {c : Call α} {s : Stage} (nearer : c.stage.left < s.left) :
    c.made = c.request.method?.toList := by
  refine if_neg fun arriving => ?_
  rw [arriving] at nearer
  exact absurd nearer (Nat.not_lt.mpr s.left_le)

/-- **What a stage of a call comes to**, whatever answer it has.  The call stays where it is, for it
is barred; or it is nearer to its end; or it is answered. -/
inductive Pace (c : Call α) (site : Site) : Outcome α → Site → Prop where
  | stays (barred : site.Bars (c.hindrance? site)) (quiet : c.deeds = []) :
      Pace c site (.waiting c) site
  | nears {c' : Call α} {site' : Site} (same : c'.request = c.request)
      (nearer : c'.stage.left < c.stage.left) (calls : c.made ++ c.deeds.calls = c'.made)
      (trades : site.store.Trades site'.store (c.holding site.store) (c'.holding site.store)) :
      Pace c site (.waiting c') site'
  | answered {answer : Except StoreError α} {site' : Site}
      (trades : site.store.Trades site'.store (c.holding site.store) (fun _ => 0)) :
      Pace c site (.answered answer) site'

theorem pace_advance (c : Call α) (site : Site) :
    Pace c site (c.advance site).1 (c.advance site).2 := by
  have step := c.stride_advance site
  generalize c.advance site = r at step ⊢
  obtain ⟨outcome, site'⟩ := r
  cases step with
  | stays barred =>
    refine .stays barred ?_
    unfold deeds
    split
    · next arriving _ =>
      simp only [hindrance?, arriving] at barred
      exact absurd barred id
    · rfl
  | nears same nearer harmless trades =>
    refine .nears same nearer ?_ trades
    rw [made_append_deeds, made_of_nearer nearer, same]
  | turnedAway harmed outside kept =>
    refine .answered ?_
    simp only at kept
    rw [kept, holding_of_outside outside]
    exact .refl _ _
  | served inside left => exact .answered (trades_served inside left)

end Call

/-! ## Executions at some moments -/

namespace Execution

/-- The request under way and its answer, if it is answered at this moment. -/
def exchange? (e : Execution) (moment : Site) : Option Exchange :=
  match e.phase with
  | .deleting call => call.exchange? moment
  | .beginning call => call.exchange? moment
  | .staging _ call => call.exchange? moment
  | .aborting _ call => call.exchange? moment

/-- The kind of the call under way, if it has come to the gate. -/
def made (e : Execution) : List Method :=
  match e.phase with
  | .deleting call => call.made
  | .beginning call => call.made
  | .staging _ call => call.made
  | .aborting _ call => call.made

/-- The stages of an execution that is asked to go on at some moments, up to its result: the
execution as it is before, and the moment. -/
def stages (e : Execution) : List Site → List (Execution × Site)
  | [] => []
  | moment :: later =>
    (e, moment) ::
      match (e.advance moment).1 with
      | .running e' => e'.stages later
      | .finished _ => []

/-- What becomes of an execution that is asked to go on at some moments. -/
def goOn (e : Execution) : List Site → Progress
  | [] => .running e
  | moment :: later =>
    match (e.advance moment).1 with
    | .running e' => e'.goOn later
    | .finished r => .finished r

/-- The requests that are answered at some moments. -/
def exchanges (e : Execution) (moments : List Site) : List Exchange :=
  (e.stages moments).filterMap fun x => x.1.exchange? x.2

/-- The kinds of the calls that come to the gate at some moments. -/
def calls (e : Execution) (moments : List Site) : List Method :=
  (e.stages moments).flatMap fun x => x.1.deeds.calls

/-- At how many moments nothing bars the execution. -/
def strides (e : Execution) (moments : List Site) : Nat :=
  (e.stages moments).countP fun x => !decide (x.2.Bars (x.1.hindrance? x.2))

/-- The moments of an execution when nobody else is about, at most `fuel` stages. -/
def alone (fuel : Nat) (e : Execution) (site : Site) : List Site :=
  match fuel with
  | 0 => []
  | fuel + 1 =>
    let moment := site.waitOut (e.hindrance? site)
    moment ::
      match e.advance moment with
      | (.running e', site') => alone fuel e' site'
      | (.finished _, _) => []

/-- The result, if there is one. -/
def Progress.result? : Progress → Option ExecutionResult
  | .running _ => none
  | .finished r => some r

/-- An execution that nobody else interferes with is one at the moments that it waits for. -/
theorem runWithin_eq (fuel : Nat) (e : Execution) (site : Site) :
    (runWithin fuel e site).1 = (e.goOn (alone fuel e site)).result? := by
  induction fuel generalizing e site with
  | zero => rfl
  | succ fuel ih =>
    simp only [runWithin, alone, goOn]
    generalize e.advance (site.waitOut (e.hindrance? site)) = r
    obtain ⟨progress, site'⟩ := r
    cases progress with
    | running e' => exact ih e' site'
    | finished r => rfl

/-- **What a stage of an execution comes to**, by the requests of the attempt that have been
answered before it.  The execution stays where it is, for it is barred; or its attempt is nearer to
its end; or the attempt has failed, and another one is made; or the attempt decides the result. -/
inductive TrialStep (e : Execution) (part : List Exchange) (site : Site) :
    Option Exchange → Progress → Site → Prop where
  | stays (barred : site.Bars (e.hindrance? site)) (quiet : e.deeds = []) :
      TrialStep e part site none (.running e) site
  | nears {x? : Option Exchange} {e' : Execution} {site' : Site} (task : e'.task = e.task)
      (attempts : e'.attempts = e.attempts)
      (underway : e'.phase.Underway e.task (part ++ x?.toList)) (nearer : e'.left < e.left)
      (calls : e.made ++ e.deeds.calls = (x?.bind Exchange.kind?).toList ++ e'.made)
      (trades : site.store.Trades site'.store (e.holding site.store) (e'.holding site.store)) :
      TrialStep e part site x? (.running e') site'
  | retried {x : Exchange} {t : Trial} {site' : Site} (whole : part ++ [x] = t.exchanges e.task)
      (mode : t.isSimulated = e.task.session.simulate) (transient : t.isTransient = true)
      (allowed : e.attempts ≤ e.task.retries)
      (calls : e.made ++ e.deeds.calls = x.kind?.toList)
      (trades : site.store.Trades site'.store (e.holding site.store) (fun _ => 0)) :
      TrialStep e part site (some x) (.running e.again) site'
  | concluded {x : Exchange} {t : Trial} {site' : Site}
      (whole : part ++ [x] = t.exchanges e.task)
      (mode : t.isSimulated = e.task.session.simulate)
      (final : t.isTransient = true → ¬e.attempts ≤ e.task.retries)
      (calls : e.made ++ e.deeds.calls = x.kind?.toList)
      (trades : site.store.Trades site'.store (e.holding site.store) (fun _ => 0)) :
      TrialStep e part site (some x) (.finished (e.task.conclude e.attempts t.outcome)) site'

/-- A transient error is followed by another attempt while retries are left. -/
theorem settle_again {e : Execution} {error : StoreError} (transient : error.isTransient = true)
    (allowed : e.attempts ≤ e.task.retries) (site : Site) :
    e.settle (.error error) site = (.running e.again,
      site.report [.deleteRetried e.task.ordinal e.attempts.toNat error]) := by
  refine if_pos ?_
  rw [transient, decide_eq_true allowed, Bool.and_self]

/-- Any other error is the result. -/
theorem settle_final {e : Execution} {error : StoreError}
    (spent : ¬(error.isTransient = true ∧ e.attempts ≤ e.task.retries)) (site : Site) :
    e.settle (.error error) site = (.finished (e.task.conclude e.attempts (.error error)),
      site.report [.deleteFailed e.task.ordinal e.attempts.toNat error]) := by
  refine if_neg fun tried => spent ?_
  rw [Bool.and_eq_true, decide_eq_true_eq] at tried
  exact tried

/-- The conclusion from an attempt that has come to its outcome. -/
theorem trialStep_settle {e : Execution} {part : List Exchange} {site site' : Site} {x : Exchange}
    {outcome : Except StoreError Nat} (t : Trial) (came : outcome = t.outcome)
    (whole : part ++ [x] = t.exchanges e.task) (mode : t.isSimulated = e.task.session.simulate)
    (calls : e.made ++ e.deeds.calls = x.kind?.toList)
    (trades : site.store.Trades site'.store (e.holding site.store) (fun _ => 0)) :
    TrialStep e part site (some x) (e.settle outcome site').1 (e.settle outcome site').2 := by
  subst came
  cases ends : t.outcome with
  | ok n =>
    have fine : t.isTransient = false := by simp only [Trial.isTransient, ends]
    have concluded := TrialStep.concluded whole mode
      (fun transient => absurd transient (Bool.eq_false_iff.mp fine)) calls trades
    rw [ends] at concluded
    exact concluded
  | error error =>
    have transience : t.isTransient = error.isTransient := by simp only [Trial.isTransient, ends]
    by_cases again : error.isTransient = true ∧ e.attempts ≤ e.task.retries
    · obtain ⟨transient, allowed⟩ := again
      rw [settle_again transient allowed]
      exact .retried whole mode (transience.trans transient) allowed calls trades
    · rw [settle_final again, ← ends]
      exact .concluded whole mode
        (fun transient allowed => again ⟨transience.symm.trans transient, allowed⟩) calls trades

/-- **Every stage of an execution comes to one of the four.** -/
theorem trialStep_advance {e : Execution} {part : List Exchange}
    (underway : e.phase.Underway e.task part) (site : Site) :
    TrialStep e part site (e.exchange? site) (e.advance site).1 (e.advance site).2 := by
  obtain ⟨task, attempts, phase⟩ := e
  simp only at underway
  cases underway with
  | @deleting call live request =>
    have step := call.pace_advance site
    have arrived := call.made_append_deeds
    simp only [advance, exchange?, Call.exchange?]
    generalize call.advance site = r at step ⊢
    obtain ⟨outcome, site'⟩ := r
    cases step with
    | stays barred quiet => exact .stays barred quiet
    | nears same nearer calls trades =>
      exact .nears rfl rfl (.deleting live (same.trans request)) nearer calls trades
    | @answered answer site' trades =>
      refine trialStep_settle (.live answer) rfl ?_ live.symm arrived trades
      rw [request]
      rfl
  | @beginning call simulated request =>
    have step := call.pace_advance site
    have arrived := call.made_append_deeds
    have positive := call.stage.left_pos
    simp only [advance, exchange?, Call.exchange?]
    generalize call.advance site = r at step ⊢
    obtain ⟨outcome, site'⟩ := r
    cases step with
    | stays barred quiet => exact .stays barred quiet
    | nears same nearer calls trades =>
      exact .nears rfl rfl (.beginning simulated (same.trans request))
        (Nat.add_lt_add_left nearer 10) calls trades
    | @answered answer site' trades =>
      rw [request] at arrived ⊢
      cases answer with
      | error error => exact trialStep_settle (.unbegun error) rfl rfl simulated.symm arrived trades
      | ok txn =>
        refine .nears rfl rfl (.staging simulated rfl) ?_ ?_ trades
        · show 5 + 5 < 10 + call.stage.left
          omega
        · exact arrived.trans (List.append_nil _).symm
  | @staging txn call simulated request =>
    have step := call.pace_advance site
    have arrived := call.made_append_deeds
    have positive := call.stage.left_pos
    simp only [advance, exchange?, Call.exchange?]
    generalize call.advance site = r at step ⊢
    obtain ⟨outcome, site'⟩ := r
    cases step with
    | stays barred quiet => exact .stays barred quiet
    | nears same nearer calls trades =>
      exact .nears rfl rfl (.staging simulated (same.trans request))
        (Nat.add_lt_add_left nearer 5) calls trades
    | @answered answer site' trades =>
      have shorter : 5 < 5 + call.stage.left := by omega
      rw [request] at arrived ⊢
      have gathered := arrived.trans (List.append_nil _).symm
      cases answer with
      | error error =>
        exact .nears rfl rfl
          (@AttemptPhase.Underway.aborting task txn (.error error) _ simulated rfl)
          shorter gathered trades
      | ok counted =>
        obtain ⟨n, staged⟩ := counted
        exact .nears rfl rfl
          (@AttemptPhase.Underway.aborting task txn (.ok (n, staged)) _ simulated rfl) shorter
          gathered trades
  | @aborting txn answer call simulated request =>
    have step := call.pace_advance site
    have arrived := call.made_append_deeds
    simp only [advance, exchange?, Call.exchange?]
    generalize call.advance site = r at step ⊢
    obtain ⟨outcome, site'⟩ := r
    cases step with
    | stays barred quiet => exact .stays barred quiet
    | nears same nearer calls trades =>
      exact .nears rfl rfl (.aborting simulated (same.trans request)) nearer calls trades
    | @answered abort site' trades =>
      refine trialStep_settle (.simulated txn answer abort) rfl ?_ simulated.symm arrived trades
      rw [request]
      rfl

/-! ## Attempts in a row -/

theorem made_again (e : Execution) : e.again.made = [] := by
  unfold made again
  rcases firstPhase_cases e.task with ⟨-, phase⟩ | ⟨-, phase⟩
  · rw [phase]
    rfl
  · rw [phase]
    rfl

theorem left_pos (e : Execution) : 0 < e.left := by
  unfold left
  split
  · next call _ => exact call.stage.left_pos
  · exact Nat.add_pos_left (by decide) _
  · exact Nat.add_pos_left (by decide) _
  · next call _ => exact call.stage.left_pos

end Execution

theorem AttemptPhase.underway_firstPhase (task : Assignment) :
    (Execution.firstPhase task).Underway task [] := by
  rcases Execution.firstPhase_cases task with ⟨simulated, phase⟩ | ⟨live, phase⟩
  · rw [phase]
    exact .beginning simulated rfl
  · rw [phase]
    exact .deleting live rfl

/-- Attempts that were each followed by another one: all failed with a transient error, and there
were retries left for each. -/
structure Assignment.Retried (task : Assignment) (trials : List Trial) : Prop where
  mode : ∀ t ∈ trials, t.isSimulated = task.session.simulate
  transient : ∀ t ∈ trials, t.isTransient = true
  allowed : ∀ k, 0 < k → k ≤ trials.length → UInt32.ofNat k ≤ task.retries

namespace Assignment.Retried

variable {task : Assignment} {trials : List Trial}

theorem nil (task : Assignment) : task.Retried [] := by
  refine ⟨nofun, nofun, fun k positive none => ?_⟩
  exact absurd none (Nat.not_le.mpr positive)

theorem snoc (retried : task.Retried trials) {t : Trial}
    (mode : t.isSimulated = task.session.simulate) (transient : t.isTransient = true)
    (allowed : UInt32.ofNat (trials.length + 1) ≤ task.retries) : task.Retried (trials ++ [t]) := by
  refine ⟨?_, ?_, fun k positive few => ?_⟩
  · exact List.forall_mem_append.mpr ⟨retried.mode, List.forall_mem_singleton.mpr mode⟩
  · exact List.forall_mem_append.mpr ⟨retried.transient, List.forall_mem_singleton.mpr transient⟩
  · rw [List.length_append, List.length_singleton] at few
    obtain earlier | rfl := Nat.lt_or_eq_of_le few
    · exact retried.allowed k positive (Nat.le_of_lt_succ earlier)
    · exact allowed

/-- The attempts that can be counted in 32 bits are not more than the retries. -/
theorem le_retries (retried : task.Retried trials) {k : Nat} (made : k ≤ trials.length)
    (small : k < 2 ^ 32) : k ≤ task.retries.toNat := by
  obtain rfl | positive := Nat.eq_zero_or_pos k
  · exact Nat.zero_le _
  · have allowed := UInt32.le_iff_toNat_le.mp (retried.allowed k positive made)
    rwa [UInt32.toNat_ofNat_of_lt' small] at allowed

end Assignment.Retried

namespace Execution

/-- **How an execution has come to where it is**, by the attempts that have come to an outcome, the
requests that were answered, the kinds of the calls that came to the gate, and how many moments
there were at which nothing barred it. -/
inductive Came (task : Assignment) (trials : List Trial) (exchanges : List Exchange)
    (calls : List Method) (strides : Nat) : Progress → Prop where
  | running {e : Execution} {part : List Exchange} (same : e.task = task)
      (attempts : e.attempts = UInt32.ofNat (trials.length + 1)) (retried : task.Retried trials)
      (underway : e.phase.Underway task part)
      (answered : exchanges = trials.flatMap (Trial.exchanges task) ++ part)
      (called : calls = exchanges.filterMap Exchange.kind? ++ e.made)
      (paced : strides + e.left ≤ 15 * (trials.length + 1)) :
      Came task trials exchanges calls strides (.running e)
  | finished {before : List Trial} {last : Trial} (split : trials = before ++ [last])
      (retried : task.Retried before) (mode : last.isSimulated = task.session.simulate)
      (final : last.isTransient = true → ¬UInt32.ofNat trials.length ≤ task.retries)
      (answered : exchanges = trials.flatMap (Trial.exchanges task))
      (called : calls = exchanges.filterMap Exchange.kind?)
      (paced : strides ≤ 15 * trials.length) :
      Came task trials exchanges calls strides
        (.finished (task.conclude (UInt32.ofNat trials.length) last.outcome))

theorem came_start (task : Assignment) : Came task [] [] [] 0 (.running (start task)) := by
  have silent : (start task).made = [] := (start task).made_again
  refine .running rfl rfl (.nil task) (AttemptPhase.underway_firstPhase task) rfl ?_ ?_
  · rw [silent]
    rfl
  · rw [Nat.zero_add]
    exact start_left_le task

/-- **A stage of an execution takes it on its course.** -/
theorem came_advance {task : Assignment} {trials : List Trial} {exchanges : List Exchange}
    {calls : List Method} {strides : Nat} {e : Execution}
    (came : Came task trials exchanges calls strides (.running e)) (moment : Site) :
    ∃ trials', Came task trials' (exchanges ++ (e.exchange? moment).toList)
      (calls ++ e.deeds.calls)
      (strides + if moment.Bars (e.hindrance? moment) then 0 else 1) (e.advance moment).1 := by
  obtain ⟨same, attempts, retried, underway, answered, called, paced⟩ := came
  next part =>
  subst same answered called
  have positive := e.left_pos
  have spent : (if moment.Bars (e.hindrance? moment) then 0 else 1) ≤ 1 := by split <;> omega
  have step := trialStep_advance underway moment
  generalize e.exchange? moment = x? at step
  generalize e.advance moment = r at step
  obtain ⟨progress, site'⟩ := r
  -- What is appended to the answers and to the calls belongs to the attempt under way.
  have gathered : ∀ (kinds : List Method) (x? : Option Exchange),
      e.made ++ e.deeds.calls = (x?.bind Exchange.kind?).toList ++ kinds →
      ((trials.flatMap (Trial.exchanges e.task) ++ part).filterMap Exchange.kind? ++ e.made) ++
          e.deeds.calls =
        (trials.flatMap (Trial.exchanges e.task) ++ part ++ x?.toList).filterMap Exchange.kind? ++
          kinds := by
    intro kinds x? calls
    simp only [List.filterMap_append, List.append_assoc, Exchange.kinds_toList, calls]
  have lengthened : ∀ {t : Trial} {x : Exchange}, part ++ [x] = t.exchanges e.task →
      trials.flatMap (Trial.exchanges e.task) ++ part ++ [x] =
        (trials ++ [t]).flatMap (Trial.exchanges e.task) := by
    intro t x whole
    rw [List.append_assoc, whole, List.flatMap_append, List.flatMap_singleton]
  cases step with
  | stays barred quiet =>
    refine ⟨trials, .running rfl attempts retried underway (List.append_nil _) ?_ ?_⟩
    · exact gathered _ none (by rw [quiet]; exact List.append_nil _)
    · rw [if_pos barred]
      exact paced
  | @nears x? e' site' same attempts' underway' nearer calls trades =>
    refine ⟨trials, .running same (attempts'.trans attempts) retried underway' ?_ ?_ ?_⟩
    · exact List.append_assoc _ _ _
    · exact gathered _ x? calls
    · omega
  | @retried x t site' whole mode transient allowed calls trades =>
    rw [attempts] at allowed
    have fresh := start_left_le e.task
    refine ⟨trials ++ [t], .running rfl ?_ (retried.snoc mode transient allowed)
      (AttemptPhase.underway_firstPhase e.task) ?_ ?_ ?_⟩
    · rw [List.length_append, List.length_singleton]
      calc e.attempts + 1 = UInt32.ofNat (trials.length + 1) + UInt32.ofNat 1 := by
            rw [attempts]
            rfl
        _ = UInt32.ofNat (trials.length + 1 + 1) := (UInt32.ofNat_add _ _).symm
    · rw [List.append_nil]
      exact lengthened whole
    · exact gathered _ (some x) (by rw [made_again, List.append_nil]; exact calls)
    · show _ + (start e.task).left ≤ _
      rw [List.length_append, List.length_singleton]
      omega
  | @concluded x t site' whole mode final calls trades =>
    have counted : e.attempts = UInt32.ofNat (trials ++ [t]).length := by
      rw [attempts, List.length_append, List.length_singleton]
    rw [counted] at final ⊢
    refine ⟨trials ++ [t], .finished rfl retried mode final (lengthened whole) ?_ ?_⟩
    · have called := gathered [] (some x) (calls.trans (List.append_nil _).symm)
      rwa [List.append_nil] at called
    · rw [List.length_append, List.length_singleton]
      omega

theorem exchanges_cons (e : Execution) (moment : Site) (later : List (Execution × Site)) :
    ((e, moment) :: later).filterMap (fun x => x.1.exchange? x.2) =
      (e.exchange? moment).toList ++ later.filterMap (fun x => x.1.exchange? x.2) := by
  rw [List.filterMap_cons]
  cases e.exchange? moment with
  | none => exact (List.nil_append _).symm
  | some x => exact (List.singleton_append ..).symm

theorem strides_cons (e : Execution) (moment : Site) (later : List (Execution × Site)) :
    ((e, moment) :: later).countP (fun x => !decide (x.2.Bars (x.1.hindrance? x.2))) =
      (if moment.Bars (e.hindrance? moment) then 0 else 1) +
        later.countP (fun x => !decide (x.2.Bars (x.1.hindrance? x.2))) := by
  rw [List.countP_cons, Nat.add_comm]
  by_cases barred : moment.Bars (e.hindrance? moment)
  · simp only [barred, decide_true, Bool.not_true, if_true, Bool.false_eq_true, if_false]
  · simp only [barred, decide_false, Bool.not_false, if_true, if_false]

/-- **What an execution comes to at any moments.** -/
theorem came_goOn {task : Assignment} {trials : List Trial} {xs : List Exchange}
    {called : List Method} {passed : Nat} {e : Execution} (moments : List Site)
    (came : Came task trials xs called passed (.running e)) :
    ∃ trials', Came task trials' (xs ++ e.exchanges moments) (called ++ e.calls moments)
      (passed + e.strides moments) (e.goOn moments) := by
  induction moments generalizing trials xs called passed e with
  | nil =>
    refine ⟨trials, ?_⟩
    simp only [exchanges, calls, stages, List.filterMap_nil, List.flatMap_nil, List.append_nil]
    exact came
  | cons moment later ih =>
    obtain ⟨trials', next⟩ := came_advance came moment
    simp only [goOn, exchanges, calls, strides, stages, exchanges_cons, strides_cons,
      List.flatMap_cons, ← List.append_assoc, ← Nat.add_assoc]
    cases progress : (e.advance moment).1 with
    | running e' =>
      rw [progress] at next
      exact ih next
    | finished r =>
      rw [progress] at next
      refine ⟨trials', ?_⟩
      simp only [List.filterMap_nil, List.flatMap_nil, List.append_nil, List.countP_nil,
        Nat.add_zero]
      exact next

end Execution

/-! ## Counting the attempts -/

/-- An attempt opens with one call, and makes no other one of that kind. -/
theorem Trial.count_opening {task : Assignment} {t : Trial}
    (mode : t.isSimulated = task.session.simulate) : t.kinds.count task.opening = 1 := by
  unfold Assignment.opening
  rw [← mode]
  cases t <;> rfl

theorem Trial.kinds_flatMap (task : Assignment) (trials : List Trial) :
    (trials.flatMap (Trial.exchanges task)).filterMap Exchange.kind? = trials.flatMap kinds := by
  rw [List.filterMap_flatMap]
  exact List.flatMap_congr fun t _ => t.kinds_eq task

theorem Trial.count_openings {task : Assignment} {trials : List Trial}
    (mode : ∀ t ∈ trials, t.isSimulated = task.session.simulate) :
    (trials.flatMap kinds).count task.opening = trials.length := by
  induction trials with
  | nil => rfl
  | cons t later ih =>
    have here := Trial.count_opening (mode t List.mem_cons_self)
    have rest := ih fun x hx => mode x (List.mem_cons_of_mem _ hx)
    rw [List.flatMap_cons, List.count_append, here, rest, List.length_cons, Nat.add_comm]

theorem Trial.not_begun {trials : List Trial} (live : ∀ t ∈ trials, t.isSimulated = false) :
    Method.begin ∉ trials.flatMap kinds := by
  intro begun
  obtain ⟨t, ht, among⟩ := List.mem_flatMap.mp begun
  cases t with
  | live answer => simp only [kinds, List.mem_singleton, reduceCtorEq] at among
  | unbegun error => cases live _ ht
  | simulated txn answer abort => cases live _ ht

/-- How many attempts there are, if those are the first of some. -/
theorem Assignment.Retried.length_eq {task : Assignment} {before tape : List Trial} {last : Trial}
    (retried : task.Retried before) (few : before.length + 1 < 2 ^ 32)
    (final : last.isTransient = true → ¬UInt32.ofNat (before.length + 1) ≤ task.retries)
    (first : before ++ [last] <+: tape) :
    before.length + 1 = 1 + min task.retries.toNat (tape.takeWhile Trial.isTransient).length := by
  obtain ⟨rest, rfl⟩ := first
  have allowed := retried.le_retries (Nat.le_refl _) (Nat.lt_of_succ_lt few)
  rw [List.append_assoc, List.singleton_append, List.takeWhile_append_of_pos retried.transient,
    List.length_append, List.takeWhile_cons]
  by_cases transient : last.isTransient = true
  · have spent : task.retries.toNat < before.length + 1 := by
      have beyond := UInt32.lt_iff_toNat_lt.mp (UInt32.not_le.mp (final transient))
      rwa [UInt32.toNat_ofNat_of_lt' few] at beyond
    rw [if_pos transient, List.length_cons]
    omega
  · rw [if_neg transient, List.length_nil]
    omega

namespace Execution

/-- The calls of the attempt under way are the first of those of an attempt. -/
theorem kinds_underway {task : Assignment} {e : Execution} {part : List Exchange}
    (underway : e.phase.Underway task part) :
    ∃ t : Trial, t.isSimulated = task.session.simulate ∧
      part.filterMap Exchange.kind? ++ e.made <+: t.kinds := by
  obtain ⟨_, attempts, phase⟩ := e
  simp only at underway
  cases underway with
  | @deleting call live request =>
    have made := call.made_prefix
    rw [request] at made
    exact ⟨.live (.ok 0), live.symm, made⟩
  | @beginning call simulated request =>
    have made := call.made_prefix
    rw [request] at made
    exact ⟨.unbegun (.storage ""), simulated.symm, made⟩
  | @staging txn call simulated request =>
    have made := call.made_prefix
    rw [request] at made
    refine ⟨.simulated txn (.error (.storage "")) (.ok ()), simulated.symm, ?_⟩
    have pair : [Method.begin] ++ call.made <+: [Method.begin] ++ [Method.stagedDelete] :=
      (List.prefix_append_right_inj _).mpr made
    exact pair.trans ⟨[.abort], rfl⟩
  | @aborting txn answer call simulated request =>
    have made := call.made_prefix
    rw [request] at made
    refine ⟨.simulated txn answer (.ok ()), simulated.symm, ?_⟩
    exact (List.prefix_append_right_inj [Method.begin, .stagedDelete]).mpr made

variable {task : Assignment} {trials : List Trial} {xs : List Exchange} {kinds : List Method}
  {passed : Nat} {progress : Progress}

/-- All attempts are made in the mode of the assignment. -/
theorem Came.mode (came : Came task trials xs kinds passed progress) :
    ∀ t ∈ trials, t.isSimulated = task.session.simulate := by
  cases came with
  | running same attempts retried => exact retried.mode
  | @finished before last split retried mode =>
    subst split
    exact List.forall_mem_append.mpr ⟨retried.mode, List.forall_mem_singleton.mpr mode⟩

/-- The calls are those of the attempts, and the first of those of another one. -/
theorem Came.calls_prefix (came : Came task trials xs kinds passed progress) :
    trials.flatMap Trial.kinds <+: kinds ∧
      ∃ t : Trial, t.isSimulated = task.session.simulate ∧
        kinds <+: (trials ++ [t]).flatMap Trial.kinds := by
  cases came with
  | @running e part same attempts retried underway answered called =>
    obtain ⟨t, mode, begun⟩ := kinds_underway underway
    rw [called, answered, List.filterMap_append, Trial.kinds_flatMap, List.append_assoc]
    refine ⟨List.prefix_append _ _, t, mode, ?_⟩
    rw [List.flatMap_append, List.flatMap_singleton]
    exact (List.prefix_append_right_inj _).mpr begun
  | @finished before last split retried mode final answered called =>
    rw [called, answered, Trial.kinds_flatMap]
    refine ⟨List.prefix_refl _, last, mode, ?_⟩
    rw [List.flatMap_append]
    exact List.prefix_append _ _

/-- The opening calls are as many as the attempts, and there may be one more. -/
theorem Came.openings (came : Came task trials xs kinds passed progress) :
    trials.length ≤ kinds.count task.opening ∧ kinds.count task.opening ≤ trials.length + 1 := by
  obtain ⟨those, t, mode, others⟩ := came.calls_prefix
  have least := those.sublist.count_le task.opening
  have most := others.sublist.count_le task.opening
  rw [Trial.count_openings came.mode] at least
  rw [List.flatMap_append, List.flatMap_singleton, List.count_append,
    Trial.count_openings came.mode, Trial.count_opening mode] at most
  exact ⟨least, most⟩

/-- While nothing is simulated, no transaction is begun. -/
theorem Came.not_begun (came : Came task trials xs kinds passed progress)
    (live : task.session.simulate = false) : Method.begin ∉ kinds := by
  obtain ⟨-, t, mode, others⟩ := came.calls_prefix
  have modes := List.forall_mem_append.mpr ⟨came.mode, List.forall_mem_singleton.mpr mode⟩
  exact fun begun => Trial.not_begun (fun x hx => (modes x hx).trans live) (others.mem begun)

/-! ## The law of the outcome -/

/-- **An execution is a row of attempts, and the last one decides its result.**  At whatever moments
it is asked to go on, the requests that are answered are those of attempts in the mode of the
assignment: deletes if it is live, and then no transaction is begun; otherwise transactions of which
each is begun once, used once and given up once, or could not be begun.  When there is a result,
there was one attempt and another one for each that failed with a transient error, as long as there
were retries; whatever attempts could have followed, there were no more.  The result has their
number, and the count or the error of the last one.  Before that, every attempt failed with a
transient error, and when nothing barred the execution at fifteen moments for each attempt that it
may make, it has its result.

Less than `2 ^ 32` attempts are begun: the attempts are counted in 32 bits. -/
theorem comes_of_trials (task : Assignment) (moments : List Site)
    (few : ((start task).calls moments).count task.opening < 2 ^ 32) :
    ∃ trials : List Trial, (∀ t ∈ trials, t.isSimulated = task.session.simulate) ∧
      (task.session.simulate = false → Method.begin ∉ (start task).calls moments) ∧
      (stagesPerAttempt * (task.retries.toNat + 1) ≤ (start task).strides moments →
        ∃ r, (start task).goOn moments = .finished r) ∧
      match (start task).goOn moments with
      | .finished r =>
        (start task).exchanges moments = trials.flatMap (Trial.exchanges task) ∧
          (start task).calls moments = trials.flatMap Trial.kinds ∧
          (∀ tape : List Trial, trials <+: tape → trials.length =
            1 + min task.retries.toNat (tape.takeWhile Trial.isTransient).length) ∧
          r.attempts.toNat = trials.length ∧
          ∃ last, trials.getLast? = some last ∧ r = task.conclude r.attempts last.outcome
      | .running e =>
        trials.length ≤ task.retries.toNat ∧ (∀ t ∈ trials, t.isTransient = true) ∧
          ∃ part : List Exchange, e.phase.Underway task part ∧
            (start task).exchanges moments = trials.flatMap (Trial.exchanges task) ++ part ∧
            (start task).calls moments =
              trials.flatMap Trial.kinds ++ part.filterMap Exchange.kind? ++ e.made := by
  obtain ⟨trials, came⟩ := came_goOn moments (came_start task)
  rw [List.nil_append, List.nil_append, Nat.zero_add] at came
  refine ⟨trials, came.mode, came.not_begun, ?_⟩
  have counted := Nat.lt_of_le_of_lt came.openings.1 few
  generalize (start task).goOn moments = progress at came ⊢
  cases came with
  | @running e part same attempts retried underway answered called paced =>
    have allowed := retried.le_retries (Nat.le_refl _) counted
    have positive := e.left_pos
    refine ⟨fun strides => ?_, allowed, retried.transient, part, underway, answered, ?_⟩
    · change 15 * (task.retries.toNat + 1) ≤ _ at strides
      omega
    · rw [called, answered, List.filterMap_append, Trial.kinds_flatMap]
  | @finished before last split retried mode final answered called paced =>
    subst split
    have length : (before ++ [last]).length = before.length + 1 := by
      rw [List.length_append, List.length_singleton]
    rw [length] at counted final
    refine ⟨fun _ => ⟨_, rfl⟩, answered, ?_, fun tape first => ?_, ?_, last,
      List.getLast?_concat, ?_⟩
    · rw [called, answered, Trial.kinds_flatMap]
    · exact length.trans (retried.length_eq counted final first)
    · rw [task.attempts_conclude, length]
      exact UInt32.toNat_ofNat_of_lt' counted
    · rw [task.attempts_conclude]

/-- Two orders are deleted.  A first attempt fails, and a second one does not. -/
theorem comes_of_trials_orders :
    let task : Assignment :=
      ⟨⟨"crm", "orders"⟩, .purging false, 2, 1, [⟨"a"⟩, ⟨"b"⟩]⟩
    let failing : Site := { store := .memory { MemoryStore.twoOrders with failures := 1 } }
    let moments := List.replicate 3 failing ++ List.replicate 3 { store := .memory .twoOrders }
    ((start task).calls moments).count task.opening < 2 ^ 32 ∧
      (start task).goOn moments = .finished ⟨1, 2, none, 2⟩ ∧
      ∃ trials : List Trial, (start task).exchanges moments =
          trials.flatMap (Trial.exchanges task) ∧ 2 = trials.length ∧
        ∃ last, trials.getLast? = some last ∧
          (⟨1, 2, none, 2⟩ : ExecutionResult) = task.conclude 2 last.outcome := by
  intro task failing moments
  have few : ((start task).calls moments).count task.opening < 2 ^ 32 := by
    have made : (start task).calls moments = [.deleteIds, .deleteIds] := rfl
    rw [made]
    decide
  have done : (start task).goOn moments = .finished ⟨1, 2, none, 2⟩ := by cbv
  obtain ⟨trials, -, -, -, outcome⟩ := comes_of_trials task moments few
  rw [done] at outcome
  obtain ⟨answered, -, -, number, last, final, result⟩ := outcome
  exact ⟨few, done, trials, answered, number, last, final, result⟩

end Execution

end PacedPurge
