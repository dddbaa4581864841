import PacedPurge.Proofs.Purge.Trials

/-!
# How often a bucket is attempted

A bucket may be attempted once and as often again as there are retries (`Assignment.limit`).  The
attempts are counted in 32 bits.  If the limit can be counted in 32 bits, no more attempts are made,
the counter is the number of attempts all along, and an execution that nothing bars stops
(`Execution.stops_in_time_iff`).  The one number of retries for which this is not so is the
greatest: after `2 ^ 32 - 1` attempts the counter starts again from zero, so that it never exceeds
the number of retries, and the attempts go on as long as they fail.

An execution that nobody else interferes with (`Execution.run`) has its moments for itself
(`Execution.alone`).  Nothing bars it at any of them if tickets are there, for it waits for what
stands in its way and gives back what it has taken.
-/

namespace PacedPurge

variable {α : Type}

/-- How many attempts may be made. -/
def Assignment.limit (task : Assignment) : Nat := task.retries.toNat + 1

/-- Attempts that were each followed by another one are not more than the retries, if the limit can
be counted. -/
theorem Assignment.Retried.le_retries_of_limit {task : Assignment} {trials : List Trial}
    (retried : task.Retried trials) (small : task.limit < 2 ^ 32) :
    trials.length ≤ task.retries.toNat := by
  by_contra beyond
  have allowed := retried.le_retries (k := task.limit) (Nat.not_le.mp beyond) small
  exact Nat.not_succ_le_self _ allowed

/-- At the greatest number of retries, every attempt may be followed by another one. -/
theorem Assignment.le_retries_of_greatest (task : Assignment) (beyond : ¬task.limit < 2 ^ 32)
    (k : UInt32) : k ≤ task.retries := by
  have bound := k.toNat_lt
  have limit : task.limit = task.retries.toNat + 1 := rfl
  rw [UInt32.le_iff_toNat_le]
  omega

/-! ## Waiting -/

/-- When a call has waited for what stands in its way, nothing bars it, if there is a ticket. -/
theorem Call.unbarred_waitOut {c : Call α} {site : Site}
    (admitted : c.stage = .knocking → site.store.admits c.request = true) :
    ¬(site.waitOut (c.hindrance? site)).Bars (c.hindrance? (site.waitOut (c.hindrance? site))) := by
  obtain ⟨request, stage⟩ := c
  have waited : ∀ time, ¬(site.await time).Bars (some (.moment time)) := by
    intro time barred
    exact absurd (site.mayEnd_await time) (Bool.eq_false_iff.mp barred)
  have unhindered : ∀ c : Call α, c.hindrance? site = none →
      ¬(site.waitOut (c.hindrance? site)).Bars
        (c.hindrance? (site.waitOut (c.hindrance? site))) := by
    intro c free
    rw [free]
    simp only [Site.waitOut, free]
    exact id
  cases stage with
  | arriving => exact unhindered _ rfl
  | held time error => exact waited time
  | knocking => exact unhindered _ (if_pos (admitted rfl))
  | ticketed =>
    by_cases room : 0 < site.allowance
    · exact unhindered _ (if_pos room)
    · have stuck : (⟨request, .ticketed⟩ : Call α).hindrance? site = some .round := if_neg room
      have fresh : (⟨request, .ticketed⟩ : Call α).hindrance? site.newRound = none :=
        if_pos (e := some .round) (by decide : 0 < Clock.waitsPerRound)
      rw [stuck]
      simp only [Site.waitOut, fresh]
      exact id
  | inside time =>
    cases time with
    | some time => exact waited time
    | none =>
      by_cases handed : site.store.handsOver request = true
      · have worker : (⟨request, .inside none⟩ : Call α).hindrance? site = some .worker :=
          if_pos handed
        rw [worker]
        simp only [Site.waitOut, worker]
        exact id
      · exact unhindered _ (if_neg handed)

namespace Execution

/-- The execution holds the tickets that it should, and there would be one of each kind if it gave
them back. -/
def Spared (e : Execution) (s : Store) : Prop :=
  ∀ kind, e.holding s kind ≤ (s.tickets kind).out ∧
    (s.tickets kind).out < (s.tickets kind).total + e.holding s kind

theorem Spared.trade {e e' : Execution} {s s' : Store} (spared : e.Spared s)
    (trades : s.Trades s' (e.holding s) (e'.holding s)) : e'.Spared s' := by
  intro kind
  obtain ⟨held, free⟩ := spared kind
  have moved := trades.out kind held
  have total := trades.kin.total kind
  rw [e'.holding_of_kin trades.kin]
  omega

/-- An execution that holds nothing is well off where there are tickets. -/
theorem spared_of_available {e : Execution} {s : Store} (empty : e.holding s = fun _ => 0)
    (spare : ∀ kind, (s.tickets kind).available = true) : e.Spared s := by
  intro kind
  have free := (Tickets.available_iff _).mp (spare kind)
  rw [empty]
  exact ⟨Nat.zero_le _, free⟩

/-- When an execution has waited for what stands in its way, nothing bars it. -/
theorem unbarred_waitOut {e : Execution} {site : Site} (spared : e.Spared site.store) :
    ¬(site.waitOut (e.hindrance? site)).Bars (e.hindrance? (site.waitOut (e.hindrance? site))) := by
  obtain ⟨α, c, same, holds⟩ := e.call_cases
  rw [same, same]
  refine Call.unbarred_waitOut fun knocking => Store.admits_of_available fun kind _ => ?_
  obtain ⟨-, free⟩ := spared kind
  have outside : c.stage.isInside = false := by rw [knocking]; rfl
  rw [holds, Call.holding_of_outside outside, Nat.add_zero] at free
  exact (Tickets.available_iff _).mpr free

/-- **Nothing bars an execution that nobody else interferes with**, if there are tickets: it has its
result, or it has gone on at every moment. -/
theorem strides_alone {e : Execution} {part : List Exchange} {site : Site} (fuel : Nat)
    (underway : e.phase.Underway e.task part) (spared : e.Spared site.store) :
    (∃ r, e.goOn (alone fuel e site) = .finished r) ∨ e.strides (alone fuel e site) = fuel := by
  induction fuel generalizing e part site with
  | zero => exact .inr rfl
  | succ fuel ih =>
    have unbarred := unbarred_waitOut spared
    have kept : (site.waitOut (e.hindrance? site)).store = site.store := Site.store_waitOut ..
    simp only [alone, goOn, strides, stages, strides_cons, if_neg unbarred]
    generalize site.waitOut (e.hindrance? site) = moment at unbarred kept ⊢
    rw [← kept] at spared
    have step := trialStep_advance underway moment
    generalize e.exchange? moment = x? at step
    generalize e.advance moment = r at step ⊢
    obtain ⟨progress, site'⟩ := r
    have farther : ∀ {e' : Execution} {site' : Site}, e'.strides (alone fuel e' site') = fuel →
        1 + e'.strides (alone fuel e' site') = fuel + 1 :=
      fun all => by rw [all, Nat.add_comm]
    cases step with
    | stays barred quiet => exact absurd barred unbarred
    | @nears x? e' site' same attempts underway' nearer calls trades =>
      rw [← same] at underway'
      exact (ih underway' (spared.trade trades)).imp id farther
    | @retried x t site' whole mode transient allowed calls trades =>
      have empty : e.again.holding moment.store = fun _ => 0 := start_holding e.task _
      rw [← empty] at trades
      have underway' := AttemptPhase.underway_firstPhase e.task
      exact (ih (e := e.again) underway' (spared.trade trades)).imp id farther
    | concluded whole mode final calls trades => exact .inl ⟨_, rfl⟩

/-! ## The limit -/

/-- How many attempts are begun at some moments. -/
def begun (task : Assignment) (moments : List Site) : Nat :=
  ((start task).calls moments).count task.opening

/-- The execution keeps to its limit at some moments: no more attempts are begun than may be made,
its counter is the number of the attempt under way, and it has its result when nothing barred it for
fifteen stages of each attempt that may be made. -/
structure InTime (task : Assignment) (moments : List Site) : Prop where
  within : begun task moments ≤ task.limit
  counted : ∀ e, (start task).goOn moments = .running e →
    begun task moments ≤ e.attempts.toNat ∧ e.attempts.toNat ≤ begun task moments + 1
  told : ∀ r, (start task).goOn moments = .finished r → r.attempts.toNat = begun task moments
  ends : stagesPerAttempt * task.limit ≤ (start task).strides moments →
    ∃ r, (start task).goOn moments = .finished r

/-- **An execution keeps to a limit that can be counted.** -/
theorem inTime_of_limit {task : Assignment} (small : task.limit < 2 ^ 32) (moments : List Site) :
    InTime task moments := by
  obtain ⟨trials, came⟩ := came_goOn moments (came_start task)
  rw [List.nil_append, List.nil_append, Nat.zero_add] at came
  obtain ⟨least, most⟩ : trials.length ≤ begun task moments ∧
      begun task moments ≤ trials.length + 1 := came.openings
  have mode := came.mode
  have limit : task.limit = task.retries.toNat + 1 := rfl
  generalize progress : (start task).goOn moments = reached at came
  cases came with
  | @running e part same attempts retried underway answered called paced =>
    have allowed := retried.le_retries_of_limit small
    have number : e.attempts.toNat = trials.length + 1 := by
      rw [attempts]
      exact UInt32.toNat_ofNat_of_lt' (Nat.lt_of_le_of_lt (Nat.succ_le_succ allowed) small)
    have positive := e.left_pos
    refine ⟨by omega, fun e' going => ?_, fun r ended => ?_, fun enough => ?_⟩
    · obtain rfl : e = e' := Progress.running.inj (progress.symm.trans going)
      omega
    · cases progress.symm.trans ended
    · change 15 * task.limit ≤ _ at enough
      omega
  | @finished before last split retried _ final answered called paced =>
    have allowed := retried.le_retries_of_limit small
    have all : begun task moments = trials.length := by
      rw [begun, called, answered, Trial.kinds_flatMap, Trial.count_openings mode]
    have number : trials.length = before.length + 1 := by
      rw [split, List.length_append, List.length_singleton]
    have countable : trials.length < 2 ^ 32 := by omega
    refine ⟨by omega, fun e going => ?_, fun r ended => ?_, fun _ => ⟨_, progress⟩⟩
    · cases progress.symm.trans going
    · obtain rfl := Progress.finished.inj (progress.symm.trans ended)
      rw [task.attempts_conclude, all]
      exact UInt32.toNat_ofNat_of_lt' countable

/-- An execution that nobody else interferes with has a result, if there are tickets. -/
theorem result_of_limit {task : Assignment} (small : task.limit < 2 ^ 32) {site : Site}
    (spare : ∀ kind, (site.store.tickets kind).available = true) :
    ∃ r, (run task site).1 = some r ∧ r.attempts.toNat ≤ task.limit := by
  have spared : (start task).Spared site.store :=
    spared_of_available (start_holding task site.store) spare
  have keeps := inTime_of_limit small (alone (stagesPerAttempt * task.limit) (start task) site)
  obtain ⟨r, ended⟩ : ∃ r,
      (start task).goOn (alone (stagesPerAttempt * task.limit) (start task) site) =
        .finished r := by
    obtain ended | all := strides_alone (stagesPerAttempt * task.limit)
      (AttemptPhase.underway_firstPhase task) spared
    · exact ended
    · exact keeps.ends (Nat.le_of_eq all.symm)
  refine ⟨r, ?_, ?_⟩
  · show (runWithin (stagesPerAttempt * task.limit) (start task) site).1 = some r
    rw [runWithin_eq, ended]
    rfl
  · rw [keeps.told r ended]
    exact keeps.within

/-! ## The greatest number of retries -/

/-- A site that turns the next call of a kind away, as a conflict. -/
def refusing (kind : Method) : Site :=
  { store := .memory {}, gate := [(kind, ⟨none, some (.transient "")⟩)] }

/-- When all numbers of attempts are allowed, an attempt that is turned away is followed by another
one. -/
theorem advance_refusing {task : Assignment} (greatest : ∀ k : UInt32, k ≤ task.retries)
    (attempts : UInt32) :
    ((⟨task, attempts, firstPhase task⟩ : Execution).advance (refusing task.opening)).1 =
        .running ⟨task, attempts + 1, firstPhase task⟩ ∧
      (⟨task, attempts, firstPhase task⟩ : Execution).deeds.calls = [task.opening] := by
  have retried : ∀ (phase : AttemptPhase) (site : Site),
      ((⟨task, attempts, phase⟩ : Execution).settle (.error (.transient "")) site).1 =
        .running ⟨task, attempts + 1, firstPhase task⟩ :=
    fun phase site => congrArg Prod.fst (settle_again rfl (greatest attempts) site)
  by_cases simulated : task.session.simulate = true
  · simp only [firstPhase, Assignment.opening, if_pos simulated] at retried ⊢
    exact ⟨retried _ _, rfl⟩
  · simp only [firstPhase, Assignment.opening, if_neg simulated] at retried ⊢
    exact ⟨retried _ _, rfl⟩

/-- There are then as many attempts as there are such moments, and the counter is the last 32 bits
of their number. -/
theorem goOn_refusing {task : Assignment} (greatest : ∀ k : UInt32, k ≤ task.retries)
    (attempts : UInt32) (n : Nat) :
    (⟨task, attempts, firstPhase task⟩ : Execution).goOn (.replicate n (refusing task.opening)) =
        .running ⟨task, attempts + UInt32.ofNat n, firstPhase task⟩ ∧
      (⟨task, attempts, firstPhase task⟩ : Execution).calls
        (.replicate n (refusing task.opening)) = .replicate n task.opening := by
  induction n generalizing attempts with
  | zero =>
    have same : attempts + UInt32.ofNat 0 = attempts := UInt32.add_zero attempts
    rw [same]
    exact ⟨rfl, rfl⟩
  | succ n ih =>
    obtain ⟨again, called⟩ := advance_refusing greatest attempts
    obtain ⟨later, rest⟩ := ih (attempts + 1)
    have counted : attempts + 1 + UInt32.ofNat n = attempts + UInt32.ofNat (n + 1) := by
      rw [UInt32.ofNat_add, UInt32.add_assoc, UInt32.add_comm 1]
      rfl
    rw [counted] at later
    simp only [List.replicate_succ, goOn, calls, stages, again, List.flatMap_cons, called]
    exact ⟨later, congrArg (task.opening :: ·) rest⟩

/-- At the greatest number of retries, `2 ^ 32 - 1` attempts that fail bring the counter back to
zero. -/
theorem not_inTime_of_greatest {task : Assignment} (beyond : ¬task.limit < 2 ^ 32) :
    ∃ moments, ¬InTime task moments := by
  have greatest := task.le_retries_of_greatest beyond
  obtain ⟨n, hn⟩ : ∃ n, n = 2 ^ 32 - 1 := ⟨_, rfl⟩
  obtain ⟨going, called⟩ := goOn_refusing greatest 1 n
  refine ⟨.replicate n (refusing task.opening), fun keeps => ?_⟩
  have many : begun task (.replicate n (refusing task.opening)) = n := by
    rw [begun, start, called, List.count_replicate_self]
  have wrapped : (1 + UInt32.ofNat n).toNat = 0 := by
    rw [hn]
    rfl
  have counted := (keeps.counted _ going).1
  rw [many, wrapped] at counted
  omega

/-! ## Stores that are told to fail -/

/-- An execution on its own that goes on, when it has waited for what stands in its way. -/
theorem alone_running {e e' : Execution} {site moment site' : Site} (fuel : Nat)
    (waited : site.waitOut (e.hindrance? site) = moment)
    (step : e.advance moment = (.running e', site')) :
    e.goOn (alone (fuel + 1) e site) = e'.goOn (alone fuel e' site') ∧
      e.calls (alone (fuel + 1) e site) = e.deeds.calls ++ e'.calls (alone fuel e' site') := by
  simp only [alone, waited, goOn, calls, stages, step, List.flatMap_cons, and_self]

/-- An execution on its own that comes to its result. -/
theorem alone_finished {e : Execution} {r : ExecutionResult} {site moment site' : Site} (fuel : Nat)
    (waited : site.waitOut (e.hindrance? site) = moment)
    (step : e.advance moment = (.finished r, site')) :
    e.goOn (alone (fuel + 1) e site) = .finished r ∧
      e.calls (alone (fuel + 1) e site) = e.deeds.calls := by
  simp only [alone, waited, goOn, calls, stages, step, List.flatMap_cons, List.flatMap_nil,
    List.append_nil, and_self]

/-- The site has a store in memory with these collections, which is told to fail so many deletes
more, and no calls are turned away. -/
def Failing (collections : Std.TreeMap Namespace Records) (n : Nat) (site : Site) : Prop :=
  site.gate = [] ∧ ∃ m : MemoryStore, site.store = .memory m ∧ m.collections = collections ∧
    m.failures = n

/-- The delete of an attempt. -/
def deletion (task : Assignment) : Request Nat := .delete task.ns task.ids task.session.writeConcern

/-- An attempt whose delete has come to a stage. -/
def deletingAt (task : Assignment) (attempts : UInt32) (stage : Stage) : Execution :=
  ⟨task, attempts, .deleting ⟨deletion task, stage⟩⟩

variable {collections : Std.TreeMap Namespace Records} {task : Assignment} {site : Site} {n : Nat}

theorem eq_deletingAt (live : task.session.simulate = false) (attempts : UInt32) :
    (⟨task, attempts, firstPhase task⟩ : Execution) = deletingAt task attempts .arriving := by
  have phase : firstPhase task = .deleting (.start (deletion task)) := by
    rcases firstPhase_cases task with ⟨simulated, -⟩ | ⟨-, phase⟩
    · exact absurd (live.symm.trans simulated) Bool.false_ne_true
    · exact phase
  rw [phase]
  rfl

theorem Failing.report (failing : Failing collections n site) (events : List Event) :
    Failing collections n (site.report events) := failing

/-- A store in memory serves a delete, and the attempt has its outcome, when the time has come. -/
theorem Failing.advance_inside (failing : Failing collections n site) (task : Assignment)
    (attempts : UInt32) (time : Option Nat) :
    ∃ moment last : Site,
      site.waitOut ((deletingAt task attempts (.inside time)).hindrance? site) = moment ∧
      last.gate = [] ∧ last.store = site.store ∧
      (deletingAt task attempts (.inside time)).advance moment =
        (deletingAt task attempts (.inside time)).settle (site.store.leave (deletion task)).1
          (last.leave (deletion task)).2 := by
  obtain ⟨passable, m, inMemory, -⟩ := failing
  cases time with
  | none =>
    have free : (deletingAt task attempts (.inside none)).hindrance? site = none := by
      simp only [deletingAt, hindrance?, Call.hindrance?, inMemory, Store.handsOver,
        Bool.false_eq_true, if_false]
    exact ⟨site, site, congrArg site.waitOut free, passable, rfl, rfl⟩
  | some time =>
    have answered : Call.advance ⟨deletion task, .inside (some time)⟩ (site.await time) =
        (.answered ((site.sitOut time).leave (deletion task)).1,
          ((site.sitOut time).leave (deletion task)).2) := if_pos (site.mayEnd_await time)
    refine ⟨site.await time, site.sitOut time, rfl, ?_, site.store_sitOut time, ?_⟩
    · rw [site.gate_sitOut, passable]
    · simp only [deletingAt, advance, answered, Site.answer_leave, Site.store_sitOut]

/-- An attempt goes on to the point where the store serves its delete. -/
theorem alone_arriving (failing : Failing collections n site) (attempts : UInt32) (fuel : Nat) :
    ∃ time site', Failing collections n site' ∧
      (deletingAt task attempts .arriving).goOn
          (alone (fuel + 2) (deletingAt task attempts .arriving) site) =
        (deletingAt task attempts (.inside time)).goOn
          (alone fuel (deletingAt task attempts (.inside time)) site') ∧
      (deletingAt task attempts .arriving).calls
          (alone (fuel + 2) (deletingAt task attempts .arriving) site) =
        .deleteIds :: (deletingAt task attempts (.inside time)).calls
          (alone fuel (deletingAt task attempts (.inside time)) site') := by
  obtain ⟨store, gate, clock, allowance, chance, journal, cores⟩ := site
  obtain ⟨passable, m, inMemory, same, left⟩ := failing
  simp only at passable inMemory
  subst passable inMemory
  let site : Site := ⟨.memory m, [], clock, allowance, chance, journal, cores⟩
  have arrives : (deletingAt task attempts .arriving).advance site =
      (.running (deletingAt task attempts .knocking), site) := rfl
  have passes : site.waitOut ((deletingAt task attempts .knocking).hindrance? site) = site := rfl
  have enters : (deletingAt task attempts .knocking).advance site =
      (.running (deletingAt task attempts (.inside (site.enter (deletion task)).1)),
        (site.enter (deletion task)).2) := rfl
  obtain ⟨toGate, atGate⟩ := alone_running (fuel + 1) rfl arrives
  obtain ⟨inside, silent⟩ := alone_running fuel passes enters
  refine ⟨_, _, ⟨rfl, m.enterDelete, rfl, same, left⟩, toGate.trans inside, ?_⟩
  rw [atGate, silent]
  rfl

/-- A delete that is told to fail is followed by another attempt. -/
theorem alone_conflict (greatest : ∀ k : UInt32, k ≤ task.retries)
    (failing : Failing collections (n + 1) site) (attempts : UInt32) (time : Option Nat)
    (fuel : Nat) :
    ∃ site', Failing collections n site' ∧
      (deletingAt task attempts (.inside time)).goOn
          (alone (fuel + 1) (deletingAt task attempts (.inside time)) site) =
        (⟨task, attempts + 1, firstPhase task⟩ : Execution).goOn
          (alone fuel ⟨task, attempts + 1, firstPhase task⟩ site') ∧
      (deletingAt task attempts (.inside time)).calls
          (alone (fuel + 1) (deletingAt task attempts (.inside time)) site) =
        (⟨task, attempts + 1, firstPhase task⟩ : Execution).calls
          (alone fuel ⟨task, attempts + 1, firstPhase task⟩ site') := by
  obtain ⟨moment, last, waited, passable, kept, conflicts⟩ :=
    failing.advance_inside task attempts time
  obtain ⟨-, m, inMemory, same, left⟩ := failing
  have served : site.store.leave (deletion task) =
      (.error MemoryStore.injectedFailure, .memory { m with failures := n }.leaveDelete) := by
    have taken : m.takeFailure? = some { m with failures := n } := by
      simp only [MemoryStore.takeFailure?, left]
    simp only [inMemory, deletion, Store.leave, MemoryStore.leave, MemoryStore.leaveWith, taken]
  have store : (last.leave (deletion task)).2.store =
      .memory { m with failures := n }.leaveDelete := by
    rw [Site.store_leave, kept, served]
  rw [served, settle_again rfl (greatest attempts)] at conflicts
  obtain ⟨later, silent⟩ := alone_running fuel waited conflicts
  refine ⟨_, ?_, later, silent⟩
  exact ⟨(last.gate_leave _).trans passable, _, store, same, rfl⟩

/-- Where nothing fails any more, the delete decides the result. -/
theorem alone_success (failing : Failing collections 0 site) (attempts : UInt32)
    (time : Option Nat) (fuel : Nat) :
    (deletingAt task attempts (.inside time)).goOn
        (alone (fuel + 1) (deletingAt task attempts (.inside time)) site) =
      .finished ⟨task.ordinal, (MemoryStore.remove { collections } task.ns task.ids).1, none,
        attempts⟩ ∧
      (deletingAt task attempts (.inside time)).calls
        (alone (fuel + 1) (deletingAt task attempts (.inside time)) site) = [] := by
  obtain ⟨moment, last, waited, -, -, succeeds⟩ :=
    failing.advance_inside task attempts time
  obtain ⟨-, m, inMemory, same, left⟩ := failing
  have served : (site.store.leave (deletion task)).1 =
      .ok (MemoryStore.remove { collections } task.ns task.ids).1 := by
    have spent : m.takeFailure? = none := by
      simp only [MemoryStore.takeFailure?, left]
    simp only [inMemory, deletion, Store.leave, MemoryStore.leave, MemoryStore.leaveWith, spent,
      MemoryStore.remove, MemoryStore.records, same]
  rw [served] at succeeds
  exact alone_finished fuel waited succeeds

/-- **An execution on its own outlasts all failures of a store in memory**, when all numbers of
attempts are allowed.  There is one attempt more than failures, and the result has the last 32 bits
of their number. -/
theorem alone_failing (live : task.session.simulate = false)
    (greatest : ∀ k : UInt32, k ≤ task.retries) (failing : Failing collections n site)
    (attempts : UInt32) (fuel : Nat) :
    (deletingAt task attempts .arriving).goOn
        (alone (fuel + 3 * (n + 1)) (deletingAt task attempts .arriving) site) =
      .finished ⟨task.ordinal, (MemoryStore.remove { collections } task.ns task.ids).1, none,
        attempts + UInt32.ofNat n⟩ ∧
      (deletingAt task attempts .arriving).calls
        (alone (fuel + 3 * (n + 1)) (deletingAt task attempts .arriving) site) =
      .replicate (n + 1) .deleteIds := by
  induction n generalizing attempts site with
  | zero =>
    obtain ⟨time, inside, failing', reached, called⟩ := alone_arriving failing attempts (fuel + 1)
    obtain ⟨done, silent⟩ := alone_success failing' attempts time fuel
    have same : attempts + UInt32.ofNat 0 = attempts := UInt32.add_zero attempts
    rw [same]
    refine ⟨reached.trans done, ?_⟩
    rw [silent] at called
    exact called
  | succ n ih =>
    obtain ⟨time, inside, failing', reached, called⟩ :=
      alone_arriving failing attempts (fuel + 3 * (n + 1) + 1)
    obtain ⟨again, failing'', retried, silent⟩ :=
      alone_conflict greatest failing' attempts time (fuel + 3 * (n + 1))
    rw [eq_deletingAt live] at retried silent
    obtain ⟨done, rest⟩ := ih failing'' (attempts + 1)
    have counted : attempts + 1 + UInt32.ofNat n = attempts + UInt32.ofNat (n + 1) := by
      rw [UInt32.ofNat_add, UInt32.add_assoc, UInt32.add_comm 1]
      rfl
    rw [counted] at done
    refine ⟨reached.trans (retried.trans done), ?_⟩
    rw [silent, rest] at called
    exact called

/-- If the first attempt is turned away at the gate as well, there is one attempt more. -/
theorem run_failing (live : task.session.simulate = false)
    (greatest : ∀ k : UInt32, k ≤ task.retries) {error : StoreError}
    (transient : error.isTransient = true) (gated : site.gate = [(.deleteIds, ⟨none, some error⟩)])
    (failing : Failing collections n { site with gate := [] })
    (room : 3 * (n + 1) + 1 ≤ stagesPerAttempt * task.limit) :
    (run task site).1 = some ⟨task.ordinal,
        (MemoryStore.remove { collections } task.ns task.ids).1, none, 2 + UInt32.ofNat n⟩ ∧
      begun task (alone (stagesPerAttempt * task.limit) (start task) site) = n + 2 := by
  obtain ⟨fuel, stages⟩ : ∃ fuel, stagesPerAttempt * task.limit = fuel + 3 * (n + 1) + 1 :=
    ⟨_, (Nat.sub_add_cancel room).symm.trans (Nat.add_assoc ..).symm⟩
  have refused : (deletingAt task 1 .arriving).advance site =
      (deletingAt task 1 .arriving).settle (.error error) { site with gate := [] } := by
    obtain ⟨store, gate, clock, allowance, chance, journal, cores⟩ := site
    simp only at gated
    subst gated
    rfl
  rw [settle_again transient (greatest 1)] at refused
  obtain ⟨again, first⟩ := alone_running (fuel + 3 * (n + 1)) rfl refused
  have begins : (deletingAt task 1 .arriving).again = deletingAt task 2 .arriving :=
    eq_deletingAt live 2
  rw [begins] at again first
  obtain ⟨ended, called⟩ := alone_failing live greatest (failing.report _) 2 fuel
  have opening : task.opening = .deleteIds := if_neg (by rw [live]; exact Bool.false_ne_true)
  have starts : start task = deletingAt task 1 .arriving := eq_deletingAt live 1
  refine ⟨?_, ?_⟩
  · show (runWithin (stagesPerAttempt * task.limit) (start task) site).1 = _
    rw [runWithin_eq, starts, stages, again.trans ended]
    rfl
  · rw [begun, starts, stages, first.trans (congrArg _ called), opening, List.count_append,
      List.count_replicate_self]
    show 1 + (n + 1) = n + 2
    omega

/-- **The attempts at a bucket stop in time, and are counted right, exactly if the limit can be
counted in 32 bits**, which is so for every number of retries but the greatest.  The limit is then
kept at whatever moments the execution is asked to go on, whatever is answered to its calls; and
an execution that nobody else interferes with has its result, if there are tickets. -/
theorem stops_in_time_iff (task : Assignment) :
    ((∀ moments : List Site, InTime task moments) ∧
        ∀ site : Site, (∀ kind, (site.store.tickets kind).available = true) →
          ∃ r, (run task site).1 = some r ∧ r.attempts.toNat ≤ task.limit) ↔
      task.limit < 2 ^ 32 := by
  constructor
  · rintro ⟨keeps, -⟩
    by_contra beyond
    obtain ⟨moments, breaks⟩ := not_inTime_of_greatest beyond
    exact breaks (keeps moments)
  · intro small
    exact ⟨inTime_of_limit small, fun site spare => result_of_limit small spare⟩

/-- **At the greatest number of retries the attempts start over.**  The first attempt at an order is
turned away at the gate, and the store fails `2 ^ 32 - 1` deletes.  That is an error for each
attempt that may be made, but the order is deleted by one more, and the result says that it was the
first. -/
theorem attempts_start_over :
    let task : Assignment := ⟨⟨"crm", "orders"⟩, .purging false, 4294967295, 1, [⟨"a"⟩]⟩
    let site : Site :=
      { store := .memory { MemoryStore.twoOrders with failures := 4294967295, latency := 1 }
        gate := [(.deleteIds, ⟨none, some MemoryStore.injectedFailure⟩)] }
    task.limit = 2 ^ 32 ∧ (run task site).1 = some ⟨1, 1, none, 1⟩ ∧
      begun task (alone (stagesPerAttempt * task.limit) (start task) site) = 2 ^ 32 + 1 := by
  intro task site
  have limit : task.limit = 2 ^ 32 := by
    show (4294967295 : UInt32).toNat + 1 = 2 ^ 32
    decide
  have greatest := task.le_retries_of_greatest (Nat.not_lt.mpr (Nat.le_of_eq limit.symm))
  have room : 3 * (4294967295 + 1) + 1 ≤ stagesPerAttempt * task.limit := by
    rw [limit]
    decide
  have failing : Failing MemoryStore.twoOrders.collections 4294967295
      { site with gate := [] } := ⟨rfl, _, rfl, rfl, rfl⟩
  obtain ⟨result, attempts⟩ := run_failing rfl greatest rfl rfl failing room
  have removed : (MemoryStore.remove { collections := MemoryStore.twoOrders.collections }
      task.ns task.ids).1 = 1 := by cbv
  have number : 2 + UInt32.ofNat 4294967295 = 1 := by decide
  rw [removed, number] at result
  exact ⟨limit, result, attempts⟩

end Execution

end PacedPurge
