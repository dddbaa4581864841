import PacedPurge.Bucket.Assembly
import PacedPurge.Site

/-!
# Executing a bucket

One bucket is deleted in attempts. A live attempt is one delete. A simulated attempt begins a
transaction, stages the deletes in it and aborts it whatever came of them; that the abort fails is
reported and changes nothing else. An attempt that fails with a transient error is followed by
another one as long as retries are left; any other failure ends the bucket, and is part of its
result rather than an error of the purge.
-/

namespace PacedPurge

/-- What is to be deleted, and how. -/
structure Assignment where
  ns : Namespace
  session : Session
  retries : UInt32
  ordinal : Nat
  ids : List RecordId
  deriving Inhabited

/-- What has come of a bucket. -/
structure ExecutionResult where
  ordinal : Nat
  deleted : Nat
  /-- The text of the error that ended the bucket. -/
  error : Option String
  attempts : UInt32
  deriving DecidableEq, Repr, Inhabited

/-- Whether the bucket was deleted. -/
def ExecutionResult.isOk (r : ExecutionResult) : Bool := r.error.isNone

/-- What an attempt is doing. -/
inductive AttemptPhase where
  | deleting (call : Call Nat)
  | beginning (call : Call Transaction)
  | staging (txn : Transaction) (call : Call (Nat × Transaction))
  /-- The outcome of the attempt is known; its transaction is being given up. -/
  | aborting (outcome : Except StoreError Nat) (call : Call Unit)

/-- A bucket being executed. -/
structure Execution where
  task : Assignment
  /-- The number of the attempt under way, from 1. -/
  attempts : UInt32
  phase : AttemptPhase

namespace Execution

/-- What has become of an execution. -/
inductive Progress where
  | running (e : Execution)
  | finished (r : ExecutionResult)

/-- How an attempt sets out. -/
def firstPhase (task : Assignment) : AttemptPhase :=
  if task.session.simulate then .beginning (.start (.begin task.session.writeConcern))
  else .deleting (.start (.delete task.ns task.ids task.session.writeConcern))

/-- The first attempt. -/
def start (task : Assignment) : Execution := ⟨task, 1, firstPhase task⟩

/-- The next attempt. -/
def again (e : Execution) : Execution := ⟨e.task, e.attempts + 1, firstPhase e.task⟩

/-- Draws the conclusion from the outcome of an attempt. -/
def settle (e : Execution) (outcome : Except StoreError Nat) (site : Site) : Progress × Site :=
  match outcome with
  | .ok n => (.finished ⟨e.task.ordinal, n, none, e.attempts⟩, site)
  | .error error =>
    if error.isTransient && e.attempts ≤ e.task.retries then
      (.running e.again,
        site.report [.deleteRetried e.task.ordinal e.attempts.toNat error])
    else
      (.finished ⟨e.task.ordinal, 0, some error.message, e.attempts⟩,
        site.report [.deleteFailed e.task.ordinal e.attempts.toNat error])

/-- Gives up the transaction of an attempt whose outcome is known. -/
def giveUp (e : Execution) (outcome : Except StoreError Nat) (txn : Transaction) : Execution :=
  { e with phase := .aborting outcome (.start (.abort txn)) }

/-- Reports an abort that failed. -/
def abortEvents (e : Execution) : Except StoreError Unit → List Event
  | .ok _ => []
  | .error error => [.abortFailed e.task.ordinal error]

/-- Goes on by one stage of the call under way. -/
def advance (e : Execution) (site : Site) : Progress × Site :=
  match e.phase with
  | .deleting call =>
    match call.advance site with
    | (.waiting call, site) => (.running { e with phase := .deleting call }, site)
    | (.answered outcome, site) => e.settle outcome site
  | .beginning call =>
    match call.advance site with
    | (.waiting call, site) => (.running { e with phase := .beginning call }, site)
    | (.answered (.error error), site) => e.settle (.error error) site
    | (.answered (.ok txn), site) =>
      (.running { e with phase := .staging txn (.start (.stage txn e.task.ns e.task.ids)) }, site)
  | .staging txn call =>
    match call.advance site with
    | (.waiting call, site) => (.running { e with phase := .staging txn call }, site)
    | (.answered (.error error), site) => (.running (e.giveUp (.error error) txn), site)
    | (.answered (.ok (n, staged)), site) => (.running (e.giveUp (.ok n) staged), site)
  | .aborting outcome call =>
    match call.advance site with
    | (.waiting call, site) => (.running { e with phase := .aborting outcome call }, site)
    | (.answered answer, site) => e.settle outcome (site.report (e.abortEvents answer))

/-- What stands between the execution and the next stage of its call. -/
def hindrance? (e : Execution) (site : Site) : Option Hindrance :=
  match e.phase with
  | .deleting call => call.hindrance? site
  | .beginning call => call.hindrance? site
  | .staging _ call => call.hindrance? site
  | .aborting _ call => call.hindrance? site

/-- Carries the execution on when nobody else is about, at most `fuel` stages. -/
def runWithin (fuel : Nat) (e : Execution) (site : Site) : Option ExecutionResult × Site :=
  match fuel with
  | 0 => (none, site)
  | fuel + 1 =>
    match e.advance (site.waitOut (e.hindrance? site)) with
    | (.running e, site) => runWithin fuel e site
    | (.finished r, site) => (some r, site)

/-- How many stages an attempt has at most: three calls of five stages. -/
def stagesPerAttempt : Nat := 15

/-- Executes an assignment when nobody else is about. -/
def run (task : Assignment) (site : Site) : Option ExecutionResult × Site :=
  runWithin (stagesPerAttempt * (task.retries.toNat + 1)) (start task) site

end Execution

end PacedPurge
