import PacedPurge.Plan.Basic
import PacedPurge.Purge.Pool
import PacedPurge.Purge.Verification

/-!
# Purges

A purge carries out a plan: it opens the rows that the plan asks for, lets a pool delete them bucket
by bucket, and counts what is left. With the safeguard on nothing is removed, and the report says
what would have been.
-/

namespace PacedPurge

/-- Why a source of buckets could not be opened. -/
inductive OpenError where
  | noBucketSize
  | rows (ns : Namespace) (error : StoreError)
  deriving DecidableEq, Repr

namespace OpenError

/-- The wording of an error, outermost text first. -/
def chain : OpenError → List String
  | .noBucketSize => ["bucket size must be > 0"]
  | .rows ns error => ["open bucket stream on " ++ ns.text, error.message]

/-- The store's error behind it. -/
def storeError? : OpenError → Option StoreError
  | .noBucketSize => none
  | .rows _ error => some error

end OpenError

/-- Opens a source of the buckets of a query. -/
def BucketSource.openQuery (ns : Namespace) (query : Query) (site : Site) :
    Except OpenError BucketSource × Site :=
  if query.bucketSize = 0 then (.error .noBucketSize, site)
  else
    match site.call (.rows ns query) with
    | (.error e, site) => (.error (.rows ns e), site)
    | (.ok rows, site) => (.ok (.ofRows rows query.bucketSize), site)

/-- Why a purge came to no report. -/
inductive PurgeError where
  | invalidPlan (fault : PlanFault)
  | opening (error : OpenError)
  | aborted (ns : Namespace) (error : PoolError)
  | counting (ns : Namespace) (error : StoreError)

namespace PurgeError

/-- The wording of an error, outermost text first. -/
def chain : PurgeError → List String
  | .invalidPlan fault => "invalid purge configuration" :: fault.chain
  | .opening error => error.chain
  | .aborted ns error => s!"purge of {ns} aborted" :: error.chain
  | .counting ns error => Verification.errorChain ns error

/-- The store's error behind it. -/
def storeError? : PurgeError → Option StoreError
  | .invalidPlan fault => fault.storeError?
  | .opening error => error.storeError?
  | .aborted _ error => error.storeError?
  | .counting _ error => some error

end PurgeError

/-- What a purge has done. -/
structure Report where
  /-- Records that match after the purge. -/
  residual : Nat
  buckets : Nat
  /-- Records that matched when the purge began. -/
  matched : Nat
  /-- The sum of the counts that deletes gave, or would have given. -/
  deleted : Nat
  failedBuckets : Nat
  throttledWaits : Nat
  simulated : Bool
  deriving DecidableEq, Repr, Inhabited

namespace Plan

/-- What is reported about the result of a bucket. -/
def announce (simulate : Bool) (r : ExecutionResult) : List Event :=
  match r.error with
  | some text => [.bucketFailed r.ordinal r.deleted text]
  | none =>
    if simulate then [.bucketSimulated r.ordinal r.deleted]
    else [.bucketDeleted r.ordinal r.deleted]

/-- How the pool of the plan is set up on a machine with so many cores. -/
def poolSettings (plan : Plan) (cores : Nat) : PoolSettings :=
  { ns := plan.target
    session := plan.session
    retries := plan.retries
    thresholds := plan.thresholds
    width := plan.width cores
    progressInterval := plan.progressInterval
    announce := announce plan.session.simulate }

/-- What is reported when the plan is taken up. -/
def openingEvent (plan : Plan) (cores : Nat) : Event :=
  .purging plan.target plan.filter.text plan.safeguard plan.bucketSize (plan.width cores)

/-- Takes up the plan: checks it and opens the pool. -/
def openPool (plan : Plan) (site : Site) : Except PurgeError Pool × Site :=
  match plan.fault? with
  | some fault => (.error (.invalidPlan fault), site)
  | none =>
    match BucketSource.openQuery plan.target plan.query
        (site.report [plan.openingEvent site.cores]) with
    | (.error e, after) => (.error (.opening e), after)
    | (.ok source, after) => (.ok (.start (plan.poolSettings site.cores) source after), after)

/-- The report of a pool that ended well, with what is left. -/
def reportOf (totals : Totals) (v : Verification) : Report :=
  { residual := v.residual
    buckets := totals.buckets
    matched := totals.records
    deleted := totals.deleted
    failedBuckets := totals.failedBuckets
    throttledWaits := totals.throttledWaits
    simulated := v.simulated }

/-- Concludes the purge when its pool is over. -/
def conclude (plan : Plan) (pool : Pool) (site : Site) : Except PurgeError Report × Site :=
  match pool.verdict with
  | .error e => (.error (.aborted plan.target e), site)
  | .ok totals =>
    let site := if totals.buckets = 0 then site.report [.nothingMatched plan.target] else site
    match Verification.take plan.target plan.filter plan.collation plan.session.simulate site with
    | (.error e, site) => (.error (.counting plan.target e), site)
    | (.ok v, site) => (.ok (reportOf totals v), site)

/-- Carries out the plan with a policy for the moves of its pool, of which there are at most
`fuel`; no answer when the pool is not over by then. -/
def runWith (policy : Pool.Policy) (fuel : Nat) (plan : Plan) (site : Site) :
    Option (Except PurgeError Report) × Site :=
  match plan.openPool site with
  | (.error e, site) => (some (.error e), site)
  | (.ok pool, site) =>
    let (pool, site) := pool.play policy fuel site
    if pool.isOver then
      let (answer, site) := plan.conclude pool site
      (some answer, site)
    else (none, site)

/-- Carries out the plan without wasting time. -/
def run (fuel : Nat) (plan : Plan) (site : Site) : Option (Except PurgeError Report) × Site :=
  plan.runWith Pool.promptly fuel site

end Plan

end PacedPurge
