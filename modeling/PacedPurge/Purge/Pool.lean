import PacedPurge.Bucket.Source
import PacedPurge.Line
import PacedPurge.Purge.Unit

/-!
# The pool

A pool takes buckets from a source and keeps at most `width` of them under way. The first error,
of the source or of a unit, stops the intake; units that are under way are still seen through, and
then the pool ends with that error.

The pool moves in steps, and at every moment any of them may come next (`Move`): the source goes on
by a row, a unit goes on by a stage, a round begins, or time passes. A move that is not possible
changes nothing. What the pool does in an order of moves is `Pool.play`; a policy says which move
comes next, and `Pool.promptly` is the one that wastes no time. The units stand in line (`Line`).
-/

namespace PacedPurge

/-- What ended a pool. -/
inductive PoolError where
  | source (error : BucketError)
  /-- The counters for a bucket could not be had. -/
  | telemetry (bucket : Nat) (error : StoreError)
  deriving DecidableEq, Repr

namespace PoolError

/-- The wording of an error, outermost text first. -/
def chain : PoolError → List String
  | .source error => error.chain
  | .telemetry bucket error =>
    s!"telemetry for batch {bucket}" :: Snapshot.errorChain error

/-- The store's error behind it. -/
def storeError? : PoolError → Option StoreError
  | .source error => error.storeError?
  | .telemetry _ error => some error

end PoolError

/-- What a pool has done. -/
structure Totals where
  /-- How many buckets were taken in. -/
  buckets : Nat := 0
  /-- How many records these had. -/
  records : Nat := 0
  /-- The sum of the counts that deletes gave. -/
  deleted : Nat := 0
  failedBuckets : Nat := 0
  /-- How often a unit was turned away. -/
  throttledWaits : Nat := 0
  /-- The most units that were executing at once. -/
  peakInFlight : Nat := 0
  deriving DecidableEq, Repr, Inhabited

/-- A pool at work. -/
structure Pool where
  settings : PoolSettings
  source : BucketSource
  /-- The units under way. -/
  line : Line BatchUnit := []
  /-- The first error. -/
  fatal : Option PoolError := none
  /-- The source has no more buckets. -/
  drained : Bool := false
  totals : Totals := {}
  /-- The results so far, the latest first. -/
  results : List ExecutionResult := []
  startedAt : Nat
  /-- When progress was last reported. -/
  progressAt : Nat

/-- What may come next. -/
inductive Move where
  /-- The source goes on by a row. -/
  | source
  /-- The unit at a position goes on by a stage. -/
  | unit (position : Nat)
  /-- A round begins. -/
  | round
  /-- Time passes. -/
  | wait (ms : Nat)
  deriving DecidableEq, Repr, Inhabited

namespace Pool

/-- A pool that has done nothing yet. -/
def start (settings : PoolSettings) (source : BucketSource) (site : Site) : Pool :=
  { settings, source, startedAt := site.clock, progressAt := site.clock }

/-- The units under way. -/
def units (p : Pool) : List BatchUnit := p.line.tasks

/-- Whether another bucket may be taken in. -/
def takesIn (p : Pool) : Bool :=
  p.fatal.isNone && !p.drained && p.line.length < p.settings.width

/-- Whether the pool has come to its end: it takes in no more and nothing is under way. -/
def isOver (p : Pool) : Bool := !p.takesIn && p.line.isEmpty

/-- How many units are executing. -/
def executing (p : Pool) : Nat := p.units.countP BatchUnit.isExecuting

/-! ## Moves -/

/-- Takes in a bucket. -/
def takeIn (p : Pool) (b : Bucket) : Pool :=
  { p with
    line := p.line.join (.start b)
    totals := { p.totals with
      buckets := p.totals.buckets + 1
      records := p.totals.records + b.size } }

/-- Whether progress is due. -/
def progressDue (p : Pool) (site : Site) : Bool :=
  match p.settings.progressInterval with
  | some interval =>
    0 < interval.nanos && interval.nanos ≤ (Duration.ofMillis (site.clock - p.progressAt)).nanos
  | none => false

/-- Reports progress if it is due. -/
def reportProgress (p : Pool) (site : Site) : Pool × Site :=
  if p.progressDue site then
    ({ p with progressAt := site.clock },
      site.report [.progress p.totals.buckets p.totals.deleted p.totals.failedBuckets
        p.line.length ((site.clock - p.startedAt) / 1000)])
  else (p, site)

/-- Takes note of a result. -/
def note (p : Pool) (r : ExecutionResult) : Pool :=
  { p with
    results := r :: p.results
    totals := { p.totals with
      deleted := p.totals.deleted + r.deleted
      failedBuckets := p.totals.failedBuckets + (if r.isOk then 0 else 1) } }

/-- Takes note of an error of a unit: the first one stops the pool, later ones are reported. -/
def noteError (p : Pool) (e : PoolError) (site : Site) : Pool × Site :=
  match p.fatal with
  | none => ({ p with fatal := some e }, site)
  | some _ => (p, site.report [.lateFailure e.chain])

/-- Puts a unit back that has had its turn, and sees how many are executing now. -/
def putUnit (p : Pool) (position : Nat) (u : BatchUnit) (site : Site) : Pool :=
  let p := { p with line := p.line.put position ⟨u, .afterTurn site (u.hindrance? site)⟩ }
  { p with totals := { p.totals with peakInFlight := max p.totals.peakInFlight p.executing } }

/-- Counts a unit that was turned away. -/
def countWait (p : Pool) : Pool :=
  { p with totals := { p.totals with throttledWaits := p.totals.throttledWaits + 1 } }

/-- Takes a unit out of the pool. -/
def dropUnit (p : Pool) (position : Nat) : Pool := { p with line := p.line.eraseIdx position }

/-- A round begins. -/
def beginRound (p : Pool) (site : Site) : Pool × Site :=
  ({ p with line := p.line.nextRound }, site.newRound)

/-- Ends the round if no wait can end in it any more. -/
def closeRound (p : Pool) (site : Site) : Pool × Site :=
  if site.allowance = 0 then p.beginRound site else (p, site)

/-- The source goes on by a row. When it brings a bucket, its end or an error, the round ends with
that if its waits are used up. -/
def moveSource (p : Pool) (site : Site) : Pool × Site :=
  if p.takesIn then
    match p.source.pull site with
    | (.taken, source, site) => ({ p with source }, site)
    | (.later _, source, site) => ({ p with source }, site)
    | (.bucket b, source, site) => ({ p with source }.takeIn b).closeRound site
    | (.ended, source, site) => { p with source, drained := true }.closeRound site
    | (.failed e, source, site) => { p with source, fatal := some (.source e) }.closeRound site
  else (p, site)

/-- Whether a unit has its turn. -/
def hasTurn (site : Site) (a : Attended BatchUnit) : Bool :=
  a.standing.hasTurn site (a.task.hindrance? site)

/-- Whether a unit waits for a worker. -/
def awaitsWorker (site : Site) (a : Attended BatchUnit) : Bool :=
  a.standing.awaitsWorker (a.task.hindrance? site)

/-- The unit at a position goes on by a stage, if it has its turn or a worker is asked for its work.
Whenever a unit ends, the round ends with it if its waits are used up. -/
def moveUnit (p : Pool) (position : Nat) (site : Site) : Pool × Site :=
  match p.line[position]? with
  | none => (p, site)
  | some a =>
    if hasTurn site a || awaitsWorker site a then
      match a.task.advance p.settings site with
      | (.running u, site) => (p.putUnit position u site, site)
      | (.turnedAway u, site) => ((p.putUnit position u site).countWait, site)
      | (.finished r, site) =>
        let (p, site) :=
          ((p.dropUnit position).note r).reportProgress (site.report (p.settings.announce r))
        p.closeRound site
      | (.failed e, site) =>
        let (p, site) := (p.dropUnit position).noteError (.telemetry a.task.bucket.ordinal e) site
        let (p, site) := p.reportProgress site
        p.closeRound site
    else (p, site)

/-- Makes a move. -/
def move (p : Pool) (site : Site) : Move → Pool × Site
  | .source => p.moveSource site
  | .unit position => p.moveUnit position site
  | .round => p.beginRound site
  | .wait ms => (p, site.waitUntil (site.clock + ms))

/-! ## Playing -/

/-- Which move comes next, as the pool and its site stand; none when nothing can be done. -/
abbrev Policy := Pool → Site → Option Move

/-- Plays at most `fuel` moves of a policy: the pool and the site at the end. -/
def play (policy : Policy) (fuel : Nat) (p : Pool) (site : Site) : Pool × Site :=
  match fuel with
  | 0 => (p, site)
  | fuel + 1 =>
    if p.isOver then (p, site)
    else
      match policy p site with
      | none => (p, site)
      | some m =>
        let (p, site) := p.move site m
        play policy fuel p site

/-- The earliest of the times that are waited for. -/
def earliest : List (Option Nat) → Option Nat
  | [] => none
  | none :: rest => earliest rest
  | some t :: rest =>
    match earliest rest with
    | none => some t
    | some u => some (min t u)

/-- The first moment that the source or a unit waits for. -/
def wake? (p : Pool) (site : Site) : Option Nat :=
  let sourceTime := if p.takesIn then p.source.rows.wake? else none
  earliest (sourceTime :: p.units.map fun u => (u.hindrance? site).bind Hindrance.moment?)

/-- The policy that wastes no time: the source goes first, then the unit that has waited longest of
those that have a turn. When none has one, a round begins if units are put off or no wait can end in
this one. After that the workers are asked for their work: for that of the unit whose work they have
had longest, and for the page that the source needs when they have no other. Otherwise all wait, and
time passes up to the first moment that is waited for. -/
def promptly : Policy := fun p site =>
  if p.takesIn && p.source.rows.isReady site then some .source
  else
    match p.line.findIdx? (hasTurn site) with
    | some position => some (.unit position)
    | none =>
      if p.line.hasPutOff || site.allowance = 0 then some .round
      else
        match p.line.findIdx? (awaitsWorker site) with
        | some position => some (.unit position)
        | none =>
          if p.takesIn && p.source.rows.awaitsWorker site then some .source
          else (p.wake? site).map fun t => .wait (t - site.clock)

/-- What a pool that is over has to show: the totals, or the error that ended it. -/
def verdict (p : Pool) : Except PoolError Totals :=
  match p.fatal with
  | some e => .error e
  | none => .ok p.totals

end Pool

end PacedPurge
