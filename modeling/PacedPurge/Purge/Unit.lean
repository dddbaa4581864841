import PacedPurge.Load.Admission
import PacedPurge.Purge.Execution
import PacedPurge.Purge.Sampling

/-!
# Units

A unit sees one bucket through. It asks the store for its counters and decides on them; turned
away, it rests and asks again; admitted, it executes the bucket. A store that does not tell its
counters is taken to be idle, and any other failure to get them ends the unit.
-/

namespace PacedPurge

/-- What a unit is doing. -/
inductive UnitPhase where
  | sampling (call : Call Counters)
  /-- Turned away, up to a time. -/
  | resting (time : Nat)
  | executing (e : Execution)

/-- A bucket being seen through. -/
structure BatchUnit where
  bucket : Bucket
  phase : UnitPhase

/-- Everything that units have in common. -/
structure PoolSettings where
  ns : Namespace
  session : Session
  retries : UInt32
  thresholds : Thresholds
  /-- How many units may be under way at a time, at least 1. -/
  width : Nat
  /-- The least time between two reports of progress; none are made without it. -/
  progressInterval : Option Duration
  /-- What is reported about a result. -/
  announce : ExecutionResult → List Event

/-- The assignment of a bucket. -/
def PoolSettings.assignment (s : PoolSettings) (b : Bucket) : Assignment :=
  ⟨s.ns, s.session, s.retries, b.ordinal, b.ids⟩

namespace BatchUnit

/-- What has become of a unit. -/
inductive Progress where
  | running (u : BatchUnit)
  /-- Turned away, and resting now. -/
  | turnedAway (u : BatchUnit)
  | finished (r : ExecutionResult)
  /-- The counters could not be had. -/
  | failed (error : StoreError)

/-- A unit that sets out. -/
def start (b : Bucket) : BatchUnit := ⟨b, .sampling (.start .status)⟩

/-- Whether the unit is executing its bucket. -/
def isExecuting (u : BatchUnit) : Bool :=
  match u.phase with
  | .executing _ => true
  | _ => false

/-- Decides on counters. -/
def judge (u : BatchUnit) (settings : PoolSettings) (c : Counters) (site : Site) :
    Progress × Site :=
  let (decision, chance) := (Snapshot.ofCounters c settings.thresholds).decide site.chance
  let site := { site with chance }
  match decision with
  | .proceed =>
    (.running { u with phase := .executing (.start (settings.assignment u.bucket)) }, site)
  | .wait pressure delay =>
    (.turnedAway { u with phase := .resting (site.clock + delay) },
      site.report [.heldBack u.bucket.ordinal pressure])

/-- Goes on by one stage. -/
def advance (u : BatchUnit) (settings : PoolSettings) (site : Site) : Progress × Site :=
  match u.phase with
  | .sampling call =>
    match call.advance site with
    | (.waiting call, site) => (.running { u with phase := .sampling call }, site)
    | (.answered answer, site) =>
      let site := site.report (statusEvents answer)
      match countersOf answer with
      | .ok c => u.judge settings c site
      | .error e => (.failed e, site)
  | .resting time =>
    if site.mayEnd time then
      (.running { u with phase := .sampling (.start .status) }, site.endWait)
    else (.running u, site)
  | .executing e =>
    match e.advance site with
    | (.running e, site) => (.running { u with phase := .executing e }, site)
    | (.finished r, site) => (.finished r, site)

/-- What stands between the unit and its next stage. -/
def hindrance? (u : BatchUnit) (site : Site) : Option Hindrance :=
  match u.phase with
  | .sampling call => call.hindrance? site
  | .resting time => some (.moment time)
  | .executing e => e.hindrance? site

end BatchUnit

end PacedPurge
