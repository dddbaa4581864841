import PacedPurge.Bucket.Assembly
import PacedPurge.Site

/-!
# Bucket sources

Buckets cut from a stream of rows as the rows arrive. A source is asked one row at a time
(`BucketSource.pull`), so whoever waits for a bucket can stop asking at any moment and lose
nothing: rows taken so far stay in the source.
-/

namespace PacedPurge

namespace RowSource

/-- The next page of a reading, fetched at once with the ticket that it needs. -/
def fetchPage (scan : KeyedStore.KeyScan) (site : Site) :
    Except StoreError KeyedStore.Page × Site :=
  (site.enter (.page scan)).2.leave (.page scan)

/-- Takes what a page reading brought: its first row, or its end. -/
def takePage (scan : KeyedStore.KeyScan) : Except StoreError KeyedStore.Page →
    Polled Delivery × RowSource
  | .error e => (.ready (.error e), .paged { scan with done := true } [])
  | .ok page =>
    match page.rows (scan.pages + 1) with
    | [] => (.ended, .paged { scan with cursor := page.last, done := true } [])
    | row :: rest =>
      (.ready (.ok row),
        .paged { scan with
          cursor := page.last
          pages := scan.pages + 1
          done := page.exhausted } rest)

/-- Asks for the next row. A page that finds no ticket has to be asked for again. -/
def poll (s : RowSource) (site : Site) : Polled Delivery × RowSource × Site :=
  match s with
  | .known arrivals =>
    let (polled, after) := arrivals.take
    match arrivals.due? site.clock with
    | none => (polled, .known after, site)
    | some due =>
      if site.mayEnd due then (polled, .known after, site.endWait)
      else (.later due, .known (arrivals.ask site.clock), site)
  | .paged scan (row :: rest) => (.ready (.ok row), .paged scan rest, site)
  | .paged scan [] =>
    if scan.done then (.ended, s, site)
    else if site.store.admits (.page scan) then
      let (answer, site) := fetchPage scan site
      let (polled, s) := takePage scan answer
      (polled, s, site)
    else (.later site.clock, s, site)

/-- Whether asking now changes anything: nothing is awaited, or the wait can end. -/
def isReady (s : RowSource) (site : Site) : Bool :=
  match s with
  | .known arrivals => (arrivals.wake?.map site.mayEnd).getD true
  | .paged scan [] => scan.done
  | .paged _ (_ :: _) => true

/-- Whether a worker has to read a page, and there is a ticket for it. -/
def awaitsWorker (s : RowSource) (site : Site) : Bool :=
  match s with
  | .paged scan [] => !scan.done && site.store.admits (.page scan)
  | .known _ | .paged _ (_ :: _) => false

/-- The time for which the stream waits. -/
def wake? : RowSource → Option Nat
  | .known arrivals => arrivals.wake?
  | .paged .. => none

/-- Takes all rows, waiting for each, up to `fuel` of them. -/
def drain (fuel : Nat) (s : RowSource) (site : Site) : List Delivery × Site :=
  match fuel with
  | 0 => ([], site)
  | fuel + 1 =>
    match s.poll site with
    | (.ended, _, site) => ([], site)
    | (.later time, s, site) => drain fuel s (site.await time)
    | (.ready d, s, site) =>
      let (more, site) := drain fuel s site
      (d :: more, site)

end RowSource

/-- Why no bucket could be cut. -/
inductive BucketError where
  /-- The stream delivered an error. -/
  | stream (error : StoreError)
  /-- The stream ended within a bucket. -/
  | truncated (bucket count total : Nat)
  /-- A row was out of place. -/
  | row (fault : RowFault)
  deriving DecidableEq, Repr

namespace BucketError

/-- The wording of an error, outermost text first. -/
def chain : BucketError → List String
  | .stream error => ["bucket generation failed", error.message]
  | .truncated bucket count total =>
    [s!"row stream ended inside bucket {bucket} ({count} of {total} rows)"]
  | .row fault => [fault.message]

/-- The store's error behind it. -/
def storeError? : BucketError → Option StoreError
  | .stream error => some error
  | _ => none

end BucketError

/-- Buckets cut from a stream of rows. -/
structure BucketSource where
  rows : RowSource
  assembly : Assembly
  exhausted : Bool := false

/-- What a source says when it is asked to go on. -/
inductive Pulled where
  /-- A row was taken but completes no bucket. -/
  | taken
  /-- Nothing before this time. -/
  | later (time : Nat)
  | bucket (b : Bucket)
  | ended
  | failed (error : BucketError)

namespace BucketSource

/-- A source on a stream of rows. -/
def ofRows (rows : RowSource) (bucketSize : Nat) : BucketSource := ⟨rows, .start bucketSize, false⟩

/-- How many records have gone out in buckets. -/
def emitted (s : BucketSource) : Nat := s.assembly.emitted

/-- The end of the stream: an error if a bucket is under way, which is then given up. -/
def finish (s : BucketSource) : Pulled × BucketSource :=
  match s.assembly.pending with
  | some p =>
    (.failed (.truncated p.number p.count p.total),
      { s with exhausted := true, assembly := { s.assembly with pending := none } })
  | none => (.ended, { s with exhausted := true })

/-- Takes in what the stream delivered. -/
def take (s : BucketSource) : Delivery → Pulled × BucketSource
  | .error e => (.failed (.stream e), { s with exhausted := true })
  | .ok row =>
    match s.assembly.accept row with
    | .error fault => (.failed (.row fault), s)
    | .ok (some b, assembly) => (.bucket b, { s with assembly })
    | .ok (none, assembly) => (.taken, { s with assembly })

/-- Goes on by one row. -/
def pull (s : BucketSource) (site : Site) : Pulled × BucketSource × Site :=
  if s.exhausted then (.ended, s, site)
  else
    match s.rows.poll site with
    | (.later time, rows, site) => (.later time, { s with rows }, site)
    | (.ended, rows, site) => let (p, s) := finish { s with rows }; (p, s, site)
    | (.ready d, rows, site) => let (p, s) := take { s with rows } d; (p, s, site)

/-- Goes on, waiting where needed, until there is a bucket, an error or the end; `fuel` bounds the
rows and waits. -/
def nextWithin (fuel : Nat) (s : BucketSource) (site : Site) :
    Except BucketError (Option Bucket) × BucketSource × Site :=
  match fuel with
  | 0 => (.ok none, s, site)
  | fuel + 1 =>
    match s.pull site with
    | (.taken, s, site) => nextWithin fuel s site
    | (.later time, s, site) => nextWithin fuel s (site.await time)
    | (.bucket b, s, site) => (.ok (some b), s, site)
    | (.ended, s, site) => (.ok none, s, site)
    | (.failed e, s, site) => (.error e, s, site)

/-- The next bucket, waited for. A bucket has no more rows than its limit, and each is waited for
at most once. -/
def next (s : BucketSource) (site : Site) :
    Except BucketError (Option Bucket) × BucketSource × Site :=
  nextWithin (2 * s.assembly.limit + 2) s site

end BucketSource

end PacedPurge
