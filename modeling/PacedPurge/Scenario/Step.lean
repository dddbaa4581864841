import PacedPurge.Purge.Run
import PacedPurge.Together

/-!
# Steps of a scenario

A scenario drives one site by hand: it puts records into the store, sets the store and its gate up,
makes single calls, keeps transactions and bucket sources open under names, and lets the parts of a
purge work. This module says what steps there are and what they answer.
-/

namespace PacedPurge.Scenario

/-- One thing to do. -/
inductive Step where
  | insert (ns : Namespace) (docs : List (RecordId × Document))
  /-- How many records a collection has. -/
  | size (ns : Namespace)
  | contains (ns : Namespace) (ids : List RecordId)
  | setStatus (mode : StatusMode)
  /-- Counters to report before the regular ones. -/
  | script (sequence : List Counters)
  | latency (ms : Nat)
  /-- How many of the next deletes are to fail. -/
  | failNext (count : Nat)
  /-- What the store has counted. -/
  | gauges
  | disturb (kind : Method) (items : List Disturbance)
  /-- Close the store and open it again. -/
  | reopen
  | status
  | rows (ns : Namespace) (query : Query)
  | count (ns : Namespace) (filter : Filter) (collation : Option String)
  | delete (ns : Namespace) (ids : List RecordId) (session : Session)
  /-- Deletes made together. -/
  | deleteTogether (ns : Namespace) (batches : List (List RecordId)) (session : Session)
  /-- Deletes made together, looked at when all that can are in the store. -/
  | crowdDeletes (ns : Namespace) (batches : List (List RecordId)) (session : Session)
  | begin (name : String) (session : Session)
  | stage (name : String) (ns : Namespace) (ids : List RecordId)
  | commit (name : String)
  | abort (name : String)
  /-- Let a transaction go. -/
  | forget (name : String)
  | openSource (name : String) (ns : Namespace) (query : Query)
  | nextBucket (name : String)
  | sample (thresholds : Thresholds)
  | execute (task : Assignment)
  | verify (ns : Namespace) (filter : Filter) (collation : Option String) (simulate : Bool)
  /-- A pool on rows that are given. -/
  | poolOnRows (settings : PoolSettings) (rows : List Arrival) (bucketSize : Nat)
  /-- A pool on the rows of a query. -/
  | poolOnQuery (settings : PoolSettings) (query : Query)
  | run (plan : Plan)

/-- What a step answers. -/
inductive Reply where
  | done
  | flag (b : Bool)
  | flags (bs : List Bool)
  | number (n : Nat)
  | failed (e : StoreError)
  | gauges (statusCalls deleteCalls peak : Nat)
  | counters (c : Counters)
  | deliveries (rows : List Delivery)
  | answers (results : List (Except StoreError Nat))
  /-- Which deletes were still under way, how many tickets were out, and what came of them. -/
  | crowded (pending : List Bool) (out : Nat) (results : List (Except StoreError Nat))
  | aborted (answer : Except StoreError Unit) (events : List Event)
  | noTransaction
  | noSource
  | opened (events : List Event)
  | notOpened (e : OpenError)
  | bucket (answer : Except BucketError (Option Bucket)) (emitted : Nat)
  | snapshot (s : Snapshot) (events : List Event)
  | notSampled (e : StoreError)
  | executed (ns : Namespace) (result : ExecutionResult) (events : List Event)
  | verified (v : Verification) (events : List Event)
  | notVerified (ns : Namespace) (e : StoreError)
  | pooled (width : Nat) (verdict : Except PoolError Totals) (results : List ExecutionResult)
      (events : List Event)
  | ran (answer : Except PurgeError Report) (events : List Event)
  /-- The step did not come to its end in the time it was given. -/
  | unfinished

end PacedPurge.Scenario
