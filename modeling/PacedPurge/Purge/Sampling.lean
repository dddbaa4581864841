import PacedPurge.Load.Snapshot
import PacedPurge.Site

/-!
# Sampling the load

Taking a snapshot of a store that is asked for its counters. A store that does not tell its
counters is taken to be idle, and that is reported; any other failure to get them is an error.
-/

namespace PacedPurge

/-- The counters of an answer, if it can be decided on. -/
def countersOf : Except StoreError Counters → Except StoreError Counters
  | .ok c => .ok c
  | .error e => if e.isUnavailable then .ok {} else .error e

/-- What is reported about an answer to a request for counters. -/
def statusEvents : Except StoreError Counters → List Event
  | .ok _ => []
  | .error e => if e.isUnavailable then [.statusUnavailable e] else []

/-- The wording of an error that leaves a client without a snapshot, outermost text first. -/
def Snapshot.errorChain (e : StoreError) : List String :=
  ["sample store resource counters", e.message]

/-- Asks the store of a site for its counters, and takes a snapshot of them. -/
def Snapshot.take (thresholds : Thresholds) (site : Site) : Except StoreError Snapshot × Site :=
  let (answer, site) := site.call .status
  let site := site.report (statusEvents answer)
  ((countersOf answer).map fun c => Snapshot.ofCounters c thresholds, site)

end PacedPurge
