import PacedPurge.Duration
import PacedPurge.Load.Admission
import PacedPurge.Namespace
import PacedPurge.StoreError

/-!
# The journal

What a purge and a store report while they work. An event is named for what happened and carries
what it tells; its level, its message and its fields are read off it.
-/

namespace PacedPurge

/-- How much an event matters. -/
inductive Severity where
  | debug
  | info
  | warn
  deriving DecidableEq, Repr, Inhabited

/-- The name of a level. -/
def Severity.name : Severity → String
  | .debug => "DEBUG"
  | .info => "INFO"
  | .warn => "WARN"

/-- Something that was reported. -/
inductive Event where
  /-- A purge begins. -/
  | purging (ns : Namespace) (filter : String) (safeguard : Bool) (bucketSize width : Nat)
  /-- The store cannot follow the hint of a query. -/
  | hintIgnored (hint : String)
  /-- The store reports no counters. -/
  | statusUnavailable (error : StoreError)
  /-- A bucket was turned away and will ask again. -/
  | heldBack (bucket : Nat) (pressure : Pressure)
  /-- A delete failed and is tried again. -/
  | deleteRetried (bucket attempt : Nat) (error : StoreError)
  /-- A delete failed for good. -/
  | deleteFailed (bucket attempts : Nat) (error : StoreError)
  /-- A simulated delete could not be rolled back in the regular way. -/
  | abortFailed (bucket : Nat) (error : StoreError)
  /-- A transaction with staged deletes was aborted. -/
  | stagedDiscarded (namespaces : Nat)
  /-- A unit failed when the pool was already stopping; the texts run outermost first. -/
  | lateFailure (chain : List String)
  | progress (buckets deleted failed inFlight elapsedSeconds : Nat)
  | bucketSimulated (bucket count : Nat)
  | bucketDeleted (bucket count : Nat)
  | bucketFailed (bucket count : Nat) (error : String)
  | nothingMatched (ns : Namespace)
  /-- The records that match after a purge were counted. -/
  | residual (ns : Namespace) (count : Nat)
  | rolledBack
  deriving DecidableEq, Repr

namespace Event

/-- How much the event matters. -/
def severity : Event → Severity
  | .hintIgnored _ | .statusUnavailable _ | .deleteRetried .. => .debug
  | .deleteFailed .. | .abortFailed .. | .stagedDiscarded _ | .lateFailure _
  | .bucketFailed .. => .warn
  | _ => .info

/-- On or off. -/
def switch (b : Bool) : String := if b then "on" else "off"

/-- The message of the event. -/
def message : Event → String
  | .purging ns filter safeguard _ _ =>
    s!"purging {ns} where {filter} (safeguard {switch safeguard})"
  | .hintIgnored _ => "fjall store has no secondary indexes; ignoring hint"
  | .statusUnavailable _ => "server status unavailable; using default counters"
  | .heldBack bucket _ => s!"batch {bucket} awaiting scheduling due to back pressure"
  | .deleteRetried .. => "transient delete failure; retrying bucket"
  | .deleteFailed bucket _ _ => s!"delete failed for batch {bucket}"
  | .abortFailed .. => "abort of simulated delete failed"
  | .stagedDiscarded _ => "discarding staged deletes on transaction abort"
  | .lateFailure _ => "additional unit failure while stopping"
  | .progress .. => "purge progress"
  | .bucketSimulated bucket count => s!"batch {bucket} would delete {count} documents"
  | .bucketDeleted bucket count => s!"batch {bucket} deleted {count} documents"
  | .bucketFailed bucket _ _ => s!"batch {bucket} failed"
  | .nothingMatched _ => "no matching documents"
  | .residual ns count => s!"{count} documents matching the filter remain in {ns}"
  | .rolledBack => "safeguard enabled: deletes were rolled back and nothing was removed"

/-- The fields of the event, as texts. -/
def fields : Event → List (String × String)
  | .purging ns filter safeguard bucketSize width =>
    [("namespace", ns.text), ("filter", filter), ("safeguard", toString safeguard),
     ("bucket_size", toString bucketSize), ("width", toString width)]
  | .hintIgnored hint => [("hint", hint)]
  | .statusUnavailable error => [("error", error.message)]
  | .heldBack bucket pressure => [("bucket", toString bucket), ("reason", pressure.reason)]
  | .deleteRetried bucket attempt error =>
    [("bucket", toString bucket), ("attempt", toString attempt), ("error", error.message)]
  | .deleteFailed bucket attempts error =>
    [("bucket", toString bucket), ("attempts", toString attempts), ("error", error.message)]
  | .abortFailed bucket error => [("bucket", toString bucket), ("error", error.message)]
  | .stagedDiscarded namespaces => [("namespaces", toString namespaces)]
  | .lateFailure chain => [("error", ": ".intercalate chain)]
  | .progress buckets deleted failed inFlight elapsedSeconds =>
    [("buckets", toString buckets), ("deleted", toString deleted), ("failed", toString failed),
     ("in_flight", toString inFlight),
     ("elapsed", Duration.text ⟨elapsedSeconds * Duration.perSecond⟩)]
  | .bucketSimulated bucket count | .bucketDeleted bucket count =>
    [("bucket", toString bucket), ("deleted", toString count)]
  | .bucketFailed bucket count error =>
    [("bucket", toString bucket), ("deleted", toString count), ("error", error)]
  | .nothingMatched ns => [("namespace", ns.text)]
  | .residual ns count => [("namespace", ns.text), ("residual", toString count)]
  | .rolledBack => []

end Event

end PacedPurge
