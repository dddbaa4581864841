import PacedPurge.Site

/-!
# Verification

How many records still match after a purge.
-/

namespace PacedPurge

/-- What is left of the records that a purge was to remove. -/
structure Verification where
  residual : Nat
  /-- Nothing was meant to be removed. -/
  simulated : Bool
  deriving DecidableEq, Repr, Inhabited

namespace Verification

/-- What is reported about a verification. -/
def events (v : Verification) (ns : Namespace) : List Event :=
  .residual ns v.residual :: (if v.simulated then [.rolledBack] else [])

/-- Counts the records of a collection that match. -/
def take (ns : Namespace) (filter : Filter) (collation : Option String) (simulate : Bool)
    (site : Site) : Except StoreError Verification × Site :=
  match site.call (.count ns filter collation) with
  | (.error e, site) => (.error e, site)
  | (.ok n, site) =>
    let v : Verification := ⟨n, simulate⟩
    (.ok v, site.report (v.events ns))

/-- The wording of an error, outermost text first. -/
def errorChain (ns : Namespace) (e : StoreError) : List String :=
  ["count residual documents in " ++ ns.text, e.message]

end Verification

end PacedPurge
