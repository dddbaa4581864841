import PacedPurge.Text.Quoted

/-!
# Errors of a store

The reasons for which a store refuses or fails a call. Two questions are asked of an error: whether
the same call may succeed when it is made again (`StoreError.isTransient`), and whether the store
merely lacks what was asked for (`StoreError.isUnavailable`).
-/

namespace PacedPurge

/-- Why a store did not answer a call. -/
inductive StoreError where
  | unsupported (what : String)
  | unauthorized (what : String)
  | transient (what : String)
  | invalidFilter (what : String)
  | invalidNamespace (name : String)
  | storage (what : String)
  /-- A stored document cannot be read. -/
  | encoding
  deriving DecidableEq, Repr, Inhabited

namespace StoreError

/-- The wording of an error. -/
def message : StoreError → String
  | .unsupported what => "operation not supported: " ++ what
  | .unauthorized what => "not authorized: " ++ what
  | .transient what => "transient transaction error: " ++ what
  | .invalidFilter what => "invalid filter: " ++ what
  | .invalidNamespace name => "invalid namespace " ++ Text.quoted name
  | .storage what => "storage error: " ++ what
  | .encoding => "document encoding error"

/-- Whether the call may succeed when it is made again. -/
def isTransient : StoreError → Bool
  | .transient _ => true
  | _ => false

/-- Whether the store lacks what was asked for, rather than failing at it. -/
def isUnavailable : StoreError → Bool
  | .unsupported _ | .unauthorized _ => true
  | _ => false

end StoreError

end PacedPurge
