import PacedPurge.Number.Unsigned
import PacedPurge.Plan.Basic

/-!
# Plans from variables

A plan may be given as texts under fixed names, as an environment holds them. Only the database and
the collection must be there. Variables are read in a fixed order, and the first one that makes no
sense is reported.
-/

namespace PacedPurge

/-- The variables that make a plan. -/
inductive Variable where
  | database
  | collection
  | filter
  | hint
  | collation
  | safeguard
  | bucketSize
  | concurrency
  | retries
  | progressInterval
  deriving DecidableEq, Repr

/-- The name of a variable. -/
def Variable.name : Variable → String
  | .database => "BULK_PURGE_DATABASE"
  | .collection => "BULK_PURGE_COLLECTION"
  | .filter => "BULK_PURGE_FILTER"
  | .hint => "BULK_PURGE_HINT"
  | .collation => "BULK_PURGE_COLLATION"
  | .safeguard => "BULK_PURGE_SAFEGUARD"
  | .bucketSize => "BULK_PURGE_BUCKET_SIZE"
  | .concurrency => "BULK_PURGE_CONCURRENCY"
  | .retries => "BULK_PURGE_TRANSIENT_RETRIES"
  | .progressInterval => "BULK_PURGE_PROGRESS_INTERVAL"

/-- All variables, in the order in which they are read. -/
def Variable.all : List Variable :=
  [.database, .collection, .filter, .hint, .collation, .safeguard, .bucketSize, .concurrency,
   .retries, .progressInterval]

/-- The texts given under the names of variables. -/
abbrev Variables := Variable → Option String

/-- Why variables make no plan. -/
inductive VariableError where
  | missing (name : Variable)
  | badFilter (error : FilterTextError)
  | badBool (raw : String)
  /-- The text is no number of the width named by `type`. -/
  | badNumber (type raw : String) (fault : UnsignedFault)
  | badDuration (raw : String)

/-- The text that stands for the fault of a duration. -/
def durationFault : String := "<duration error>"

/-- The wording of an error, outermost text first. -/
def VariableError.chain : VariableError → List String
  | .missing name => [name.name ++ " is required"]
  | .badFilter error => ["invalid " ++ Variable.filter.name, error.message]
  | .badBool raw => ["invalid bool value: " ++ raw]
  | .badNumber type raw fault => ["invalid " ++ type ++ " value: " ++ raw, fault.message]
  | .badDuration raw => ["invalid duration value: " ++ raw, durationFault]

namespace Variables

/-- An ASCII text in lower case. -/
def asciiLower (s : String) : String := String.ofList (s.toList.map Char.toLower)

/-- Yes or no: blanks around the word and its case do not count. -/
def readBool (raw : String) : Except VariableError Bool :=
  let word := asciiLower (Text.trim raw)
  if ["1", "true", "yes", "on"].contains word then .ok true
  else if ["0", "false", "no", "off"].contains word then .ok false
  else .error (.badBool raw)

/-- A number of 64 bits. -/
def readSize (raw : String) : Except VariableError Nat :=
  (Unsigned.parse UInt64.size raw).mapError (.badNumber "usize" raw)

/-- A number of 32 bits. -/
def readCount (raw : String) : Except VariableError UInt32 :=
  ((Unsigned.parse UInt32.size raw).mapError (.badNumber "u32" raw)).map UInt32.ofNat

/-- A duration. -/
def readDuration (raw : String) : Except VariableError Duration :=
  match Duration.parse raw with
  | some d => .ok d
  | none => .error (.badDuration raw)

/-- A filter. -/
def readFilter (raw : String) : Except VariableError Filter :=
  (Filter.parse raw).mapError .badFilter

/-- What a reader makes of a variable, or the value that holds when it is not given. -/
def orElse {α : Type} (raw : Option String) (read : String → Except VariableError α)
    (standard : α) : Except VariableError α :=
  match raw with
  | some raw => read raw
  | none => .ok standard

/-- What a reader makes of a variable, if it is given. -/
def optional {α : Type} (raw : Option String) (read : String → Except VariableError α) :
    Except VariableError (Option α) :=
  match raw with
  | some raw => (read raw).map some
  | none => .ok none

/-- The text of a variable that must be there. -/
def required (vars : Variables) (name : Variable) : Except VariableError String :=
  match vars name with
  | some raw => .ok raw
  | none => .error (.missing name)

/-- The text of a variable, where an empty one means none. -/
def nonEmpty (vars : Variables) (name : Variable) : Option String :=
  (vars name).filter (!·.isEmpty)

/-- The plan that the variables make. -/
def plan (vars : Variables) : Except VariableError Plan := do
  let database ← required vars .database
  let collection ← required vars .collection
  let filter ← orElse (vars .filter) readFilter .matchAll
  let safeguard ← orElse (vars .safeguard) readBool true
  let bucketSize ← orElse (vars .bucketSize) readSize 100
  let concurrency ← optional (vars .concurrency) readSize
  let retries ← orElse (vars .retries) readCount 0
  let progressInterval ← optional (vars .progressInterval) readDuration
  return { database, collection, filter, hint := nonEmpty vars .hint,
           collation := nonEmpty vars .collation, safeguard, bucketSize, concurrency, retries,
           progressInterval }

end Variables

end PacedPurge
