import PacedPurge.CommandLine.Arguments
import PacedPurge.Plan.Variables
import PacedPurge.Rehearsal.Records

/-!
# Invocations

What the command line can be told to do. General options stand before the name of a command and
its own options behind it. Options that describe a plan take the place of the variables of the
plan, so both are read by the same rules afterwards.
-/

namespace PacedPurge.CommandLine

/-- The value of an option. -/
inductive OptionValue where
  | text (s : String)
  | number (n : Nat)
  deriving DecidableEq, Repr

/-- The text of a value. -/
def OptionValue.toText : OptionValue → String
  | .text s => s
  | .number n => toString n

/-! ## Values -/

/-- Any text. -/
def readText (s : String) : Option OptionValue := some (.text s)

/-- A text that is not empty. -/
def readPath (s : String) : Option OptionValue := if s.isEmpty then none else some (.text s)

/-- A number of 64 bits. -/
def readWord (s : String) : Option OptionValue :=
  match Unsigned.parse UInt64.size s with
  | .ok n => some (.number n)
  | .error _ => none

/-- A smaller number, which may carry a sign; only zero can be negative. -/
def readSmall (bound : Nat) (s : String) : Option OptionValue :=
  match s.toList with
  | '-' :: c :: rest =>
    match Unsigned.readDigits 1 0 (c :: rest) with
    | .ok n => some (.number n)
    | .error _ => none
  | _ =>
    match Unsigned.parse bound s with
    | .ok n => some (.number n)
    | .error _ => none

/-- Exactly `true` or `false`. -/
def readSwitch (s : String) : Option OptionValue :=
  if s = "true" || s = "false" then some (.text s) else none

/-- A duration, passed on in its regular form. -/
def readInterval (s : String) : Option OptionValue :=
  (Duration.parse s).map fun d => .text d.text

/-! ## Options -/

/-- The options that say which records are meant, with the variables that they replace. -/
def targetSettings : List (Setting OptionValue × Variable) :=
  [(⟨"database", readText⟩, .database),
   (⟨"collection", readText⟩, .collection),
   (⟨"filter", readText⟩, .filter),
   (⟨"collation", readText⟩, .collation)]

/-- The options that say how to purge, with the variables that they replace. -/
def purgeSettings : List (Setting OptionValue × Variable) :=
  [(⟨"safeguard", readSwitch⟩, .safeguard),
   (⟨"hint", readText⟩, .hint),
   (⟨"bucket-size", readWord⟩, .bucketSize),
   (⟨"concurrency", readWord⟩, .concurrency),
   (⟨"transient-retries", readSmall UInt32.size⟩, .retries),
   (⟨"progress-interval", readInterval⟩, .progressInterval)]

/-- The options of a rehearsal. -/
def rehearsalSettings : List (Setting OptionValue) :=
  [⟨"database", readText⟩, ⟨"collection", readText⟩, ⟨"count", readWord⟩,
   ⟨"expired-pct", readSmall UInt8.size⟩, ⟨"seed", readWord⟩]

/-- The options that stand before the name of a command. -/
def generalSettings : List (Setting OptionValue) :=
  [⟨"data-dir", readPath⟩, ⟨"cache-mb", readWord⟩]

/-! ## Commands -/

/-- Texts that take the place of variables. -/
abbrev Overrides := List (Variable × String)

/-- The variables with texts in the place of some of them. -/
def Overrides.replacing (overrides : Overrides) (vars : Variables) : Variables := fun v =>
  match overrides.find? (·.1 == v) with
  | some entry => some entry.2
  | none => vars v

/-- What the command line can do. -/
inductive Command where
  /-- Carry out a plan. -/
  | run (overrides : Overrides)
  /-- Count the records that a plan selects. -/
  | count (overrides : Overrides)
  /-- Show how busy the store is. -/
  | status
  /-- Add the records of a rehearsal to a collection. -/
  | seed (ns : Namespace) (rehearsal : Rehearsal)

/-- A command, and where its store is kept. -/
structure Invocation where
  dataDirectory : String
  cacheMegabytes : Nat
  command : Command

/-- The text of an option, or the one that holds when it is not given. -/
def Given.textOr (given : Given OptionValue) (name standard : String) : String :=
  match given.get? name with
  | some value => value.toText
  | none => standard

/-- The number of an option, or the one that holds when it is not given. -/
def Given.numberOr (given : Given OptionValue) (name : String) (standard : Nat) : Nat :=
  match given.get? name with
  | some (.number n) => n
  | _ => standard

/-- The text of an option that must be given. -/
def Given.required (given : Given OptionValue) (name : String) : Except Stop String :=
  match given.get? name with
  | some value => .ok value.toText
  | none => .error (.fault (.missingOption name))

/-- What the options that were given put in the place of variables. -/
def Given.overrides (given : Given OptionValue) (settings : List (Setting OptionValue × Variable)) :
    Overrides :=
  settings.filterMap fun s => (given.get? s.1.name).map fun value => (s.2, value.toText)

/-- Reads the options of a command, behind which nothing stands but perhaps two dashes. -/
def readCommandOptions (settings : List (Setting OptionValue)) (arguments : List String) :
    Except Stop (Given OptionValue) :=
  match Given.readOptions settings [] arguments with
  | .error stop => .error stop
  | .ok (given, []) | .ok (given, ["--"]) => .ok given
  | .ok (_, "--" :: argument :: _) | .ok (_, argument :: _) =>
    .error (.fault (.unexpected argument))

namespace Command

/-- The names that a command can have. -/
def names : List String := ["run", "count", "status", "seed", "help"]

/-- What comes of asking for help on commands: none of them has commands of its own, so only one
can be named. -/
def helpAbout : List String → Stop
  | [] => .help
  | name :: rest =>
    if names.contains name then
      match rest with
      | [] => .help
      | other :: _ => .fault (.unknownCommand other)
    else .fault (.unknownCommand name)

/-- Reads the options of the command of a name. -/
def ofArguments (name : String) (arguments : List String) : Except Stop Command := do
  match name with
  | "run" =>
    let settings := targetSettings ++ purgeSettings
    let given ← readCommandOptions (settings.map (·.1)) arguments
    return .run (given.overrides settings)
  | "count" =>
    let given ← readCommandOptions (targetSettings.map (·.1)) arguments
    return .count (given.overrides targetSettings)
  | "status" =>
    let _ ← readCommandOptions [] arguments
    return .status
  | "seed" =>
    let given ← readCommandOptions rehearsalSettings arguments
    let ns : Namespace := ⟨← given.required "database", ← given.required "collection"⟩
    let standard : Rehearsal := {}
    return .seed ns
      { count := given.numberOr "count" standard.count
        expiredPercent := given.numberOr "expired-pct" standard.expiredPercent
        seed := UInt64.ofNat (given.numberOr "seed" standard.seed.toNat) }
  | "help" => throw (helpAbout arguments)
  | other => throw (.fault (.unknownCommand other))

end Command

namespace Invocation

/-- Where a store is kept when nothing is said. -/
def standardDirectory : String := ".bulk_purge/data"

/-- How large the cache of a store is when nothing is said. -/
def standardCache : Nat := 64

/-- What the arguments ask for. -/
def ofArguments (arguments : List String) : Except Stop Invocation := do
  let (given, rest) ← Given.readOptions generalSettings [] arguments
  match rest with
  | [] => throw (.fault .noCommand)
  | name :: rest =>
    let command ← Command.ofArguments name rest
    return {
      dataDirectory := given.textOr "data-dir" standardDirectory
      cacheMegabytes := given.numberOr "cache-mb" standardCache
      command }

end Invocation

end PacedPurge.CommandLine
