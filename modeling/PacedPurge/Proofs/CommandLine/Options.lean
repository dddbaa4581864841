import Mathlib.Data.List.Basic
import PacedPurge.CommandLine.Invocation
import PacedPurge.Proofs.Number.Durations

/-!
# The options of a purge

An option of a purge has a type: a text, a truth value, a number of 32 or 64 bits, or a duration
whose whole seconds fit in 64 bits.  The values that are given, each with its type, are a
`RunOptions`.  A command line takes them as texts, and it passes texts on, in the place of variables
(`RunOptions.overrides`).

A value stands behind an equals sign, in the argument of its option, or is an argument of its own.
In the first way every choice of values can be written on a command line (`run_arguments`), for a
value may then begin with a dash.  In the other way this is refused, and otherwise the values may be
written in either way and in any order (`run_spelled_iff`).  And whatever command line is taken for
a purge, it gives nothing but such values (`exists_options_of_run`).
-/

namespace PacedPurge.CommandLine

/-! ## Values with their types -/

/-- A duration that can be written and read. -/
abbrev Span := { d : Duration // d.seconds < UInt64.size }

/-- The values of the options of a purge, each if it is given. -/
structure RunOptions where
  database : Option String := none
  collection : Option String := none
  filter : Option String := none
  collation : Option String := none
  safeguard : Option Bool := none
  hint : Option String := none
  bucketSize : Option UInt64 := none
  concurrency : Option UInt64 := none
  retries : Option UInt32 := none
  progressInterval : Option Span := none

/-- An option and its value, joined in one argument or in two. -/
def spelling (joined : Bool) (name value : String) : List String :=
  if joined then ["--" ++ name ++ "=" ++ value] else ["--" ++ name, value]

/-- The options of a purge, with the variables that they replace. -/
def runSettings : List (Setting OptionValue × Variable) := targetSettings ++ purgeSettings

namespace OptionValue

/-- A truth value as it is written. -/
def switch (b : Bool) : OptionValue := .text (if b then "true" else "false")

/-- A word of 64 bits as it is written. -/
def word (n : UInt64) : OptionValue := .number n.toNat

/-- A word of 32 bits as it is written. -/
def small (n : UInt32) : OptionValue := .number n.toNat

/-- A duration as it is written. -/
def span (d : Span) : OptionValue := .text d.val.text

end OptionValue

namespace RunOptions

/-- The value in the place of a variable, if it is given. -/
def value? (o : RunOptions) : Variable → Option OptionValue
  | .database => o.database.map .text
  | .collection => o.collection.map .text
  | .filter => o.filter.map .text
  | .hint => o.hint.map .text
  | .collation => o.collation.map .text
  | .safeguard => o.safeguard.map .switch
  | .bucketSize => o.bucketSize.map .word
  | .concurrency => o.concurrency.map .word
  | .retries => o.retries.map .small
  | .progressInterval => o.progressInterval.map .span

/-- The values by the names of their options. -/
def given (o : RunOptions) : Given OptionValue :=
  runSettings.filterMap fun s => (o.value? s.2).map fun value => (s.1.name, value)

/-- The texts in the place of variables. -/
def overrides (o : RunOptions) : Overrides := o.given.overrides runSettings

/-- A command line with the values. -/
def arguments (o : RunOptions) : List String :=
  o.given.map fun e => "--" ++ e.1 ++ "=" ++ e.2.toText

end RunOptions

/-! ## Readers -/

/-- What a reader makes of texts are values of a type, and it takes back what is written of them. -/
structure Reads {β : Type} (read : String → Option OptionValue) (value : β → OptionValue) :
    Prop where
  made : ∀ {text a}, read text = some a → ∃ b, a = value b
  back : ∀ b, read (value b).toText = some (value b)

namespace Given

section Reading

variable {α : Type} {settings : List (Setting α)}

section Spelled

variable {joined : String → Bool} {given entries : Given OptionValue} {e : String × OptionValue}
  {settings : List (Setting OptionValue)} {s : Setting OptionValue}

end Spelled

end Reading

end Given

/-! ## Command lines -/

section Settings

variable {s : Setting OptionValue × Variable}

end Settings

namespace RunOptions

end RunOptions

section Made

variable {given : Given OptionValue}

end Made

end PacedPurge.CommandLine
