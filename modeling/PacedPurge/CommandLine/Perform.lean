import PacedPurge.CommandLine.ErrorText
import PacedPurge.CommandLine.Invocation
import PacedPurge.Purge.Run
import PacedPurge.Wire

/-!
# Performing commands

What a command does to a site, and what it shows: a text on the output when it succeeds, the error
with its causes when it fails. Arguments that make no command are refused before a store is opened.
-/

namespace PacedPurge.CommandLine

/-- What whoever called the command gets to see. -/
structure Outcome where
  exitCode : UInt32 := 0
  output : String := ""
  errors : String := ""
  deriving DecidableEq, Repr, Inhabited

namespace Outcome

/-- A command that succeeded, and what it shows. -/
def success (line : String) : Outcome := { output := line ++ "\n" }

/-- A command that failed: the wording of its error, outermost text first. -/
def failure (chain : List String) : Outcome := { exitCode := 1, errors := errorText chain }

/-- How to call the command. -/
def helpText : String :=
  "usage: paced-purge [--data-dir DIR] [--cache-mb MB] COMMAND [OPTION VALUE]...\n\n" ++
  "  run     delete the records that match a filter\n" ++
  "  count   count the records that match a filter\n" ++
  "  status  show how busy the store is\n" ++
  "  seed    add records for a rehearsal"

/-- Arguments that make no command. -/
def stopped : Stop → Outcome
  | .help => success helpText
  | .fault f => { exitCode := 2, errors := "error: " ++ f.message ++ "\n\n" ++ helpText ++ "\n" }

end Outcome

namespace Command

/-- The wording of a purge that did not come to its end in the moves that it was given. -/
def unfinishedChain : List String := ["the purge did not come to its end"]

/-- Carries out a plan. -/
def performRun (fuel : Nat) (vars : Variables) (site : Site) : Outcome × Site :=
  match vars.plan with
  | .error e => (.failure e.chain, site)
  | .ok plan =>
    match plan.run fuel site with
    | (some (.ok report), site) => (.success report.toJson.indented, site)
    | (some (.error e), site) => (.failure e.chain, site)
    | (none, site) => (.failure unfinishedChain, site)

/-- Counts the records that a plan selects. -/
def performCount (vars : Variables) (site : Site) : Outcome × Site :=
  match vars.plan with
  | .error e => (.failure e.chain, site)
  | .ok plan =>
    match plan.fault? with
    | some fault => (.failure fault.chain, site)
    | none =>
      match Verification.take plan.target plan.filter plan.collation false site with
      | (.error e, site) => (.failure (Verification.errorChain plan.target e), site)
      | (.ok v, site) => (.success (toString v.residual), site)

/-- Shows how busy the store is. -/
def performStatus (site : Site) : Outcome × Site :=
  match Snapshot.take .standard site with
  | (.error e, site) => (.failure (Snapshot.errorChain e), site)
  | (.ok snapshot, site) => (.success snapshot.toJson.indented, site)

/-- Adds records to a collection; nothing is asked of the store when there are none. -/
def performSeed (ns : Namespace) (records : List (RecordId × Document)) (site : Site) :
    Outcome × Site :=
  if records.isEmpty then (.success "ok", site)
  else
    match site.store.insertAll ns records with
    | .error e => (.failure [s!"seed {ns}", e.message], site)
    | .ok (_, store) => (.success "ok", { site with store })

/-- Performs a command; `fuel` bounds the moves of a purge. -/
def perform (fuel : Nat) (vars : Variables) (site : Site) : Command → Outcome × Site
  | .run overrides => performRun fuel (overrides.replacing vars) site
  | .count overrides => performCount (overrides.replacing vars) site
  | .status => performStatus site
  | .seed ns rehearsal => performSeed ns rehearsal.records site

end Command

/-- Performs the command that the arguments ask for. -/
def performArguments (fuel : Nat) (arguments : List String) (vars : Variables) (site : Site) :
    Outcome × Site :=
  match Invocation.ofArguments arguments with
  | .error stop => (.stopped stop, site)
  | .ok invocation => invocation.command.perform fuel vars site

end PacedPurge.CommandLine
