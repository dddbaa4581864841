import PacedPurge.Line

/-!
# Calls made together

Several calls of one client that are under way at the same time. When all wait, time passes. Of
those that can go further, a client with few calls sees first to the one that it made first; one
with many calls has them stand in line (`Line`). What workers have done is asked for last.
-/

namespace PacedPurge

/-- A call under way, with its number in the order in which the calls were made. -/
structure Numbered (α : Type) where
  number : Nat
  outcome : Outcome α

/-- Calls under way, in the order in which the client sees to them. -/
abbrev Together (α : Type) := Line (Numbered α)

namespace Together

variable {α : Type}

/-- Calls that all set out. -/
def start (requests : List (Request α)) : Together α :=
  requests.mapIdx fun number r => ⟨⟨number, .waiting (.start r)⟩, .inLine⟩

/-- How many calls a client has in view at once. -/
def inView : Nat := 30

/-- Whether the calls stand in line. -/
def standInLine (calls : Together α) : Bool := inView < calls.length

/-- What stands in the way of a call. -/
def hindrance? (site : Site) (c : Numbered α) : Option Hindrance :=
  match c.outcome with
  | .waiting call => call.hindrance? site
  | .answered _ => none

/-- Whether a call has its turn. -/
def hasTurn (site : Site) (a : Attended (Numbered α)) : Bool :=
  match a.task.outcome with
  | .waiting call => a.standing.hasTurn site (call.hindrance? site)
  | .answered _ => false

/-- Whether a call waits for a worker. -/
def awaitsWorker (site : Site) (a : Attended (Numbered α)) : Bool :=
  a.standing.awaitsWorker (hindrance? site a.task)

/-- Takes a call one stage further. -/
def advanceOne (c : Numbered α) (site : Site) : Numbered α × Site :=
  match c.outcome with
  | .waiting call => let (outcome, site) := call.advance site; ({ c with outcome }, site)
  | .answered _ => (c, site)

/-- Whether a call waits for the store: for a ticket or a worker. -/
def awaitsStore (site : Site) (a : Attended (Numbered α)) : Bool :=
  a.standing = .waiting && ((hindrance? site a.task).bind Hindrance.moment?).isNone

/-- Puts a call back that has had its turn. Those that wait for the store stand in line always: it
gives out its tickets, and its workers are asked for their work, in the order in which the calls
came to it. -/
def put (calls : Together α) (position : Nat) (c : Numbered α) (site : Site) : Together α :=
  let a : Attended (Numbered α) := ⟨c, .afterTurn site (hindrance? site c)⟩
  if calls.standInLine || awaitsStore site a then Line.put calls position a
  else calls.set position a

/-- The first call that is ready goes; none if no call is. -/
def advance? (ready : Attended (Numbered α) → Bool) (calls : Together α) (site : Site) :
    Option (Together α × Site) := do
  let position ← calls.findIdx? ready
  let a ← calls[position]?
  let (c, site) := advanceOne a.task site
  return (put calls position c site, site)

/-- The calls when a round begins. -/
def nextRound (calls : Together α) : Together α :=
  if calls.standInLine then Line.nextRound calls else calls.map Line.rejoin

/-- The first moment that a call waits for. -/
def wake? (site : Site) : Together α → Option Nat
  | [] => none
  | a :: rest =>
    match (hindrance? site a.task).bind Hindrance.moment?, wake? site rest with
    | some t, some u => some (min t u)
    | some t, none => some t
    | none, u => u

/-- Makes a move: a turn; else a round that begins with those put off; else what a worker hands
back; else a wait. None if nothing is to be done. -/
def move? (calls : Together α) (site : Site) : Option (Together α × Site) :=
  match advance? (hasTurn site) calls site with
  | some moved => some moved
  | none =>
    if calls.hasPutOff then some (nextRound calls, site.newRound)
    else
      match advance? (awaitsWorker site) calls site with
      | some moved => some moved
      | none => (wake? site calls).map fun time => (calls, site.waitUntil time)

/-- Goes on for at most `fuel` moves. -/
def run (fuel : Nat) (calls : Together α) (site : Site) : Together α × Site :=
  match fuel with
  | 0 => (calls, site)
  | fuel + 1 =>
    match move? calls site with
    | none => (calls, site)
    | some (calls, site) => run fuel calls site

/-- The outcome of the call of a number. -/
def outcome? (calls : Together α) (number : Nat) : Option (Outcome α) :=
  (calls.tasks.find? (·.number == number)).map (·.outcome)

/-- What has become of the calls, in the order in which they were made. -/
def outcomes (calls : Together α) : List (Outcome α) :=
  (List.range calls.length).filterMap calls.outcome?

/-- The answers that have been given, in the order in which the calls were made. -/
def answers (calls : Together α) : List (Except StoreError α) :=
  calls.outcomes.filterMap fun
    | .answered a => some a
    | .waiting _ => none

/-- Goes on until all calls are answered. Each call has at most five stages and two waits, so there
are at most two moments and two rounds for each, and in between each call has at most one turn that
brings it no further. -/
def finish (calls : Together α) (site : Site) : List (Except StoreError α) × Site :=
  let (calls, site) := run (8 * (calls.length + 1) * (calls.length + 1)) calls site
  (answers calls, site)

/-- Takes one call into the store, if it gets there without waiting. -/
def reachStore (fuel : Nat) (outcome : Outcome α) (site : Site) : Outcome α × Site :=
  match fuel, outcome with
  | 0, _ => (outcome, site)
  | _, .answered _ => (outcome, site)
  | fuel + 1, .waiting c =>
    match c.stage with
    | .inside _ => (outcome, site)
    | _ =>
      let (outcome, site) := c.advance site
      reachStore fuel outcome site

/-- Takes every call as far into the store as it gets without waiting, one after another, while no
call that is in the store comes out. -/
def crowd (site : Site) : Together α → Together α × Site
  | [] => ([], site)
  | a :: rest =>
    let (outcome, site) := reachStore 5 a.task.outcome site
    let (rest, site) := crowd site rest
    ({ a with task := { a.task with outcome } } :: rest, site)

end Together

end PacedPurge
