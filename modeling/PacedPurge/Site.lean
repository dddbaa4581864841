import PacedPurge.Chance
import PacedPurge.Clock
import PacedPurge.Store.Request

/-!
# Sites

A site is a store as its clients meet it: behind a gate where calls may be held up or turned away,
at a time, with a source of chance, and with a journal of what was reported. Time moves only when
something waits, and only so many waits end in one round (`Clock.waitsPerRound`).

A call passes through stages (`Stage`): it arrives at the gate, may be held there, waits for a
ticket, is inside the store, and is answered. With the ticket in hand the wait for it has yet to
end, before a worker of the store takes the call over. `Call.advance` takes it one stage further,
and `Call.hindrance?` says what it has to wait for before; between two stages anything else may
happen. `Site.call` takes a call through all of them when nobody else is about.
-/

namespace PacedPurge

/-- What befalls a call at the gate: how long it is held, if at all, and whether it is then turned
away. To be held for no time is a wait as well. -/
structure Disturbance where
  delay : Option Nat := none
  error : Option StoreError := none
  deriving DecidableEq, Repr, Inhabited

/-- The disturbances to come; each befalls the next call of its kind. -/
abbrev Gate := List (Method × Disturbance)

namespace Gate

/-- What befalls a call of the kind, if anything does, and the gate afterwards. -/
def pass (kind : Method) : Gate → Option Disturbance × Gate
  | [] => (none, [])
  | (m, d) :: rest =>
    if m = kind then (some d, rest)
    else
      let (found, left) := pass kind rest
      (found, (m, d) :: left)

/-- What befalls a request; what the store fetches for itself passes no gate. -/
def passRequest {α : Type} (r : Request α) (gate : Gate) : Option Disturbance × Gate :=
  match r.method? with
  | some kind => pass kind gate
  | none => (none, gate)

end Gate

/-- A store as its clients meet it. -/
structure Site where
  store : Store
  gate : Gate := []
  /-- The time in milliseconds. -/
  clock : Nat := 0
  /-- How many waits may still end in the round under way. -/
  allowance : Nat := Clock.waitsPerRound
  chance : Chance := ⟨[], 0⟩
  journal : Array Event := #[]
  /-- How many cores the machine has. -/
  cores : Nat := 1

namespace Site

/-- Reports events. -/
def report (site : Site) (events : List Event) : Site :=
  { site with journal := site.journal ++ events }

/-- Begins a round. -/
def newRound (site : Site) : Site := { site with allowance := Clock.waitsPerRound }

/-- Lets time pass up to a moment, if it has not passed; a round begins then. -/
def waitUntil (site : Site) (time : Nat) : Site :=
  if site.clock < time then { site.newRound with clock := time } else site

/-- Whether a wait for a moment can end now. -/
def mayEnd (site : Site) (time : Nat) : Bool := time ≤ site.clock && 0 < site.allowance

/-- A wait ends. -/
def endWait (site : Site) : Site := { site with allowance := site.allowance - 1 }

/-- Waits for a moment, and for a round in which the wait can end, when nobody else is about. -/
def await (site : Site) (time : Nat) : Site :=
  let site := site.waitUntil time
  if site.allowance = 0 then site.newRound else site

/-- Waits for a moment when nobody else is about, up to the end of the wait. -/
def sitOut (site : Site) (time : Nat) : Site := (site.await time).endWait

/-- A request enters the store: when it can leave at the earliest, if it has to wait at all. -/
def enter {α : Type} (site : Site) (r : Request α) : Option Nat × Site :=
  let (busy, store) := site.store.enter r
  (if busy = 0 then none else some (Clock.after site.clock busy), { site with store })

/-- A request leaves the store with its answer. What a worker hands back comes in a new round, and
the wait for it ends there. -/
def leave {α : Type} (site : Site) (r : Request α) : Except StoreError α × Site :=
  let events := site.store.events r
  let handedBack := site.store.handsOver r
  let (answer, store) := site.store.leave r
  let site := { site with store }.report events
  (answer, if handedBack then site.newRound.endWait else site)

end Site

/-! ## Hindrances -/

/-- What stands in the way of a task. -/
inductive Hindrance where
  /-- A moment that has to come. -/
  | moment (time : Nat)
  /-- A ticket that is not to be had. -/
  | ticket
  /-- The round, in which no more waits end. -/
  | round
  /-- A worker of the store, which has other work as well. -/
  | worker
  deriving DecidableEq, Repr

/-- The moment that is waited for. -/
def Hindrance.moment? : Hindrance → Option Nat
  | .moment time => some time
  | .ticket | .round | .worker => none

/-- Whether what stood in the way of a task does so no longer. -/
def Site.isPast (site : Site) : Option Hindrance → Bool
  | none => true
  | some (.moment time) => time ≤ site.clock
  | some .ticket | some .round | some .worker => false

/-- Waits until a task can go on, when nobody else is about. A worker is done whenever it is asked
for its work. -/
def Site.waitOut (site : Site) : Option Hindrance → Site
  | some (.moment time) => site.await time
  | some .round => site.newRound
  | none | some .ticket | some .worker => site

/-! ## Calls -/

/-- How far a call has come. -/
inductive Stage where
  /-- On its way to the gate. -/
  | arriving
  /-- Held at the gate up to a time, and then turned away if there is an error. -/
  | held (time : Nat) (error : Option StoreError)
  /-- Past the gate, in need of a ticket. -/
  | knocking
  /-- With a ticket, about to be handed to a worker. -/
  | ticketed
  /-- In the store, up to a time at least if there is one. -/
  | inside (time : Option Nat)
  deriving DecidableEq, Repr

/-- A request under way. -/
structure Call (α : Type) where
  request : Request α
  stage : Stage := .arriving

/-- What has become of a call. -/
inductive Outcome (α : Type) where
  | waiting (call : Call α)
  | answered (answer : Except StoreError α)

namespace Call

variable {α : Type}

/-- A call that sets out. -/
def start (r : Request α) : Call α := ⟨r, .arriving⟩

/-- What stands between the call and its next stage. -/
def hindrance? (c : Call α) (site : Site) : Option Hindrance :=
  match c.stage with
  | .arriving => none
  | .held time _ | .inside (some time) => some (.moment time)
  | .knocking => if site.store.admits c.request then none else some .ticket
  | .ticketed => if 0 < site.allowance then none else some .round
  | .inside none => if site.store.handsOver c.request then some .worker else none

/-- The call is let go from the gate. -/
def letGo (c : Call α) : Option StoreError → Outcome α
  | some e => .answered (.error e)
  | none => .waiting { c with stage := .knocking }

/-- The call comes to the gate. -/
def arrive (c : Call α) (site : Site) : Outcome α × Site :=
  match site.gate.passRequest c.request with
  | (none, gate) => (c.letGo none, { site with gate })
  | (some ⟨none, error⟩, gate) => (c.letGo error, { site with gate })
  | (some ⟨some ms, error⟩, gate) =>
    (.waiting { c with stage := .held (Clock.after site.clock ms) error }, { site with gate })

/-- The call enters the store, if it finds the ticket that it needs. -/
def knock (c : Call α) (site : Site) : Call α × Site :=
  if site.store.admits c.request then
    let handsOver := site.store.handsOver c.request
    let (time, site) := site.enter c.request
    ({ c with stage := if handsOver then .ticketed else .inside time }, site)
  else (c, site)

/-- Takes the call one stage further, if it can go further at this moment. -/
def advance (c : Call α) (site : Site) : Outcome α × Site :=
  match c.stage with
  | .arriving => c.arrive site
  | .held time error =>
    if site.mayEnd time then (c.letGo error, site.endWait) else (.waiting c, site)
  | .knocking => let (c, site) := c.knock site; (.waiting c, site)
  | .ticketed =>
    if 0 < site.allowance then (.waiting { c with stage := .inside none }, site.endWait)
    else (.waiting c, site)
  | .inside (some time) =>
    if site.mayEnd time then
      let (answer, site) := site.endWait.leave c.request
      (.answered answer, site)
    else (.waiting c, site)
  | .inside none => let (answer, site) := site.leave c.request; (.answered answer, site)

end Call

/-- Waits at the gate, as long as a disturbance says, when nobody else is about. -/
def Site.heldBy (site : Site) (d : Disturbance) : Site :=
  match d.delay with
  | none => site
  | some ms => site.sitOut (Clock.after site.clock ms)

/-- A request enters the store and leaves it when nobody else is about. -/
def Site.serve {α : Type} (site : Site) (r : Request α) : Except StoreError α × Site :=
  match site.enter r with
  | (none, site) => site.leave r
  | (some time, site) => (site.sitOut time).leave r

/-- Makes a call when nobody else is about, waiting as long as it takes. -/
def Site.call {α : Type} (site : Site) (r : Request α) : Except StoreError α × Site :=
  match site.gate.passRequest r with
  | (none, gate) => { site with gate }.serve r
  | (some d, gate) =>
    let site := { site with gate }.heldBy d
    match d.error with
    | some e => (.error e, site)
    | none => site.serve r

end PacedPurge
