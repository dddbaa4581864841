import PacedPurge.Proofs.Purge.Conduct

/-!
# Pools moved at will

`Pool.play` moves a pool at one site, which only the pool changes.  Here nothing is assumed of what
else goes on: `Pool.through` makes the moves of a list, each at a site of its own.  Between two
moves others may have written to the store, answers may have been scripted, time may have passed.
Every play is such a list of moves (`Pool.through_chosen`), and what holds after any list of moves
holds at every moment of any play.

What is told of the moves is collected along with them (`Pool.told`): their deeds, and also the
errors that they meet (`Pool.troubles`).  What a move comes to is said by `Pool.Turn`, which adds to
`Pool.MoveStep` which unit goes on, what the errors are and what the gauges show.
-/

namespace PacedPurge

namespace Pool

/-! ## Lists of moves -/

/-- The pool when it has made these moves, each at its site. -/
def through (p : Pool) (moves : List (Site × Move)) : Pool :=
  moves.foldl (fun p made => (p.move made.1 made.2).1) p

/-- What is told of these moves, one after the other. -/
def told {α : Type} (tell : Pool → Site → Move → List α) (p : Pool) :
    List (Site × Move) → List α
  | [] => []
  | made :: rest => tell p made.1 made.2 ++ told tell (p.move made.1 made.2).1 rest

section Lists

variable {α : Type} (tell : Pool → Site → Move → List α) (p : Pool)

theorem told_append (moves more : List (Site × Move)) :
    p.told tell (moves ++ more) = p.told tell moves ++ (p.through moves).told tell more := by
  induction moves generalizing p with
  | nil => rfl
  | cons made rest ih =>
    rw [List.cons_append, told, told, ih, List.append_assoc]
    rfl

end Lists

/-- The moves of a play, each with the site at which it is made. -/
def chosen (policy : Policy) (fuel : Nat) (p : Pool) (site : Site) : List (Site × Move) :=
  match fuel with
  | 0 => []
  | fuel + 1 =>
    if p.isOver then []
    else
      match policy p site with
      | none => []
      | some m => (site, m) :: chosen policy fuel (p.move site m).1 (p.move site m).2

/-- **Every play is a list of moves.** -/
theorem through_chosen (policy : Policy) (fuel : Nat) (p : Pool) (site : Site) :
    p.through (chosen policy fuel p site) = (p.play policy fuel site).1 := by
  induction fuel generalizing p site with
  | zero => rfl
  | succ fuel ih =>
    unfold chosen play
    by_cases stopped : p.isOver
    · rw [if_pos stopped, if_pos stopped]
      rfl
    · rw [if_neg stopped, if_neg stopped]
      cases policy p site with
      | none => rfl
      | some m => exact ih (p.move site m).1 (p.move site m).2

theorem told_chosen (policy : Policy) (fuel : Nat) (p : Pool) (site : Site) :
    p.told deeds (chosen policy fuel p site) = p.history policy fuel site := by
  induction fuel generalizing p site with
  | zero => rfl
  | succ fuel ih =>
    unfold chosen history
    by_cases stopped : p.isOver
    · rw [if_pos stopped, if_pos stopped]
      rfl
    · rw [if_neg stopped, if_neg stopped]
      cases policy p site with
      | none => rfl
      | some m =>
        show p.deeds site m ++ told deeds (p.move site m).1 _ = _
        rw [ih]

end Pool

/-! ## What a move comes to -/

/-- The error of a source that has been asked to go on. -/
def Pulled.troubles : Pulled → List PoolError
  | .failed e => [.source e]
  | _ => []

namespace BatchUnit.Progress

/-- The error that has ended a unit. -/
def troubles (b : Bucket) : BatchUnit.Progress → List PoolError
  | .failed e => [.telemetry b.ordinal e]
  | _ => []

/-- How often the unit was turned away. -/
def waits : BatchUnit.Progress → Nat
  | .turnedAway _ => 1
  | _ => 0

/-- What has been done when the unit has gone on. -/
def deeds (b : Bucket) : BatchUnit.Progress → History
  | .running _ | .turnedAway _ => []
  | .finished r => [.settled b r]
  | .failed _ => [.lost b]

/-- The unit, if it is still under way. -/
def units : BatchUnit.Progress → List BatchUnit
  | .running u | .turnedAway u => [u]
  | .finished _ | .failed _ => []

end BatchUnit.Progress

theorem BatchUnit.deeds_eq (u : BatchUnit) (settings : PoolSettings) (site : Site) :
    u.deeds settings site = u.callDeeds ++ (u.advance settings site).1.deeds u.bucket := rfl

namespace Pool

/-- The units when the one at a position has gone on. -/
theorem units_afterTurn {p : Pool} (position : Nat) (b : Bucket) (progress : BatchUnit.Progress) :
    (p.afterTurn position b progress).units =
      Line.tasks (p.line.eraseIdx position) ++ progress.units := by
  cases progress with
  | running u => exact Line.tasks_join _ u
  | turnedAway u => exact Line.tasks_join _ u
  | finished r => exact (List.append_nil _).symm
  | failed e => exact (List.append_nil _).symm

/-- The unit that goes on in a move. -/
def mover? (p : Pool) (site : Site) : Move → Option BatchUnit
  | .unit position =>
    match p.line[position]? with
    | none => none
    | some a => if hasTurn site a || awaitsWorker site a then some a.task else none
  | .source | .round | .wait _ => none

/-- The errors that a move meets. -/
def troubles (p : Pool) (site : Site) : Move → List PoolError
  | .source => if p.takesIn then (p.source.pull site).1.troubles else []
  | m =>
    match p.mover? site m with
    | none => []
    | some u => (u.advance p.settings site).1.troubles u.bucket

/-- The gauges after a move: what they showed, this many waits more, and no more units at once than
are there. -/
structure Gauged (p q : Pool) (waits : Nat) : Prop where
  waits : q.totals.throttledWaits = p.totals.throttledWaits + waits
  peak : q.totals.peakInFlight ≤ max p.totals.peakInFlight q.units.length

/-- **What a move comes to**, with the unit that goes on in it, the errors that it meets and its
deeds. -/
inductive Turn (p : Pool) (site : Site) : Option BatchUnit → List PoolError → History → Pool →
    Prop where
  | idle {p' : Pool} (alike : p.Alike p') (gauged : p.Gauged p' 0) : Turn p site none [] [] p'
  | pulled {p' : Pool} (takesIn : p.takesIn = true)
      (alike : (p.afterPull (p.source.pull site).2.1 (p.source.pull site).1).Alike p')
      (gauged : p.Gauged p' 0) :
      Turn p site none (p.source.pull site).1.troubles (p.source.pull site).1.deeds p'
  | advanced {p' : Pool} {position : Nat} {a : Attended BatchUnit}
      (place : p.line[position]? = some a)
      (alike : (p.afterTurn position a.task.bucket (a.task.advance p.settings site).1).Alike p')
      (gauged : p.Gauged p' (a.task.advance p.settings site).1.waits) :
      Turn p site (some a.task) ((a.task.advance p.settings site).1.troubles a.task.bucket)
        (a.task.deeds p.settings site) p'

/-- Gauges that have not been touched. -/
theorem gauged_of_eq {p q : Pool} (waits : q.totals.throttledWaits = p.totals.throttledWaits)
    (peak : q.totals.peakInFlight = p.totals.peakInFlight) : p.Gauged q 0 :=
  ⟨waits, by rw [peak]; exact Nat.le_max_left _ _⟩

theorem totals_closeRound (p : Pool) (site : Site) : (p.closeRound site).1.totals = p.totals := by
  unfold closeRound
  split
  · rfl
  · rfl

theorem totals_wrapUp (p : Pool) (site : Site) :
    ((p.reportProgress site).1.closeRound (p.reportProgress site).2).1.totals = p.totals := by
  rw [totals_closeRound]
  unfold reportProgress
  split
  · rfl
  · rfl

theorem totals_noteError (p : Pool) (e : PoolError) (site : Site) :
    (p.noteError e site).1.totals = p.totals := by
  unfold noteError
  split
  · rfl
  · rfl

/-- A unit that is put back is counted with the others that are executing. -/
theorem gauged_putUnit (p : Pool) (position : Nat) (u : BatchUnit) (site : Site) :
    p.Gauged (p.putUnit position u site) 0 := by
  refine ⟨rfl, ?_⟩
  have executing :
      (p.putUnit position u site).executing ≤ (p.putUnit position u site).units.length :=
    List.countP_le_length
  exact Nat.max_le.mpr ⟨Nat.le_max_left _ _, Nat.le_trans executing (Nat.le_max_right _ _)⟩

/-- The gauges when the source has gone on. -/
theorem gauged_moveSource (p : Pool) (site : Site) : p.Gauged (p.moveSource site).1 0 := by
  unfold moveSource
  by_cases takesIn : p.takesIn = true
  · rw [if_pos takesIn]
    generalize p.source.pull site = r
    obtain ⟨answer, source, site'⟩ := r
    have closed : ∀ q : Pool, q.totals.throttledWaits = p.totals.throttledWaits →
        q.totals.peakInFlight = p.totals.peakInFlight → p.Gauged (q.closeRound site').1 0 := by
      intro q waits peak
      have kept := totals_closeRound q site'
      exact gauged_of_eq (by rw [kept]; exact waits) (by rw [kept]; exact peak)
    cases answer with
    | taken => exact gauged_of_eq rfl rfl
    | later time => exact gauged_of_eq rfl rfl
    | bucket b => exact closed _ rfl rfl
    | ended => exact closed _ rfl rfl
    | failed e => exact closed _ rfl rfl
  · rw [if_neg takesIn]
    exact gauged_of_eq rfl rfl

/-- The gauges when the unit at a position has gone on. -/
theorem gauged_moveUnit {p : Pool} {site : Site} {position : Nat} {a : Attended BatchUnit}
    (place : p.line[position]? = some a) (turn : (hasTurn site a || awaitsWorker site a) = true) :
    p.Gauged (p.moveUnit position site).1 (a.task.advance p.settings site).1.waits := by
  simp only [moveUnit, place, if_pos turn]
  generalize a.task.advance p.settings site = r
  obtain ⟨progress, site'⟩ := r
  cases progress with
  | running u => exact gauged_putUnit p position u site'
  | turnedAway u =>
    have gauged := gauged_putUnit p position u site'
    exact ⟨congrArg (· + 1) gauged.waits, gauged.peak⟩
  | finished r =>
    have kept := totals_wrapUp ((p.dropUnit position).note r)
      (site'.report (p.settings.announce r))
    exact gauged_of_eq (by rw [kept]; rfl) (by rw [kept]; rfl)
  | failed e =>
    have kept := totals_wrapUp
      ((p.dropUnit position).noteError (.telemetry a.task.bucket.ordinal e) site').1
      ((p.dropUnit position).noteError (.telemetry a.task.bucket.ordinal e) site').2
    rw [totals_noteError] at kept
    exact gauged_of_eq (congrArg Totals.throttledWaits kept) (congrArg Totals.peakInFlight kept)

/-- Every move comes to one of the three. -/
theorem turn_cases (p : Pool) (site : Site) (m : Move) :
    Turn p site (p.mover? site m) (p.troubles site m) (p.deeds site m) (p.move site m).1 := by
  have unmoved : Turn p site none [] [] p := .idle (.refl p) (gauged_of_eq rfl rfl)
  cases m with
  | source =>
    simp only [mover?, troubles, deeds, move]
    by_cases takesIn : p.takesIn = true
    · simp only [if_pos takesIn]
      exact .pulled takesIn (alike_moveSource takesIn site).1 (gauged_moveSource p site)
    · simp only [if_neg takesIn, moveSource]
      exact unmoved
  | unit position =>
    simp only [mover?, troubles, deeds, move]
    cases place : p.line[position]? with
    | none =>
      simp only [moveUnit, place]
      exact unmoved
    | some a =>
      simp only
      by_cases turn : (hasTurn site a || awaitsWorker site a) = true
      · simp only [if_pos turn]
        exact .advanced place (alike_moveUnit place turn).1 (gauged_moveUnit place turn)
      · simp only [if_neg turn, moveUnit, place]
        exact unmoved
  | round => exact .idle (alike_beginRound p site) (gauged_of_eq rfl rfl)
  | wait ms => exact unmoved

end Pool

end PacedPurge
