import PacedPurge.Site

/-!
# Lines

A client that has several tasks under way sees to one at a time. A task that has its turn goes on
until something stands in its way (`Hindrance`); then it waits, behind all others, and has its next
turn when nothing stands in its way any longer.

The client goes in rounds, and only so many waits end in one of them (`Clock.waitsPerRound`). A task
that comes to a wait when these are used up is put off: neither can its wait end in this round, nor
does it begin. In the next round those that were put off come behind all others, and of them the
last one first.

What workers have done is asked for last, when no task has a turn and none is put off.
-/

namespace PacedPurge

/-- Where a task stands with the client. -/
inductive Standing where
  /-- In line for its turn. -/
  | inLine
  /-- Waiting until nothing stands in its way. -/
  | waiting
  /-- Put off to the next round. -/
  | putOff
  deriving DecidableEq, Repr, Inhabited

namespace Standing

/-- Where a task stands when it has been seen to, by what stands in its way now. -/
def afterTurn (site : Site) : Option Hindrance → Standing
  | none => .inLine
  | some (.moment time) =>
    if site.allowance = 0 then .putOff else if time ≤ site.clock then .inLine else .waiting
  | some .round => .putOff
  | some .ticket | some .worker => .waiting

/-- Whether a task has its turn, by what stands in its way. -/
def hasTurn (s : Standing) (site : Site) (h : Option Hindrance) : Bool :=
  match s with
  | .inLine => true
  | .waiting => site.isPast h
  | .putOff => false

/-- Whether a task waits for a worker, by what stands in its way. -/
def awaitsWorker (s : Standing) (h : Option Hindrance) : Bool := s = .waiting && h = some .worker

end Standing

/-- A task that a client sees to. -/
structure Attended (τ : Type) where
  task : τ
  standing : Standing := .inLine

/-- The tasks of a client, those first that have waited longest. -/
abbrev Line (τ : Type) := List (Attended τ)

namespace Line

variable {τ : Type}

/-- The tasks themselves. -/
def tasks (line : Line τ) : List τ := line.map (·.task)

/-- A new task stands last. -/
def join (line : Line τ) (task : τ) : Line τ := line ++ [⟨task, .inLine⟩]

/-- Puts a task in the place that it had if it is still in line, and behind all others if it is
not. -/
def put (line : Line τ) (position : Nat) (a : Attended τ) : Line τ :=
  if a.standing = .inLine then line.set position a else line.eraseIdx position ++ [a]

/-- Whether a task is put off. -/
def isPutOff (a : Attended τ) : Bool := a.standing = .putOff

/-- Whether some task is put off. -/
def hasPutOff (line : Line τ) : Bool := line.any isPutOff

/-- A task that was put off is in line again. -/
def rejoin (a : Attended τ) : Attended τ := if isPutOff a then { a with standing := .inLine } else a

/-- The line when a round begins. -/
def nextRound (line : Line τ) : Line τ :=
  line.filter (!isPutOff ·) ++ ((line.filter isPutOff).reverse.map rejoin)

theorem tasks_join (line : Line τ) (task : τ) : (line.join task).tasks = line.tasks ++ [task] := by
  simp [tasks, join]

theorem tasks_append (front back : Line τ) : tasks (front ++ back) = front.tasks ++ back.tasks :=
  List.map_append

theorem task_rejoin (a : Attended τ) : (rejoin a).task = a.task := by
  unfold rejoin
  split <;> rfl

theorem tasks_map_rejoin (line : Line τ) : tasks (line.map rejoin) = line.tasks := by
  simp [tasks, task_rejoin]

/-- A new round neither adds tasks nor loses any. -/
theorem tasks_nextRound_perm (line : Line τ) : line.nextRound.tasks.Perm line.tasks := by
  have parted : (line.filter (!isPutOff ·) ++ line.filter isPutOff).Perm line :=
    List.perm_append_comm.trans (List.filter_append_perm isPutOff line)
  have turned := (List.reverse_perm (line.filter isPutOff)).append_left (line.filter (!isPutOff ·))
  have rejoined : line.nextRound.tasks =
      tasks (line.filter (!isPutOff ·) ++ (line.filter isPutOff).reverse) := by
    rw [nextRound, tasks_append, tasks_map_rejoin, tasks_append]
  rw [rejoined]
  exact (turned.trans parted).map _

end Line

end PacedPurge
