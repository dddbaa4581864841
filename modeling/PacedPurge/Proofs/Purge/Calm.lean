import PacedPurge.Proofs.Purge.Calls
import PacedPurge.Proofs.Store.Trades

/-!
# What units do when nothing goes wrong

Nothing goes wrong at a site whose gate holds calls up at most (`Gate.Clean`) and whose store has no
faults.  There a call has five stages to go at most, and each stage that it comes to is nearer to
its end (`Stage.left`); so is an execution, which then ends well, and so is a unit, except that it
may be turned away.  A unit that is turned away starts over, but a store that relents has then one
scripted report less, which makes up for it.

A stage that brings a task no nearer leaves everything as it is, and the task is barred from going
on by what stands in its way (`Site.Bars`).  What a task holds of the tickets is what it has taken
and not given back: a ticket of the kind that its call needs, while the call is inside the store.
-/

namespace PacedPurge

variable {α : Type}

/-! ## Gates -/

/-- No call is turned away at the gate. -/
def Gate.Clean (gate : Gate) : Prop := ∀ passing ∈ gate, passing.2.error = none

theorem Gate.clean_pass {gate : Gate} (clean : gate.Clean) (kind : Method) :
    (∀ d, (gate.pass kind).1 = some d → d.error = none) ∧ Gate.Clean (gate.pass kind).2 := by
  induction gate with
  | nil => exact ⟨fun d h => (nomatch h), clean⟩
  | cons first rest ih =>
    obtain ⟨m, d⟩ := first
    have later : Gate.Clean rest := fun x hx => clean x (List.mem_cons_of_mem _ hx)
    unfold pass
    by_cases here : m = kind
    · rw [if_pos here]
      refine ⟨fun d' h => ?_, later⟩
      obtain rfl := Option.some.inj h
      exact clean (m, d) List.mem_cons_self
    · rw [if_neg here]
      obtain ⟨found, left⟩ := ih later
      refine ⟨found, fun x hx => ?_⟩
      obtain rfl | hrest := List.mem_cons.mp hx
      · exact clean (m, d) List.mem_cons_self
      · exact left x hrest

/-- What befalls a request at such a gate is no error. -/
theorem Gate.error_passRequest {gate : Gate} (clean : gate.Clean) {r : Request α} {d : Disturbance}
    (found : (gate.passRequest r).1 = some d) : d.error = none := by
  unfold passRequest at found
  cases method : r.method? with
  | none => simp only [method, reduceCtorEq] at found
  | some kind =>
    simp only [method] at found
    exact (clean_pass clean kind).1 d found

theorem Gate.clean_after {gate : Gate} (clean : gate.Clean) (calls : List Method) :
    (gate.after calls).Clean := by
  induction calls generalizing gate with
  | nil => exact clean
  | cons kind rest ih => exact ih (clean_pass clean kind).2

/-! ## Bars -/

/-- Whether what stands in the way of a task keeps it from going on at this moment. -/
def Site.Bars (site : Site) : Option Hindrance → Prop
  | some (.moment time) => site.mayEnd time = false
  | some .ticket | some .round => True
  | none | some .worker => False

instance Site.decidableBars (site : Site) : DecidablePred site.Bars
  | none | some .worker => .isFalse id
  | some .ticket | some .round => .isTrue trivial
  | some (.moment time) => inferInstanceAs (Decidable (site.mayEnd time = false))

/-! ## Calls -/

/-- How many stages a call has to go at most, the answer included. -/
def Stage.left : Stage → Nat
  | .arriving => 5
  | .held .. => 4
  | .knocking => 3
  | .ticketed => 2
  | .inside _ => 1

/-- Whether the call has entered the store. -/
def Stage.isInside : Stage → Bool
  | .ticketed | .inside _ => true
  | .arriving | .held .. | .knocking => false

theorem Stage.left_pos (s : Stage) : 0 < s.left := by
  unfold left
  split <;> omega

theorem Stage.left_le (s : Stage) : s.left ≤ 5 := by
  unfold left
  split <;> omega

namespace Call

/-- The call is not to be turned away. -/
def Unharmed (c : Call α) : Prop := ∀ time e, c.stage ≠ .held time (some e)

/-- How many tickets of a kind the call holds in a store. -/
def holding (c : Call α) (s : Store) (kind : TicketKind) : Nat :=
  if c.stage.isInside then s.holding c.request kind else 0

theorem unharmed_start (r : Request α) : (start r).Unharmed := fun _ _ h => by cases h

theorem holding_of_outside {c : Call α} (outside : c.stage.isInside = false) (s : Store) :
    c.holding s = fun _ => 0 := by
  funext kind
  simp only [holding, outside, Bool.false_eq_true, if_false]

theorem holding_of_inside {c : Call α} (inside : c.stage.isInside = true) (s : Store) :
    c.holding s = s.holding c.request := by
  funext kind
  simp only [holding, inside, if_true]

/-- **What a stage of a call comes to.**  The call stays where it is, for it is barred; or it is
nearer to its end; or it is turned away at the gate, which does not happen to a call that is not to
be turned away; or it is answered by the store. -/
inductive Stride (c : Call α) (site : Site) : Outcome α → Site → Prop where
  | stays (barred : site.Bars (c.hindrance? site)) : Stride c site (.waiting c) site
  | nears {c' : Call α} {site' : Site} (same : c'.request = c.request)
      (nearer : c'.stage.left < c.stage.left)
      (unharmed : c.Unharmed → site.gate.Clean → c'.Unharmed)
      (trades : site.store.Trades site'.store (c.holding site.store) (c'.holding site.store)) :
      Stride c site (.waiting c') site'
  | turnedAway {e : StoreError} {site' : Site} (harmed : c.Unharmed → ¬site.gate.Clean)
      (outside : c.stage.isInside = false) (kept : site'.store = site.store) :
      Stride c site (.answered (.error e)) site'
  | served {site' : Site} (inside : c.stage.isInside = true)
      (left : site'.store = (site.store.leave c.request).2) :
      Stride c site (.answered (site.store.leave c.request).1) site'

/-- A call comes to the gate, and is held there, let go or turned away. -/
theorem stride_arrive {c : Call α} {site : Site} (arriving : c.stage = .arriving) :
    Stride c site (c.arrive site).1 (c.arrive site).2 := by
  have harmless := fun clean d => @Gate.error_passRequest α site.gate clean c.request d
  have away : c.stage.isInside = false := by rw [arriving]; rfl
  have outside : c.holding site.store = fun _ => 0 := holding_of_outside away _
  have reaches : ∀ stage : Stage, stage.left < 5 → stage.isInside = false →
      (site.gate.Clean → ∀ time e, stage ≠ .held time (some e)) →
      Stride c site (.waiting { c with stage })
        { site with gate := (site.gate.passRequest c.request).2 } := by
    intro stage nearer away harmless
    refine .nears rfl (by rw [arriving]; exact nearer) (fun _ clean => harmless clean) ?_
    rw [outside, holding_of_outside away]
    exact .refl _ _
  unfold arrive
  generalize site.gate.passRequest c.request = passed at harmless reaches
  obtain ⟨found, gate⟩ := passed
  cases found with
  | none => exact reaches .knocking (by decide) rfl fun _ _ _ h => by cases h
  | some d =>
    obtain ⟨delay, error⟩ := d
    have unfailing : site.gate.Clean → error = none := fun clean =>
      harmless clean ⟨delay, error⟩ rfl
    cases delay with
    | some ms =>
      refine reaches (.held _ error) (Nat.lt_succ_self 4) rfl fun clean time e h => ?_
      cases (Stage.held.inj h).2.symm.trans (unfailing clean)
    | none =>
      cases error with
      | none => exact reaches .knocking (by decide) rfl fun _ _ _ h => by cases h
      | some e => exact .turnedAway (fun _ clean => by cases unfailing clean) away rfl

/-- A call enters the store, or finds no ticket. -/
theorem stride_knock {c : Call α} {site : Site} (knocking : c.stage = .knocking) :
    Stride c site (.waiting (c.knock site).1) (c.knock site).2 := by
  unfold knock
  by_cases admitted : site.store.admits c.request = true
  · rw [if_pos admitted]
    have outside : c.holding site.store = fun _ => 0 :=
      holding_of_outside (by rw [knocking]; rfl) _
    have entered : ∀ stage : Stage, stage.isInside = true → stage.left < 3 →
        (∀ time e, stage ≠ .held time (some e)) →
        Stride c site (.waiting { c with stage }) (site.enter c.request).2 := by
      intro stage inside nearer harmless
      refine .nears rfl (by rw [knocking]; exact nearer) (fun _ _ => harmless) ?_
      rw [outside, holding_of_inside inside]
      exact Store.trades_enter admitted
    simp only
    split
    · exact entered .ticketed rfl (by decide) fun _ _ h => by cases h
    · exact entered (.inside _) rfl (Nat.lt_succ_of_lt (Nat.lt_succ_self 1)) fun _ _ h => by cases h
  · rw [if_neg admitted]
    refine .stays ?_
    simp only [hindrance?, knocking, if_neg admitted]
    trivial

/-- **Every stage of a call comes to one of the four.** -/
theorem stride_advance (c : Call α) (site : Site) :
    Stride c site (c.advance site).1 (c.advance site).2 := by
  obtain ⟨request, stage⟩ := c
  cases stage with
  | arriving => exact stride_arrive rfl
  | held time error =>
    simp only [advance]
    by_cases ends : site.mayEnd time = true
    · rw [if_pos ends]
      cases error with
      | some e => exact .turnedAway (fun unharmed => absurd rfl (unharmed time e)) rfl rfl
      | none =>
        exact .nears rfl (by decide : (3 : Nat) < 4) (fun _ _ _ _ h => by cases h) (.refl _ _)
    · rw [if_neg ends]
      exact .stays (eq_false_of_ne_true ends)
  | knocking => exact stride_knock rfl
  | ticketed =>
    simp only [advance]
    by_cases room : 0 < site.allowance
    · rw [if_pos room]
      exact .nears rfl (by decide : (1 : Nat) < 2) (fun _ _ _ _ h => by cases h) (.refl _ _)
    · rw [if_neg room]
      refine .stays ?_
      simp only [hindrance?, if_neg room]
      trivial
  | inside time =>
    cases time with
    | none => exact .served rfl (Site.store_leave site request)
    | some time =>
      simp only [advance]
      by_cases ends : site.mayEnd time = true
      · rw [if_pos ends]
        exact .served rfl (Site.store_leave site.endWait request)
      · rw [if_neg ends]
        exact .stays (eq_false_of_ne_true ends)

/-- **What a stage of a call comes to when nothing goes wrong.**  The call stays where it is, for it
is barred; or it is nearer to its end; or it is answered by the store. -/
inductive CalmStep (c : Call α) (site : Site) : Outcome α → Site → Prop where
  | stays (barred : site.Bars (c.hindrance? site)) : CalmStep c site (.waiting c) site
  | nears {c' : Call α} {site' : Site} (same : c'.request = c.request) (unharmed : c'.Unharmed)
      (nearer : c'.stage.left < c.stage.left)
      (trades : site.store.Trades site'.store (c.holding site.store) (c'.holding site.store)) :
      CalmStep c site (.waiting c') site'
  | served {site' : Site} (inside : c.stage.isInside = true)
      (left : site'.store = (site.store.leave c.request).2) :
      CalmStep c site (.answered (site.store.leave c.request).1) site'

/-- A call that is not to be turned away comes to one of the three. -/
theorem calm_advance {c : Call α} {site : Site} (unharmed : c.Unharmed)
    (clean : site.gate.Clean) : CalmStep c site (c.advance site).1 (c.advance site).2 := by
  have step := c.stride_advance site
  generalize c.advance site = r at step ⊢
  obtain ⟨outcome, site'⟩ := r
  cases step with
  | stays barred => exact .stays barred
  | nears same nearer harmless trades => exact .nears same (harmless unharmed clean) nearer trades
  | turnedAway harmed => exact absurd clean (harmed unharmed)
  | served inside left => exact .served inside left

/-- The same call holds the same tickets in stores of one kind. -/
theorem holding_of_kin (c : Call α) {s s' : Store} (kin : s.Kin s') :
    c.holding s' = c.holding s := by
  funext kind
  simp only [holding, kin.holding]

/-- A call that is served gives back what it holds. -/
theorem trades_served {c : Call α} {site site' : Site} (inside : c.stage.isInside = true)
    (left : site'.store = (site.store.leave c.request).2) :
    site.store.Trades site'.store (c.holding site.store) (fun _ => 0) := by
  rw [holding_of_inside inside, left]
  exact Store.trades_leave site.store c.request

end Call

/-- A call that is made when nothing goes wrong and nobody else is about is answered by the store.
-/
theorem Site.calm_call {site : Site} (clean : site.gate.Clean) (r : Request α) :
    (site.call r).1 = ((site.store.enter r).2.leave r).1 ∧
      (site.call r).2.store = ((site.store.enter r).2.leave r).2 := by
  have served : ∀ start : Site, start.store = site.store →
      (start.serve r).1 = ((site.store.enter r).2.leave r).1 ∧
        (start.serve r).2.store = ((site.store.enter r).2.leave r).2 := by
    intro start same
    have inside : (start.enter r).2.store = (site.store.enter r).2 := by
      rw [Site.store_enter, same]
    unfold serve
    generalize start.enter r = entered at inside
    obtain ⟨time, entered⟩ := entered
    cases time with
    | none => exact ⟨by rw [Site.answer_leave, inside], by rw [Site.store_leave, inside]⟩
    | some time =>
      rw [Site.answer_leave, Site.store_leave, Site.store_sitOut, inside]
      exact ⟨rfl, rfl⟩
  have harmless := fun d => @Gate.error_passRequest α site.gate clean r d
  unfold call
  generalize site.gate.passRequest r = passed at harmless
  obtain ⟨found, gate⟩ := passed
  cases found with
  | none => exact served { site with gate } rfl
  | some d =>
    obtain ⟨delay, error⟩ := d
    obtain rfl : error = none := harmless ⟨delay, error⟩ rfl
    exact served _ (Site.store_heldBy _ _)

theorem Site.clean_call {site : Site} (clean : site.gate.Clean) (r : Request α) :
    (site.call r).2.gate.Clean := by
  rw [gate_call, Gate.passRequest]
  cases r.method? with
  | none => exact clean
  | some kind => exact (Gate.clean_pass clean kind).2

/-! ## Executions -/

namespace Execution

/-- No call of the execution is to be turned away, and none has failed. -/
def Unharmed (e : Execution) : Prop :=
  match e.phase with
  | .deleting call => call.Unharmed
  | .beginning call => call.Unharmed
  | .staging _ call => call.Unharmed
  | .aborting outcome call => call.Unharmed ∧ ∃ n, outcome = .ok n

/-- How many stages the execution has to go at most. -/
def left (e : Execution) : Nat :=
  match e.phase with
  | .deleting call => call.stage.left
  | .beginning call => 10 + call.stage.left
  | .staging _ call => 5 + call.stage.left
  | .aborting _ call => call.stage.left

/-- How many tickets of a kind the execution holds in a store. -/
def holding (e : Execution) (s : Store) : TicketKind → Nat :=
  match e.phase with
  | .deleting call => call.holding s
  | .beginning call => call.holding s
  | .staging _ call => call.holding s
  | .aborting _ call => call.holding s

/-- **What a stage of an execution comes to when nothing goes wrong.** -/
inductive CalmStep (e : Execution) (site : Site) : Execution.Progress → Site → Prop where
  | stays (barred : site.Bars (e.hindrance? site)) : CalmStep e site (.running e) site
  | nears {e' : Execution} {site' : Site} (unharmed : e'.Unharmed) (nearer : e'.left < e.left)
      (trades : site.store.Trades site'.store (e.holding site.store) (e'.holding site.store)) :
      CalmStep e site (.running e') site'
  | done {r : ExecutionResult} {site' : Site} (ok : r.isOk = true)
      (trades : site.store.Trades site'.store (e.holding site.store) (fun _ => 0)) :
      CalmStep e site (.finished r) site'

theorem start_left_le (task : Assignment) : (start task).left ≤ 15 := by
  unfold left start
  rcases firstPhase_cases task with ⟨-, phase⟩ | ⟨-, phase⟩
  · rw [phase]
    exact Nat.le_refl 15
  · rw [phase]
    exact (by decide : 5 ≤ 15)

theorem start_unharmed (task : Assignment) : (start task).Unharmed := by
  unfold Unharmed start
  rcases firstPhase_cases task with ⟨-, phase⟩ | ⟨-, phase⟩
  · rw [phase]
    exact Call.unharmed_start _
  · rw [phase]
    exact Call.unharmed_start _

theorem start_holding (task : Assignment) (s : Store) : (start task).holding s = fun _ => 0 := by
  unfold holding start
  rcases firstPhase_cases task with ⟨-, phase⟩ | ⟨-, phase⟩
  · rw [phase]
    rfl
  · rw [phase]
    rfl

/-- What stands in the way of an execution, and what it holds, is the matter of the call that it has
under way. -/
theorem call_cases (e : Execution) :
    ∃ (α : Type) (c : Call α), (∀ site, e.hindrance? site = c.hindrance? site) ∧
      ∀ s, e.holding s = c.holding s := by
  obtain ⟨task, attempts, phase⟩ := e
  cases phase with
  | deleting call => exact ⟨_, call, fun _ => rfl, fun _ => rfl⟩
  | beginning call => exact ⟨_, call, fun _ => rfl, fun _ => rfl⟩
  | staging txn call => exact ⟨_, call, fun _ => rfl, fun _ => rfl⟩
  | aborting outcome call => exact ⟨_, call, fun _ => rfl, fun _ => rfl⟩

theorem holding_of_kin (e : Execution) {s s' : Store} (kin : s.Kin s') :
    e.holding s' = e.holding s := by
  obtain ⟨α, call, -, holds⟩ := e.call_cases
  rw [holds, holds]
  exact call.holding_of_kin kin

/-- **Every stage of an execution comes to one of the three**, if its records can be deleted. -/
theorem calm_advance {e : Execution} {site : Site} {selection : Selection} {size : Nat}
    (follows : e.phase.Follows e.task) (unharmed : e.Unharmed) (clean : site.gate.Clean)
    (faultless : site.store.Faultless)
    (serves : site.store.holdings.Serves e.task.ids e.task.ns selection size) :
    CalmStep e site (e.advance site).1 (e.advance site).2 := by
  obtain ⟨task, attempts, phase⟩ := e
  cases phase with
  | deleting call =>
    obtain ⟨-, hrequest⟩ := follows
    simp only at hrequest serves
    have step := call.calm_advance unharmed clean
    simp only [advance]
    generalize call.advance site = r at step
    obtain ⟨outcome, site'⟩ := r
    cases step with
    | stays barred => exact .stays barred
    | nears same unharmed' nearer trades => exact .nears unharmed' nearer trades
    | served inside left =>
      have trades := Call.trades_served inside left
      obtain ⟨n, answered⟩ := Store.answer_delete faultless serves task.session.writeConcern
      rw [← hrequest] at answered
      rw [answered]
      exact .done rfl trades
  | beginning call =>
    obtain ⟨-, hrequest⟩ := follows
    simp only at hrequest
    have step := call.calm_advance unharmed clean
    simp only [advance]
    generalize call.advance site = r at step
    obtain ⟨outcome, site'⟩ := r
    cases step with
    | stays barred => exact .stays barred
    | nears same unharmed' nearer trades =>
      exact .nears unharmed' (Nat.add_lt_add_left nearer 10) trades
    | served inside left =>
      have trades := Call.trades_served inside left
      have answered := Store.answer_begin site.store task.session.writeConcern
      rw [← hrequest] at answered
      rw [answered]
      refine .nears (Call.unharmed_start _) ?_ trades
      show 5 + 5 < 10 + call.stage.left
      have := call.stage.left_pos
      omega
  | staging txn call =>
    obtain ⟨-, -, hrequest⟩ := follows
    simp only at hrequest serves
    have step := call.calm_advance unharmed clean
    simp only [advance]
    generalize call.advance site = r at step
    obtain ⟨outcome, site'⟩ := r
    cases step with
    | stays barred => exact .stays barred
    | nears same unharmed' nearer trades =>
      exact .nears unharmed' (Nat.add_lt_add_left nearer 5) trades
    | served inside left =>
      have trades := Call.trades_served inside left
      obtain ⟨⟨n, staged⟩, answered⟩ := Store.answer_stage faultless serves txn
      rw [← hrequest] at answered
      rw [answered]
      refine .nears ⟨Call.unharmed_start _, n, rfl⟩ ?_ trades
      show 5 < 5 + call.stage.left
      have := call.stage.left_pos
      omega
  | aborting result call =>
    obtain ⟨unharmed, n, rfl⟩ := unharmed
    have step := call.calm_advance unharmed clean
    simp only [advance]
    generalize call.advance site = r at step
    obtain ⟨outcome, site'⟩ := r
    cases step with
    | stays barred => exact .stays barred
    | nears same unharmed' nearer trades =>
      exact .nears ⟨unharmed', n, rfl⟩ nearer trades
    | served inside left =>
      exact .done rfl (Call.trades_served inside left)

end Execution

/-! ## Units -/

namespace BatchUnit

/-- No call of the unit is to be turned away, and none has failed. -/
def Unharmed (u : BatchUnit) : Prop :=
  match u.phase with
  | .sampling call => call.Unharmed
  | .resting _ => True
  | .executing e => e.Unharmed

/-- How many stages the unit has to go at most, if it is not turned away any more. -/
def left (u : BatchUnit) : Nat :=
  match u.phase with
  | .sampling call => 15 + call.stage.left
  | .resting _ => 21
  | .executing e => e.left

/-- How many tickets of a kind the unit holds in a store. -/
def holding (u : BatchUnit) (s : Store) : TicketKind → Nat :=
  match u.phase with
  | .sampling call => call.holding s
  | .resting _ => fun _ => 0
  | .executing e => e.holding s

/-- **What a stage of a unit comes to when nothing goes wrong.**  If it is turned away, it has more
stages to go, but there are fewer scripted reports of a store that relents. -/
inductive CalmStep (t : Thresholds) (u : BatchUnit) (site : Site) :
    BatchUnit.Progress → Site → Prop where
  | stays (barred : site.Bars (u.hindrance? site)) : CalmStep t u site (.running u) site
  | nears {u' : BatchUnit} {site' : Site} (unharmed : u'.Unharmed) (nearer : u'.left < u.left)
      (trades : site.store.Trades site'.store (u.holding site.store) (u'.holding site.store)) :
      CalmStep t u site (.running u') site'
  | turnedAway {u' : BatchUnit} {site' : Site} (unharmed : u'.Unharmed)
      (spent : site.store.Relents t →
        u'.left + 10 * site'.store.scripted < u.left + 10 * site.store.scripted)
      (trades : site.store.Trades site'.store (u.holding site.store) (u'.holding site.store)) :
      CalmStep t u site (.turnedAway u') site'
  | done {r : ExecutionResult} {site' : Site} (ok : r.isOk = true)
      (trades : site.store.Trades site'.store (u.holding site.store) (fun _ => 0)) :
      CalmStep t u site (.finished r) site'

theorem start_unharmed (b : Bucket) : (start b).Unharmed := Call.unharmed_start _

theorem start_holding (b : Bucket) (s : Store) : (start b).holding s = fun _ => 0 := rfl

theorem holding_of_kin (u : BatchUnit) {s s' : Store} (kin : s.Kin s') :
    u.holding s' = u.holding s := by
  unfold holding
  cases u.phase with
  | sampling call => exact call.holding_of_kin kin
  | resting time => rfl
  | executing e => exact e.holding_of_kin kin

/-- The counters have been told, and the unit is let go or turned away. -/
theorem calm_judge {settings : PoolSettings} {b : Bucket} {call : Call Counters}
    {site site' : Site} {c : Counters}
    (spent : site.store.Relents settings.thresholds →
      c.Admit settings.thresholds ∨ site'.store.scripted < site.store.scripted)
    (trades : site.store.Trades site'.store (call.holding site.store) (fun _ => 0)) :
    CalmStep settings.thresholds ⟨b, .sampling call⟩ site
      (judge ⟨b, .sampling call⟩ settings c site').1
      (judge ⟨b, .sampling call⟩ settings c site').2 := by
  have positive := call.stage.left_pos
  simp only [judge, Snapshot.decide]
  cases pressed : (Snapshot.ofCounters c settings.thresholds).pressure? with
  | none =>
    refine .nears (Execution.start_unharmed _) ?_ ?_
    · have few := Execution.start_left_le (settings.assignment b)
      show (Execution.start (settings.assignment b)).left < 15 + call.stage.left
      omega
    · show site.store.Trades site'.store (call.holding site.store)
        ((Execution.start (settings.assignment b)).holding site.store)
      rw [Execution.start_holding]
      exact trades
  | some pressure =>
    refine .turnedAway trivial (fun relents => ?_) trades
    obtain admitted | fewer := spent relents
    · rw [Counters.Admit, pressed] at admitted
      cases admitted
    · show 21 + 10 * site'.store.scripted < 15 + call.stage.left + 10 * site.store.scripted
      omega

/-- **Every stage of a unit comes to one of the four**, if the records of the bucket can be
deleted. -/
theorem calm_advance {settings : PoolSettings} {u : BatchUnit} {site : Site}
    {selection : Selection} {size : Nat} (follows : u.Follows settings) (unharmed : u.Unharmed)
    (clean : site.gate.Clean) (faultless : site.store.Faultless)
    (serves : site.store.holdings.Serves u.bucket.ids settings.ns selection size) :
    CalmStep settings.thresholds u site (u.advance settings site).1
      (u.advance settings site).2 := by
  obtain ⟨bucket, phase⟩ := u
  cases phase with
  | sampling call =>
    have hrequest : call.request = .status := follows
    have step := call.calm_advance unharmed clean
    simp only [advance]
    generalize call.advance site = r at step
    obtain ⟨outcome, site'⟩ := r
    cases step with
    | stays barred => exact .stays barred
    | nears same unharmed' nearer trades =>
      exact .nears unharmed' (Nat.add_lt_add_left nearer 15) trades
    | served inside left =>
      have trades := Call.trades_served inside left
      obtain ⟨c, told, spent⟩ := Store.admitted_or_fewer faultless
      rw [← hrequest] at told spent
      simp only [told]
      rw [← left] at spent
      exact calm_judge (spent settings.thresholds) trades
  | resting time =>
    simp only [advance]
    by_cases ends : site.mayEnd time = true
    · rw [if_pos ends]
      exact .nears (Call.unharmed_start _) (by decide : 20 < 21) (.refl _ _)
    · rw [if_neg ends]
      exact .stays (eq_false_of_ne_true ends)
  | executing e =>
    obtain ⟨htask, hphase⟩ := follows
    simp only at htask hphase serves
    have served : site.store.holdings.Serves e.task.ids e.task.ns selection size := by
      rw [htask]
      exact serves
    have step := Execution.calm_advance hphase unharmed clean faultless served
    simp only [advance]
    generalize e.advance site = r at step
    obtain ⟨progress, site'⟩ := r
    cases step with
    | stays barred => exact .stays barred
    | nears unharmed' nearer trades => exact .nears unharmed' nearer trades
    | done ok trades => exact .done ok trades

end BatchUnit

end PacedPurge
