import PacedPurge.Proofs.Purge.Steadiness

/-!
# Pools come to their end

A pool at a site where nothing goes wrong comes to its end if no time is wasted
(`Pool.ends_promptly`), provided that the store relents and that a ticket of each kind is left when
the pool begins.

Nothing that the policy `Pool.promptly` chooses is in vain.  What has still to be done (`Pool.toGo`)
counts rows to come, stages to go and scripted reports.  A move lowers it, or it is one of three
that prepare for such a move.  A unit that is barred has its turn in vain, and then stands by
instead of in line (`Pool.stir`).  A round begins, and units that were put off are in line again
(`Pool.stalled`).  Or all wait, and time passes up to a moment that is waited for (`Pool.afar`).

And there is always something to choose.  Units that wait for tickets hold none, so that when all of
them do, the tickets are there.
-/

namespace PacedPurge

/-- Fewer elements are counted if one is not counted any more. -/
theorem countP_lt_of_mem {α : Type} {fewer more : α → Bool} {l : List α}
    (mono : ∀ x ∈ l, fewer x → more x) {x : α} (member : x ∈ l) (counted : more x = true)
    (gone : fewer x = false) : l.countP fewer < l.countP more := by
  obtain ⟨front, back, rfl⟩ := List.append_of_mem member
  have before : front.countP fewer ≤ front.countP more :=
    List.countP_mono_left fun y hy => mono y (List.mem_append_left _ hy)
  have behind : back.countP fewer ≤ back.countP more :=
    List.countP_mono_left fun y hy => mono y (List.mem_append_right _ (List.mem_cons_of_mem x hy))
  simp only [List.countP_append, List.countP_cons, counted, gone, if_true, Bool.false_eq_true,
    if_false]
  omega

/-! ## What stands in the way -/

namespace Call

variable {α : Type} {c : Call α} {site : Site}

/-- **What stands in the way of a call**, and what that says of the call and of where it is made. -/
inductive Hindered (c : Call α) (site : Site) : Option Hindrance → Prop where
  | nothing : Hindered c site none
  | moment (time : Nat) : Hindered c site (some (.moment time))
  | ticket (outside : c.stage.isInside = false)
      (lacking : ∃ kind, (site.store.tickets kind).available = false) :
      Hindered c site (some .ticket)
  | round (none_left : site.allowance = 0) : Hindered c site (some .round)
  | worker : Hindered c site (some .worker)

theorem hindered (c : Call α) (site : Site) : c.Hindered site (c.hindrance? site) := by
  obtain ⟨request, stage⟩ := c
  cases stage with
  | arriving => exact .nothing
  | held time error => exact .moment time
  | knocking =>
    simp only [hindrance?]
    by_cases admitted : site.store.admits request = true
    · rw [if_pos admitted]
      exact .nothing
    · rw [if_neg admitted]
      refine .ticket rfl ?_
      by_contra all
      refine admitted (Store.admits_of_available fun kind _ => ?_)
      by_contra missing
      exact all ⟨kind, eq_false_of_ne_true missing⟩
  | ticketed =>
    simp only [hindrance?]
    split
    · exact .nothing
    · next room => exact .round (Nat.eq_zero_of_not_pos room)
  | inside time =>
    cases time with
    | some time => exact .moment time
    | none =>
      simp only [hindrance?]
      split
      · exact .worker
      · exact .nothing

/-- A call that finds no ticket holds none, and lacks one of a kind that is not available. -/
theorem of_hindrance_ticket (h : c.hindrance? site = some .ticket) :
    c.stage.isInside = false ∧ ∃ kind, (site.store.tickets kind).available = false := by
  have hindered := c.hindered site
  rw [h] at hindered
  cases hindered with
  | ticket outside lacking => exact ⟨outside, lacking⟩

/-- A call waits for the round to end only when no wait can end in it. -/
theorem of_hindrance_round (h : c.hindrance? site = some .round) : site.allowance = 0 := by
  have hindered := c.hindered site
  rw [h] at hindered
  cases hindered with
  | round none_left => exact none_left

/-- A call waits for one moment wherever it is made, or for none anywhere. -/
theorem moment_cases (c : Call α) :
    (∃ time, ∀ site, c.hindrance? site = some (.moment time)) ∨
      ∀ site, (c.hindrance? site).bind Hindrance.moment? = none := by
  obtain ⟨request, stage⟩ := c
  cases stage with
  | arriving => exact .inr fun _ => rfl
  | held time error => exact .inl ⟨time, fun _ => rfl⟩
  | knocking =>
    refine .inr fun site => ?_
    simp only [hindrance?]
    split <;> rfl
  | ticketed =>
    refine .inr fun site => ?_
    simp only [hindrance?]
    split <;> rfl
  | inside time =>
    cases time with
    | some time => exact .inl ⟨time, fun _ => rfl⟩
    | none =>
      refine .inr fun site => ?_
      simp only [hindrance?]
      split <;> rfl

/-- For which moment a call waits does not depend on where it is made. -/
theorem moment_hindrance (c : Call α) (site site' : Site) :
    (c.hindrance? site').bind Hindrance.moment? = (c.hindrance? site).bind Hindrance.moment? := by
  obtain ⟨time, same⟩ | momentless := c.moment_cases
  · rw [same, same]
  · rw [momentless, momentless]

end Call

namespace BatchUnit

/-- What stands in the way of a unit, and what it holds, is the matter of the call that it has under
way, unless it rests. -/
theorem call_cases (u : BatchUnit) :
    (∃ time, (∀ site, u.hindrance? site = some (.moment time)) ∧ ∀ s, u.holding s = fun _ => 0) ∨
      ∃ (α : Type) (c : Call α), (∀ site, u.hindrance? site = c.hindrance? site) ∧
        ∀ s, u.holding s = c.holding s := by
  obtain ⟨bucket, phase⟩ := u
  cases phase with
  | sampling call => exact .inr ⟨_, call, fun _ => rfl, fun _ => rfl⟩
  | resting time => exact .inl ⟨time, fun _ => rfl, fun _ => rfl⟩
  | executing e => exact .inr e.call_cases

theorem of_hindrance_ticket {u : BatchUnit} {site : Site}
    (h : u.hindrance? site = some .ticket) :
    (∀ s, u.holding s = fun _ => 0) ∧ ∃ kind, (site.store.tickets kind).available = false := by
  obtain ⟨time, moment, -⟩ | ⟨α, c, same, holds⟩ := u.call_cases
  · rw [moment] at h
    cases h
  · rw [same] at h
    obtain ⟨outside, missing⟩ := Call.of_hindrance_ticket h
    refine ⟨fun s => ?_, missing⟩
    rw [holds, Call.holding_of_outside outside]

theorem of_hindrance_round {u : BatchUnit} {site : Site}
    (h : u.hindrance? site = some .round) : site.allowance = 0 := by
  obtain ⟨time, moment, -⟩ | ⟨α, c, same, -⟩ := u.call_cases
  · rw [moment] at h
    cases h
  · rw [same] at h
    exact Call.of_hindrance_round h

theorem moment_hindrance (u : BatchUnit) (site site' : Site) :
    (u.hindrance? site').bind Hindrance.moment? = (u.hindrance? site).bind Hindrance.moment? := by
  obtain ⟨time, moment, -⟩ | ⟨α, c, same, -⟩ := u.call_cases
  · rw [moment, moment]
  · rw [same, same]
    exact c.moment_hindrance site site'

theorem left_pos (u : BatchUnit) : 0 < u.left := by
  obtain ⟨bucket, phase⟩ := u
  cases phase with
  | sampling call => exact Nat.lt_of_lt_of_le (by decide) (Nat.le_add_right 15 _)
  | resting time => exact (by decide : 0 < 21)
  | executing e =>
    obtain ⟨task, attempts, phase⟩ := e
    cases phase with
    | deleting call => exact call.stage.left_pos
    | beginning call => exact Nat.lt_of_lt_of_le (by decide) (Nat.le_add_right 10 _)
    | staging txn call => exact Nat.lt_of_lt_of_le (by decide) (Nat.le_add_right 5 _)
    | aborting outcome call => exact call.stage.left_pos

/-- A stage lowers what a unit has to go and what is scripted, or the unit is barred. -/
theorem CalmStep.spent {t : Thresholds} {u : BatchUnit} {site site' : Site}
    {progress : BatchUnit.Progress} (step : CalmStep t u site progress site')
    (relents : site.store.Relents t) :
    (site.Bars (u.hindrance? site) ∧ progress = .running u ∧ site' = site) ∨
      (progress.units.map left).sum + 10 * site'.store.scripted <
        u.left + 10 * site.store.scripted := by
  cases step with
  | stays barred => exact .inl ⟨barred, rfl, rfl⟩
  | nears unharmed nearer trades =>
    refine .inr ?_
    have fewer := trades.scripted
    simp only [Progress.units, List.map_cons, List.map_nil, List.sum_singleton]
    omega
  | turnedAway unharmed spent trades =>
    refine .inr ?_
    simp only [Progress.units, List.map_cons, List.map_nil, List.sum_singleton]
    exact spent relents
  | done ok trades =>
    refine .inr ?_
    have fewer := trades.scripted
    have positive := u.left_pos
    simp only [Progress.units, List.map_nil, List.sum_nil]
    omega

end BatchUnit

/-! ## Sources that are ready -/

namespace RowSource

theorem delay_of_undelayed {arrivals : Arrivals} (undelayed : (known arrivals).Undelayed) :
    arrivals.delay? = none := by
  unfold Arrivals.delay?
  cases hrest : arrivals.rest with
  | nil => rfl
  | cons a rest => exact undelayed a (by rw [hrest]; exact List.mem_cons_self)

/-- A stream without delays waits for no moment. -/
theorem wake_of_undelayed {s : RowSource} (undelayed : s.Undelayed) : s.wake? = none := by
  cases s with
  | paged scan buffered => rfl
  | known arrivals =>
    show arrivals.asked.bind arrivals.due? = none
    cases arrivals.asked with
    | none => rfl
    | some now =>
      simp only [Option.bind_some, Arrivals.due?, delay_of_undelayed undelayed, Option.map_none]

/-- A stream without delays brings something when it is ready or a worker can read its page. -/
theorem poll_of_ready {s : RowSource} {site : Site} (undelayed : s.Undelayed)
    (ready : (s.isReady site || s.awaitsWorker site) = true) (time : Nat) :
    (s.poll site).1 ≠ .later time := by
  cases s with
  | known arrivals =>
    have undelayed : arrivals.due? site.clock = none := by
      rw [Arrivals.due?, delay_of_undelayed undelayed, Option.map_none]
    simp only [poll, undelayed]
    unfold Arrivals.take
    split
    · exact fun h => by cases h
    · exact fun h => by cases h
  | paged scan buffered =>
    cases buffered with
    | cons row rest => exact fun h => by cases h
    | nil =>
      simp only [poll]
      split
      · exact fun h => by cases h
      · next more =>
        have admitted : site.store.admits (.page scan) = true := by
          simp only [isReady, awaitsWorker, more, Bool.not_false, Bool.false_or, Bool.true_and]
            at ready
          exact ready
        rw [if_pos admitted]
        unfold takePage
        split
        · exact fun h => by cases h
        · split
          · exact fun h => by cases h
          · exact fun h => by cases h

/-- A stream without delays that has nothing to bring now waits for a ticket. -/
theorem missing_of_unready {s : RowSource} {site : Site} (undelayed : s.Undelayed)
    (unready : s.isReady site = false) (unread : s.awaitsWorker site = false) :
    ∃ kind, (site.store.tickets kind).available = false := by
  cases s with
  | known arrivals =>
    have unasked : arrivals.wake? = none := wake_of_undelayed undelayed
    simp only [isReady, unasked, Option.map_none, Option.getD_none, reduceCtorEq] at unready
  | paged scan buffered =>
    cases buffered with
    | cons row rest => cases unready
    | nil =>
      by_contra all
      have admitted : site.store.admits (.page scan) = true := by
        refine Store.admits_of_available fun kind _ => ?_
        by_contra missing
        exact all ⟨kind, eq_false_of_ne_true missing⟩
      simp only [isReady] at unready
      simp only [awaitsWorker, unready, Bool.not_false, Bool.true_and, admitted, reduceCtorEq]
        at unread

end RowSource

theorem BucketSource.pull_of_ready {s : BucketSource} {site : Site} (undelayed : s.rows.Undelayed)
    (ready : (s.rows.isReady site || s.rows.awaitsWorker site) = true) (time : Nat) :
    (s.pull site).1 ≠ .later time := fun waits =>
  RowSource.poll_of_ready undelayed ready time (poll_of_later waits)

/-! ## What has still to be done -/

namespace Pool

/-- What a source has still to bring, each row weighing more than a unit has to go. -/
def toBring (p : Pool) (h : Holdings) : Nat :=
  if p.fatal.isNone && !p.drained then 21 * (p.source.rows.supply h).rows.length + 1 else 0

/-- What a pool has still to do: rows to bring, stages to go, and scripted reports, each of which
may turn a unit away. -/
def toGo (p : Pool) (site : Site) : Nat :=
  p.toBring site.store.holdings + (p.units.map BatchUnit.left).sum + 10 * site.store.scripted

/-- Whether a round has to begin before some task can go on. -/
def stalled (p : Pool) (site : Site) : Nat :=
  if p.line.hasPutOff = true ∨ site.allowance = 0 then 1 else 0

/-- Whether a unit waits for a moment that is still to come. -/
def isAfar (site : Site) (u : BatchUnit) : Bool :=
  match (u.hindrance? site).bind Hindrance.moment? with
  | some time => site.clock < time
  | none => false

/-- How many units wait for moments that are still to come. -/
def afar (p : Pool) (site : Site) : Nat := p.units.countP (isAfar site)

/-- How many turns in vain a unit may have from where it stands. -/
def stirOf : Standing → Nat
  | .inLine => 2
  | .waiting => 1
  | .putOff => 0

/-- How many turns in vain there may be before a round begins. -/
def stir (p : Pool) : Nat := (p.line.map fun a => stirOf a.standing).sum

theorem stalled_le (p : Pool) (site : Site) : p.stalled site ≤ 1 := by
  unfold stalled
  split <;> omega

theorem stalled_eq_zero_iff {p : Pool} {site : Site} :
    p.stalled site = 0 ↔ p.line.hasPutOff = false ∧ site.allowance ≠ 0 := by
  unfold stalled
  by_cases off : p.line.hasPutOff = true ∨ site.allowance = 0
  · rw [if_pos off]
    refine ⟨fun h => (nomatch h), fun ⟨none_off, some_left⟩ => ?_⟩
    obtain h | h := off
    · rw [h] at none_off
      cases none_off
    · exact absurd h some_left
  · rw [if_neg off]
    rw [not_or] at off
    exact ⟨fun _ => ⟨eq_false_of_ne_true off.1, off.2⟩, fun _ => rfl⟩

section Measures

variable {origin : Store} {settings : PoolSettings} {before : Holdings} {first : Supply}
  {size room : Nat} {selection : Selection} {found : List Candidate} {p q : Pool}
  {site site' : Site} {ds : History}

theorem toGo_of_alike (alike : p.Alike q) (kept : site.Kept site') :
    q.toGo site' = p.toGo site := by
  unfold toGo toBring
  rw [kept.store, alike.fatal, alike.drained, alike.source, (alike.units.map _).sum_nat]

/-- Rows that were delivered and rows to come are all rows. -/
theorem Conduct.length_supply (conduct : Conduct settings before first size found.length p site ds)
    (active : p.fatal = none ∧ p.drained = false) :
    (p.source.rows.supply site.store.holdings).rows.length +
      (ds.taken.flatMap (·.ids) ++ p.source.assembly.held).length = first.rows.length := by
  obtain ⟨n, intake⟩ := conduct.intake
  have within := intake.cut.within
  rw [(intake.stands active.1 active.2).supply, intake.cut.delivered, List.length_map,
    List.length_take, List.length_drop]
  omega

/-- **A source that is ready brings the pool nearer to its end.** -/
theorem toGo_moveSource (outset : Outset settings before first size found)
    (conduct : Conduct settings before first size found.length p site ds)
    (steady : p.Steady origin first site ds) (takesIn : p.takesIn = true)
    (ready : (p.source.rows.isReady site || p.source.rows.awaitsWorker site) = true) :
    (p.moveSource site).1.toGo (p.moveSource site).2 < p.toGo site := by
  obtain ⟨alike, kept⟩ := alike_moveSource takesIn site
  rw [toGo_of_alike alike kept]
  obtain ⟨hfatal, hdrained⟩ := active_of_takesIn takesIn
  have timely : ∀ time, (p.source.pull site).1 ≠ .later time :=
    BucketSource.pull_of_ready steady.undelayed ready
  have fewer := (p.source.trades_pull site).scripted
  have after := conduct.pulled outset takesIn
  have rows := conduct.length_supply ⟨hfatal, hdrained⟩
  obtain ⟨n, intake⟩ := conduct.intake
  have step := (BucketSource.pull_cases outset.delivers (intake.stands hfatal hdrained)).1
  have now : p.toBring site.store.holdings =
      21 * (p.source.rows.supply site.store.holdings).rows.length + 1 := by
    simp only [toBring, hfatal, hdrained, Option.isNone_none, Bool.not_false, Bool.and_self,
      if_true]
  unfold toGo
  rw [now]
  generalize p.source.pull site = r at timely fewer after step
  obtain ⟨answer, source, site'⟩ := r
  simp only at fewer after
  have closing : (p.afterPull source answer).fatal.isNone = false ∨
      (p.afterPull source answer).drained = true → (p.afterPull source answer).units = p.units →
      (p.afterPull source answer).toBring site'.store.holdings +
          ((p.afterPull source answer).units.map BatchUnit.left).sum + 10 * site'.store.scripted <
        21 * (p.source.rows.supply site.store.holdings).rows.length + 1 +
          (p.units.map BatchUnit.left).sum + 10 * site.store.scripted := by
    intro closed units
    have nothing : (p.afterPull source answer).toBring site'.store.holdings = 0 := by
      unfold toBring
      obtain failed | drained := closed
      · rw [failed]
        rfl
      · rw [drained, Bool.not_true, Bool.and_false]
        rfl
    rw [nothing, units]
    omega
  have brought : (p.afterPull source answer).fatal = none ∧
        (p.afterPull source answer).drained = false →
      ((History.taken (ds ++ answer.deeds)).flatMap (·.ids) ++
          (p.afterPull source answer).source.assembly.held).length =
        (ds.taken.flatMap (·.ids) ++ p.source.assembly.held).length + 1 →
      ((p.afterPull source answer).units.map BatchUnit.left).sum ≤
        (p.units.map BatchUnit.left).sum + 20 →
      (p.afterPull source answer).toBring site'.store.holdings +
          ((p.afterPull source answer).units.map BatchUnit.left).sum + 10 * site'.store.scripted <
        21 * (p.source.rows.supply site.store.holdings).rows.length + 1 +
          (p.units.map BatchUnit.left).sum + 10 * site.store.scripted := by
    intro active delivered units
    have rows' := after.length_supply active
    have then_left : (p.afterPull source answer).toBring site'.store.holdings = 21 *
        ((p.afterPull source answer).source.rows.supply site'.store.holdings).rows.length + 1 := by
      simp only [toBring, active.1, active.2, Option.isNone_none, Bool.not_false, Bool.and_self,
        if_true]
    rw [then_left]
    omega
  cases step with
  | later stands same => exact absurd rfl (timely _)
  | taken stands next last held =>
    refine brought ⟨hfatal, hdrained⟩ ?_ (Nat.le_add_right _ 20)
    have same : History.taken (ds ++ Pulled.taken.deeds) = ds.taken :=
      congrArg History.taken (List.append_nil ds)
    show (_ ++ source.assembly.held).length = _
    rw [same, held, ← List.append_assoc, List.length_append, List.length_singleton]
  | @bucket row b _ stands next last number ids held =>
    refine brought ⟨hfatal, hdrained⟩ ?_ ?_
    · have more : History.taken (ds ++ (Pulled.bucket b).deeds) = ds.taken ++ [b] :=
        History.taken_append ds [.taken b]
      show (_ ++ source.assembly.held).length = _
      rw [more, held, List.append_nil, List.flatMap_append, List.flatMap_singleton, ids,
        ← List.append_assoc, List.length_append, List.length_singleton]
    · have units : (p.afterPull source (.bucket b)).units = p.units ++ [.start b] :=
        Line.tasks_join p.line (.start b)
      rw [units, List.map_append, List.sum_append]
      exact Nat.le_refl _
  | ended all whole same => exact closing (.inr rfl) rfl
  | failed same => exact closing (.inl rfl) rfl

/-- The unit at a position has gone on, and the source has as much to bring as before. -/
theorem toBring_afterTurn (outset : Outset settings before first size found)
    (conduct : Conduct settings before first size found.length p site ds)
    {position : Nat} {a : Attended BatchUnit} (place : p.line[position]? = some a)
    (untroubled : (a.task.advance p.settings site).1.troubles a.task.bucket = []) :
    (p.afterTurn position a.task.bucket (a.task.advance p.settings site).1).toBring
      (a.task.advance p.settings site).2.store.holdings = p.toBring site.store.holdings := by
  have after := conduct.advanced outset place
  have none_taken : History.taken (ds ++ a.task.deeds p.settings site) = ds.taken := by
    obtain ⟨htaken, -, -⟩ := a.task.views_callDeeds
    rw [History.taken_append, BatchUnit.deeds_eq, History.taken_append, htaken, List.nil_append]
    cases (a.task.advance p.settings site).1 <;> exact List.append_nil _
  generalize a.task.deeds p.settings site = more at after none_taken
  generalize a.task.advance p.settings site = r at untroubled after
  obtain ⟨progress, site'⟩ := r
  have same : (p.afterTurn position a.task.bucket progress).source = p.source ∧
      (p.afterTurn position a.task.bucket progress).fatal = p.fatal ∧
      (p.afterTurn position a.task.bucket progress).drained = p.drained := by
    cases progress with
    | failed e => cases untroubled
    | _ => exact ⟨rfl, rfl, rfl⟩
  obtain ⟨source, fatal, drained⟩ := same
  simp only [toBring, source, fatal, drained]
  by_cases active : (p.fatal.isNone && !p.drained) = true
  · rw [if_pos active, if_pos active]
    simp only [Bool.and_eq_true, Option.isNone_iff_eq_none, Bool.not_eq_true'] at active
    have rows := conduct.length_supply active
    have rows' := after.length_supply ⟨fatal.trans active.1, drained.trans active.2⟩
    simp only [source, none_taken] at rows'
    omega
  · rw [if_neg active, if_neg active]

/-- **A unit that has its turn brings the pool nearer to its end**, unless it is barred; then it
stands elsewhere, and nothing else has changed. -/
theorem toGo_moveUnit (outset : Outset settings before first size found)
    (serves : before.Serves (found.map (·.2)) settings.ns selection room)
    (faultless : origin.Faultless) (relents : origin.Relents settings.thresholds)
    (conduct : Conduct settings before first size found.length p site ds)
    (steady : p.Steady origin first site ds) {position : Nat} {a : Attended BatchUnit}
    (place : p.line[position]? = some a) (turn : (hasTurn site a || awaitsWorker site a) = true) :
    (site.Bars (a.task.hindrance? site) ∧
        p.moveUnit position site = (p.putUnit position a.task site, site)) ∨
      (p.moveUnit position site).1.toGo (p.moveUnit position site).2 < p.toGo site := by
  have parted := parted_of_place place
  obtain ⟨alone, step⟩ := steady.unit_step outset serves faultless conduct place
  obtain ⟨-, -, -, untroubled⟩ := step.outcome alone a.task.bucket
  have spent := step.spent (steady.kin.relents _ relents)
  obtain ⟨barred, stayed, unmoved⟩ | nearer := spent
  · refine .inl ⟨barred, ?_⟩
    have still : a.task.advance p.settings site = (.running a.task, site) := Prod.ext stayed unmoved
    simp only [moveUnit, place, if_pos turn, still]
  · obtain ⟨alike, kept⟩ := alike_moveUnit place turn
    refine .inr ?_
    rw [toGo_of_alike alike kept]
    unfold toGo
    rw [toBring_afterTurn outset conduct place untroubled, units_afterTurn, List.map_append,
      List.sum_append, (parted.map _).sum_nat, List.map_cons, List.sum_cons]
    omega

end Measures

/-! ## Moves that prepare for others -/

/-- A task that is barred does not stay in line.  It waits for what is still to come, or it is put
off as long as no wait can end. -/
theorem afterTurn_of_barred {site : Site} {h : Option Hindrance} (barred : site.Bars h) :
    (Standing.afterTurn site h = .waiting ∧ site.isPast h = false) ∨
      (Standing.afterTurn site h = .putOff ∧ (site.allowance = 0 ∨ h = some .round)) := by
  unfold Site.Bars at barred
  split at barred
  · next time =>
    simp only [Site.mayEnd, Bool.and_eq_false_iff, decide_eq_false_iff_not] at barred
    unfold Standing.afterTurn
    by_cases none_left : site.allowance = 0
    · exact .inr ⟨if_pos none_left, .inl none_left⟩
    · have later : ¬time ≤ site.clock := by omega
      refine .inl ⟨?_, decide_eq_false later⟩
      simp only [if_neg none_left, if_neg later]
  · exact .inl ⟨rfl, rfl⟩
  · exact .inr ⟨rfl, .inr rfl⟩
  · cases barred
  · cases barred

section Preparing

variable {p : Pool} {site : Site} {position : Nat} {a : Attended BatchUnit}

theorem stir_eq (place : p.line[position]? = some a) :
    p.stir =
      stirOf a.standing + ((p.line.eraseIdx position).map fun a => stirOf a.standing).sum := by
  obtain ⟨inside, found⟩ := List.getElem?_eq_some_iff.mp place
  have erased := (List.getElem_cons_eraseIdx_perm inside).map fun a => stirOf a.standing
  rw [found] at erased
  rw [stir, ← erased.sum_nat, List.map_cons, List.sum_cons]

/-- **A turn in vain** leaves less to stir, and everything else as it is. -/
theorem putUnit_of_barred (place : p.line[position]? = some a)
    (turn : (hasTurn site a || awaitsWorker site a) = true)
    (barred : site.Bars (a.task.hindrance? site)) :
    (p.putUnit position a.task site).toGo site = p.toGo site ∧
      (p.putUnit position a.task site).stalled site ≤ p.stalled site ∧
      (p.putUnit position a.task site).afar site = p.afar site ∧
      (p.putUnit position a.task site).stir < p.stir := by
  obtain ⟨inside, found⟩ := List.getElem?_eq_some_iff.mp place
  have alike : p.Alike (p.putUnit position a.task site) := by
    refine .trans ?_ (alike_putUnit place a.task site)
    refine { Alike.refl p with units := ?_ }
    rw [units, Line.tasks_join]
    exact (List.perm_append_singleton _ _).trans (parted_of_place place).symm
  have standing := afterTurn_of_barred barred
  have apart : Standing.afterTurn site (a.task.hindrance? site) ≠ .inLine := by
    obtain ⟨waiting, -⟩ | ⟨putOff, -⟩ := standing
    · rw [waiting]
      exact fun h => by cases h
    · rw [putOff]
      exact fun h => by cases h
  have line : (p.putUnit position a.task site).line = p.line.eraseIdx position ++
      [⟨a.task, .afterTurn site (a.task.hindrance? site)⟩] := by
    simp only [putUnit, Line.put, if_neg apart]
  refine ⟨toGo_of_alike alike ⟨rfl, rfl⟩, ?_, alike.units.countP_eq _, ?_⟩
  · -- The unit is put off only when no wait can end, which stalls the pool anyway.
    by_cases fresh : p.stalled site = 0
    · obtain ⟨none_off, some_left⟩ := stalled_eq_zero_iff.mp fresh
      have waiting : Standing.afterTurn site (a.task.hindrance? site) = .waiting := by
        obtain ⟨waiting, -⟩ | ⟨-, none_left | round⟩ := standing
        · exact waiting
        · exact absurd none_left some_left
        · exact absurd (BatchUnit.of_hindrance_round round) some_left
      have still : (p.putUnit position a.task site).stalled site = 0 := by
        refine stalled_eq_zero_iff.mpr ⟨?_, some_left⟩
        rw [line, waiting, Line.hasPutOff, List.any_append, Bool.or_eq_false_iff]
        refine ⟨List.any_eq_false.mpr fun other hother => ?_, rfl⟩
        exact List.any_eq_false.mp none_off other (List.mem_of_mem_eraseIdx hother)
      rw [still]
      exact Nat.zero_le _
    · have := stalled_le (p.putUnit position a.task site) site
      omega
  · have less : stirOf (.afterTurn site (a.task.hindrance? site)) < stirOf a.standing := by
      cases hstanding : a.standing with
      | putOff =>
        simp only [hasTurn, awaitsWorker, hstanding, Standing.hasTurn, Standing.awaitsWorker,
          reduceCtorEq, decide_false, Bool.false_and, Bool.or_self] at turn
      | inLine =>
        obtain ⟨waiting, -⟩ | ⟨putOff, -⟩ := standing
        · rw [waiting]
          decide
        · rw [putOff]
          decide
      | waiting =>
        obtain ⟨-, ahead⟩ | ⟨putOff, -⟩ := standing
        · simp only [hasTurn, awaitsWorker, hstanding, Standing.hasTurn, Standing.awaitsWorker,
            ahead, Bool.false_or, Bool.and_eq_true, decide_eq_true_eq] at turn
          rw [turn.2] at barred
          cases barred
        · rw [putOff]
          decide
    rw [stir_eq place, stir, line, List.map_append, List.sum_append, List.map_singleton,
      List.sum_singleton, Nat.add_comm]
    exact Nat.add_lt_add_right less _

/-- No task is put off when a round begins. -/
theorem hasPutOff_nextRound (line : Line BatchUnit) : line.nextRound.hasPutOff = false := by
  rw [Line.hasPutOff, List.any_eq_false]
  intro a ha
  rw [Line.nextRound, List.mem_append, List.mem_filter, List.mem_map] at ha
  obtain ⟨-, standing⟩ | ⟨other, -, rfl⟩ := ha
  · simpa using standing
  · unfold Line.rejoin
    split
    · exact fun h => by cases h
    · next standing => exact standing

/-- **When a round begins**, nothing stalls the pool. -/
theorem stalled_beginRound (p : Pool) (site : Site) :
    (p.beginRound site).1.toGo (p.beginRound site).2 = p.toGo site ∧
      (p.beginRound site).1.stalled (p.beginRound site).2 = 0 := by
  refine ⟨toGo_of_alike (alike_beginRound p site) ⟨rfl, rfl⟩, ?_⟩
  exact stalled_eq_zero_iff.mpr ⟨hasPutOff_nextRound p.line, (by decide : Clock.waitsPerRound ≠ 0)⟩

/-- **When time passes** up to a moment that a unit waits for, that unit waits no longer. -/
theorem afar_wait {u : BatchUnit} {time : Nat} (unit : u ∈ p.units) (ahead : site.clock < time)
    (moment : (u.hindrance? site).bind Hindrance.moment? = some time) (fresh : p.stalled site = 0) :
    let site' := site.waitUntil (site.clock + (time - site.clock))
    p.toGo site' = p.toGo site ∧ p.stalled site' = 0 ∧ p.afar site' < p.afar site := by
  intro site'
  have reached : site' = { site.newRound with clock := time } := by
    have sum : site.clock + (time - site.clock) = time := by omega
    simp only [site', sum, Site.waitUntil, if_pos ahead]
  refine ⟨?_, ?_, ?_⟩
  · rw [reached]
    exact toGo_of_alike (.refl p) ⟨rfl, rfl⟩
  · refine stalled_eq_zero_iff.mpr ⟨(stalled_eq_zero_iff.mp fresh).1, ?_⟩
    rw [reached]
    exact (by decide : Clock.waitsPerRound ≠ 0)
  · have clock : site'.clock = time := by rw [reached]
    unfold afar
    refine countP_lt_of_mem ?_ unit ?_ ?_
    · intro other _ far
      unfold isAfar at far ⊢
      rw [other.moment_hindrance site site', clock] at far
      split at far
      · simp only [decide_eq_true_eq] at far ⊢
        omega
      · cases far
    · simp only [isAfar, moment, ahead, decide_true]
    · rw [isAfar, u.moment_hindrance site site', moment, clock]
      simp

end Preparing

/-! ## What comes next -/

/-- **What the policy chooses that wastes no time**, and what it has seen then. -/
inductive Choice (p : Pool) (site : Site) : Option Move → Prop where
  | source (takesIn : p.takesIn = true)
      (ready : (p.source.rows.isReady site || p.source.rows.awaitsWorker site) = true) :
      Choice p site (some .source)
  | unit {position : Nat} {a : Attended BatchUnit} (place : p.line[position]? = some a)
      (turn : (hasTurn site a || awaitsWorker site a) = true) :
      Choice p site (some (.unit position))
  | round (stalled : p.stalled site ≠ 0) : Choice p site (some .round)
  | wait (fresh : p.stalled site = 0)
      (idle : ∀ a ∈ p.line, hasTurn site a = false ∧ awaitsWorker site a = false)
      (unready : p.takesIn = true →
        p.source.rows.isReady site = false ∧ p.source.rows.awaitsWorker site = false) :
      Choice p site ((p.wake? site).map fun t => .wait (t - site.clock))

theorem promptly_cases (p : Pool) (site : Site) : Choice p site (promptly p site) := by
  have found : ∀ {test : Attended BatchUnit → Bool} {position : Nat},
      p.line.findIdx? test = some position →
      ∃ a, p.line[position]? = some a ∧ test a = true := by
    intro test position h
    obtain ⟨inside, holds, -⟩ := List.findIdx?_eq_some_iff_getElem.mp h
    exact ⟨p.line[position], List.getElem?_eq_getElem inside, holds⟩
  unfold promptly
  by_cases ready : (p.takesIn && p.source.rows.isReady site) = true
  · rw [if_pos ready]
    obtain ⟨takesIn, isReady⟩ := Bool.and_eq_true_iff.mp ready
    exact .source takesIn (by rw [isReady, Bool.true_or])
  · rw [if_neg ready]
    cases turn : p.line.findIdx? (hasTurn site) with
    | some position =>
      obtain ⟨a, place, hasIt⟩ := found turn
      exact .unit place (by rw [hasIt, Bool.true_or])
    | none =>
      simp only
      by_cases off : (p.line.hasPutOff || decide (site.allowance = 0)) = true
      · rw [if_pos off]
        refine .round fun fresh => ?_
        obtain ⟨none_off, some_left⟩ := stalled_eq_zero_iff.mp fresh
        rw [none_off, Bool.false_or, decide_eq_true_eq] at off
        exact some_left off
      · rw [if_neg off]
        have fresh : p.stalled site = 0 := by
          rw [Bool.or_eq_true, not_or, decide_eq_true_eq] at off
          exact stalled_eq_zero_iff.mpr ⟨eq_false_of_ne_true off.1, off.2⟩
        cases worker : p.line.findIdx? (awaitsWorker site) with
        | some position =>
          obtain ⟨a, place, awaits⟩ := found worker
          exact .unit place (by rw [awaits, Bool.or_true])
        | none =>
          simp only
          by_cases page : (p.takesIn && p.source.rows.awaitsWorker site) = true
          · rw [if_pos page]
            obtain ⟨takesIn, awaits⟩ := Bool.and_eq_true_iff.mp page
            exact .source takesIn (by rw [awaits, Bool.or_true])
          · rw [if_neg page]
            refine .wait fresh (fun a ha => ?_) fun takesIn => ?_
            · exact ⟨List.findIdx?_eq_none_iff.mp turn a ha,
                List.findIdx?_eq_none_iff.mp worker a ha⟩
            · rw [takesIn, Bool.true_and] at ready page
              exact ⟨eq_false_of_ne_true ready, eq_false_of_ne_true page⟩

/-- The earliest of some times is one of them. -/
theorem mem_of_earliest {times : List (Option Nat)} {t : Nat} (h : earliest times = some t) :
    some t ∈ times := by
  induction times generalizing t with
  | nil => cases h
  | cons first rest ih =>
    cases first with
    | none => exact List.mem_cons_of_mem _ (ih h)
    | some time =>
      simp only [earliest] at h
      cases later : earliest rest with
      | none =>
        rw [later] at h
        rw [← h]
        exact List.mem_cons_self
      | some other =>
        rw [later] at h
        obtain rfl := Option.some.inj h
        obtain sooner | sooner := Nat.le_total time other
        · rw [Nat.min_eq_left sooner]
          exact List.mem_cons_self
        · rw [Nat.min_eq_right sooner]
          exact List.mem_cons_of_mem _ (ih later)

theorem eq_none_of_earliest {times : List (Option Nat)} (h : earliest times = none) :
    ∀ time ∈ times, time = none := by
  induction times with
  | nil => exact fun time htime => by cases htime
  | cons first rest ih =>
    cases first with
    | none =>
      intro time htime
      obtain rfl | later := List.mem_cons.mp htime
      · rfl
      · exact ih h time later
    | some t =>
      simp only [earliest] at h
      split at h
      · cases h
      · cases h

section Ends

variable {origin : Store} {settings : PoolSettings} {before : Holdings} {first : Supply}
  {size room : Nat} {selection : Selection} {found : List Candidate}

/-- Tickets are there if no unit holds one. -/
theorem Steady.available {p : Pool} {site : Site} {ds : History}
    (steady : p.Steady origin first site ds)
    (spare : ∀ kind, (origin.tickets kind).available = true)
    (empty : ∀ u ∈ p.units, u.holding origin = fun _ => 0) (kind : TicketKind) :
    (site.store.tickets kind).available = true := by
  have none_held : (p.units.map fun u => u.holding origin kind).sum = 0 := by
    refine List.sum_eq_zero fun held hheld => ?_
    obtain ⟨u, hu, rfl⟩ := List.mem_map.mp hheld
    rw [empty u hu]
  have free := (Tickets.available_iff _).mp (spare kind)
  have out := steady.balanced spare kind
  have total := steady.kin.total kind
  rw [Tickets.available_iff]
  omega

/-- **There is always a moment to wait for** when nothing else can be done.  Otherwise all units
would wait for tickets, and the source as well; but then the tickets would be there. -/
theorem wake_of_idle {p : Pool} {site : Site} {ds : History}
    (steady : p.Steady origin first site ds)
    (spare : ∀ kind, (origin.tickets kind).available = true) (going : ¬p.isOver = true)
    (fresh : p.stalled site = 0)
    (idle : ∀ a ∈ p.line, hasTurn site a = false ∧ awaitsWorker site a = false)
    (unready : p.takesIn = true →
      p.source.rows.isReady site = false ∧ p.source.rows.awaitsWorker site = false) :
    ∃ time u, p.wake? site = some time ∧ u ∈ p.units ∧
      (u.hindrance? site).bind Hindrance.moment? = some time ∧ site.clock < time := by
  obtain ⟨none_off, some_left⟩ := stalled_eq_zero_iff.mp fresh
  have ahead : ∀ u ∈ p.units, site.isPast (u.hindrance? site) = false ∧
      u.hindrance? site ≠ some .worker := by
    intro u hu
    obtain ⟨a, ha, rfl⟩ := List.mem_map.mp hu
    obtain ⟨unturned, unserved⟩ := idle a ha
    have on : a.standing ≠ .putOff := by
      intro standing
      have none_so := List.any_eq_false.mp none_off a ha
      rw [Line.isPutOff, standing] at none_so
      exact none_so rfl
    unfold hasTurn at unturned
    unfold awaitsWorker at unserved
    cases standing : a.standing with
    | putOff => exact absurd standing on
    | inLine =>
      rw [standing] at unturned
      cases unturned
    | waiting =>
      rw [standing] at unturned unserved
      refine ⟨unturned, fun worker => ?_⟩
      rw [worker] at unserved
      cases unserved
  cases hwake : p.wake? site with
  | some time =>
    have member := mem_of_earliest hwake
    obtain source | unit := List.mem_cons.mp member
    · rw [RowSource.wake_of_undelayed steady.undelayed] at source
      split at source
      · cases source
      · cases source
    · obtain ⟨u, hu, moment⟩ := List.mem_map.mp unit
      refine ⟨time, u, rfl, hu, moment, ?_⟩
      have past := (ahead u hu).1
      cases hindered : u.hindrance? site with
      | none =>
        rw [hindered] at moment
        cases moment
      | some h =>
        rw [hindered] at moment past
        cases h with
        | moment t =>
          obtain rfl := Option.some.inj moment
          simp only [Site.isPast, decide_eq_false_iff_not] at past
          omega
        | _ => cases moment
  | none =>
    have momentless := eq_none_of_earliest hwake
    have lacking : ∀ u ∈ p.units, u.hindrance? site = some .ticket := by
      intro u hu
      obtain ⟨past, unserved⟩ := ahead u hu
      have no_moment := momentless _ (List.mem_cons_of_mem _ (List.mem_map_of_mem hu))
      cases hindered : u.hindrance? site with
      | none =>
        rw [hindered] at past
        cases past
      | some h =>
        rw [hindered] at no_moment
        cases h with
        | moment t => cases no_moment
        | ticket => rfl
        | round => exact absurd (BatchUnit.of_hindrance_round hindered) some_left
        | worker => exact absurd hindered unserved
    have there := steady.available spare fun u hu =>
      (BatchUnit.of_hindrance_ticket (lacking u hu)).1 origin
    exfalso
    cases hline : p.line with
    | cons a rest =>
      have unit : a.task ∈ p.units := by
        rw [units, hline]
        exact List.mem_cons_self
      obtain ⟨-, kind, missing⟩ := BatchUnit.of_hindrance_ticket (lacking a.task unit)
      rw [there kind] at missing
      cases missing
    | nil =>
      have takesIn : p.takesIn = true := by
        simpa only [isOver, hline, List.isEmpty_nil, Bool.and_true, Bool.not_eq_true',
          Bool.not_eq_false] using going
      obtain ⟨notReady, unread⟩ := unready takesIn
      obtain ⟨kind, missing⟩ := RowSource.missing_of_unready steady.undelayed notReady unread
      rw [there kind] at missing
      cases missing

/-- What is ahead of a pool, the weightiest first. -/
def ahead (p : Pool) (site : Site) : Nat × Nat × Nat × Nat :=
  (p.toGo site, p.stalled site, p.afar site, p.stir)

/-- Less is ahead, or as much and fewer preparations. -/
def Nearer (p' : Pool) (site' : Site) (p : Pool) (site : Site) : Prop :=
  Prod.Lex (· < ·) (Prod.Lex (· < ·) (Prod.Lex (· < ·) (· < ·))) (p'.ahead site') (p.ahead site)

/-- **The policy that wastes no time always has a move, and it brings the pool nearer to its end.**
-/
theorem promptly_nears {p : Pool} {site : Site} {ds : History}
    (outset : Outset settings before first size found)
    (serves : before.Serves (found.map (·.2)) settings.ns selection room)
    (faultless : origin.Faultless) (relents : origin.Relents settings.thresholds)
    (spare : ∀ kind, (origin.tickets kind).available = true)
    (conduct : Conduct settings before first size found.length p site ds)
    (steady : p.Steady origin first site ds) (going : ¬p.isOver = true) :
    ∃ m, promptly p site = some m ∧ Nearer (p.move site m).1 (p.move site m).2 p site := by
  have choice := promptly_cases p site
  unfold Nearer ahead
  generalize promptly p site = chosen at choice
  cases choice with
  | source takesIn ready =>
    exact ⟨.source, rfl, .left _ _ (toGo_moveSource outset conduct steady takesIn ready)⟩
  | @unit position a place turn =>
    refine ⟨.unit position, rfl, ?_⟩
    obtain ⟨barred, unmoved⟩ | nearer :=
      toGo_moveUnit outset serves faultless relents conduct steady place turn
    · obtain ⟨toGo, stalled, afar, stir⟩ := putUnit_of_barred place turn barred
      simp only [move, unmoved]
      rw [toGo, afar]
      refine .right _ ?_
      obtain fewer | same := Nat.lt_or_eq_of_le stalled
      · exact .left _ _ fewer
      · rw [same]
        exact .right _ (.right _ stir)
    · exact .left _ _ nearer
  | round stalled =>
    refine ⟨.round, rfl, ?_⟩
    obtain ⟨toGo, fresh⟩ := stalled_beginRound p site
    simp only [move]
    rw [toGo, fresh]
    exact .right _ (.left _ _ (Nat.pos_of_ne_zero stalled))
  | wait fresh idle unready =>
    obtain ⟨time, u, wake, unit, moment, ahead⟩ :=
      wake_of_idle steady spare going fresh idle unready
    refine ⟨.wait (time - site.clock), by rw [wake]; rfl, ?_⟩
    obtain ⟨toGo, still, afar⟩ := afar_wait unit ahead moment fresh
    simp only [move]
    rw [toGo, still, fresh]
    exact .right _ (.right _ (.left _ _ afar))

/-- **A pool comes to its end** if no time is wasted, wherever it stands. -/
theorem ends_promptly {p : Pool} {site : Site} {ds : History}
    (outset : Outset settings before first size found)
    (serves : before.Serves (found.map (·.2)) settings.ns selection room)
    (faultless : origin.Faultless) (relents : origin.Relents settings.thresholds)
    (spare : ∀ kind, (origin.tickets kind).available = true)
    (conduct : Conduct settings before first size found.length p site ds)
    (steady : p.Steady origin first site ds) :
    ∃ fuel, (p.play promptly fuel site).1.isOver = true := by
  by_cases stopped : p.isOver = true
  · exact ⟨0, stopped⟩
  · obtain ⟨m, chosen, nearer⟩ :=
      promptly_nears outset serves faultless relents spare conduct steady stopped
    obtain ⟨fuel, ended⟩ := ends_promptly outset serves faultless relents spare
      (conduct.moved outset m) (steady.moved outset serves faultless conduct m)
    refine ⟨fuel + 1, ?_⟩
    rw [play, if_neg stopped, chosen]
    exact ended
termination_by p.ahead site
decreasing_by exact nearer

end Ends

end Pool

end PacedPurge
