import PacedPurge.Proofs.Load.Tiers

/-!
# Lost counters

A store may leave out any of the counters that it reports.  A percentage that lacks one of its two
counters, or whose whole is zero, reads as zero and is listed as missing.  No percentage is below
zero, so what is lost lowers readings and raises none: the marks are the same, since those of the
store itself are not counters, and the decision cannot get stricter.  That zero may be above the
marks of a gauge, which can be negative, changes nothing in this.

The list of what is missing grows by the percentages that could be told before and now lack a
counter, by each of them once, and the order of the list is kept (`Snapshot.losses_never_stricter`).
-/

namespace PacedPurge

/-- The counters of a status report that are numbers. -/
inductive Counter where
  | cacheInUse
  | cacheMax
  | cacheDirty
  | cacheUpdates
  | readTicketsOut
  | readTicketsTotal
  | writeTicketsOut
  | writeTicketsTotal
  | checkpointRunning
  | checkpointInterval
  | replicationLag
  | heapAllocated
  | heapFragmented
  deriving DecidableEq, Repr

/-- A status report without the counters that are lost. -/
def Counters.without (c : Counters) (lost : Counter → Bool) : Counters :=
  let left (counter : Counter) (value : Option Nat) := if lost counter then none else value
  { cacheInUse := left .cacheInUse c.cacheInUse
    cacheMax := left .cacheMax c.cacheMax
    cacheDirty := left .cacheDirty c.cacheDirty
    cacheUpdates := left .cacheUpdates c.cacheUpdates
    readTicketsOut := left .readTicketsOut c.readTicketsOut
    readTicketsTotal := left .readTicketsTotal c.readTicketsTotal
    writeTicketsOut := left .writeTicketsOut c.writeTicketsOut
    writeTicketsTotal := left .writeTicketsTotal c.writeTicketsTotal
    checkpointRunning := left .checkpointRunning c.checkpointRunning
    checkpointInterval := left .checkpointInterval c.checkpointInterval
    replicationLag := left .replicationLag c.replicationLag
    heapAllocated := left .heapAllocated c.heapAllocated
    heapFragmented := left .heapFragmented c.heapFragmented
    eviction := c.eviction }

namespace Gauge

/-- The counters that a percentage is made of: that of the part, and that of the whole. -/
def counters : Gauge → Counter × Counter
  | .cache => (.cacheInUse, .cacheMax)
  | .dirty => (.cacheDirty, .cacheMax)
  | .updates => (.cacheUpdates, .cacheMax)
  | .readTickets => (.readTicketsOut, .readTicketsTotal)
  | .writeTickets => (.writeTicketsOut, .writeTicketsTotal)
  | .checkpoint => (.checkpointRunning, .checkpointInterval)

/-- Whether the percentage has lost a counter that it is made of. -/
def loses (g : Gauge) (lost : Counter → Bool) : Bool := lost g.counters.1 || lost g.counters.2

variable (g : Gauge) (c : Counters) (lost : Counter → Bool)

theorem part_without : g.part (c.without lost) = if lost g.counters.1 then none else g.part c := by
  cases g <;> rfl

theorem whole_without :
    g.whole (c.without lost) = if lost g.counters.2 then none else g.whole c := by
  cases g <;> rfl

theorem percent_without :
    g.percent? (c.without lost) = if g.loses lost then none else g.percent? c := by
  unfold percent? loses
  rw [part_without, whole_without]
  cases lost g.counters.1 with
  | true => rfl
  | false =>
    cases lost g.counters.2 with
    | true => cases g.part c <;> rfl
    | false => rfl

/-- A percentage is not below zero. -/
theorem zero_le_percent : .zero ≤ (g.percent? c).getD .zero := by
  unfold percent?
  split
  · split
    · exact Int.le_refl 0
    · exact Binary64.key_ofMagnitude_nonneg _
  · exact Int.le_refl 0

/-- Lost counters lower a percentage, if they change it. -/
theorem percent_without_le :
    (g.percent? (c.without lost)).getD .zero ≤ (g.percent? c).getD .zero := by
  rw [percent_without]
  split
  · exact g.zero_le_percent c
  · exact Int.le_refl _

end Gauge

namespace Snapshot

variable (c : Counters) (defaults : Thresholds) (lost : Counter → Bool)

/-- With fewer counters a snapshot is no busier. -/
theorem atLeast_without :
    (ofCounters (c.without lost) defaults).AtLeast (ofCounters c defaults) := by
  intro g _
  rw [Gauge.reading_ofCounters, Gauge.reading_ofCounters]
  exact (g.marks (defaults.forCounters c)).classify_mono (g.percent_without_le c lost)

/-- The percentages that could be told and have lost a counter. -/
def newlyMissing : List Gauge := Gauge.all.filter fun g => (g.percent? c).isSome && g.loses lost

/-- In terms of counters: both were reported, the whole above zero, and one of them is lost. -/
theorem mem_newlyMissing {g : Gauge} :
    g ∈ newlyMissing c lost ↔ g.loses lost = true ∧
      ∃ part whole, g.part c = some part ∧ g.whole c = some whole ∧ 0 < whole := by
  have listed : g ∈ Gauge.all := by cases g <;> decide
  rw [newlyMissing, List.mem_filter, Bool.and_eq_true, Gauge.isSome_percent_iff]
  exact ⟨fun h => ⟨h.2.2, h.2.1⟩, fun h => ⟨listed, h.2, h.1⟩⟩

theorem missing_without :
    (ofCounters (c.without lost) defaults).missing =
      (Gauge.all.filter fun g => (g.percent? c).isNone || g.loses lost).map Gauge.name := by
  show (Gauge.all.filter _).map Gauge.name = _
  congr 2
  funext g
  rw [Gauge.percent_without]
  cases g.loses lost with
  | true => simp
  | false => simp

/-- **Losing counters never makes admission stricter.**  Take any status report, any thresholds to
judge it by where it brings none, and any choice of counters that it loses.  Whatever the random
words, the decision without these counters is of the same tier as with them or of a lighter one.
What was missing before is missing still and in the same order; and what is missing now besides is
each percentage that could be told and has lost the counter of its part or of its whole, once. -/
theorem losses_never_stricter (words words' : Chance) :
    let full := ofCounters c defaults
    let reduced := ofCounters (c.without lost) defaults
    (reduced.decide words).1.tier ≤ (full.decide words').1.tier ∧
      full.missing.Sublist reduced.missing ∧
      reduced.missing.Perm (full.missing ++ (newlyMissing c lost).map Gauge.name) := by
  intro full reduced
  -- What is missing now is parted by whether it was missing before.
  let now := Gauge.all.filter fun g => (g.percent? c).isNone || g.loses lost
  have reducedMissing : reduced.missing = now.map Gauge.name := missing_without c defaults lost
  have before : now.filter (fun g => (g.percent? c).isNone) =
      Gauge.all.filter fun g => (g.percent? c).isNone := by
    rw [List.filter_filter]
    refine List.filter_congr fun g _ => ?_
    cases (g.percent? c).isNone <;> rfl
  have besides : now.filter (fun g => !(g.percent? c).isNone) = newlyMissing c lost := by
    rw [List.filter_filter]
    refine List.filter_congr fun g _ => ?_
    cases g.percent? c with
    | none => rfl
    | some x => rfl
  refine ⟨?_, ?_, ?_⟩
  · rw [decide_tier, decide_tier]
    exact tier_mono (atLeast_without c defaults lost)
  · rw [reducedMissing]
    show ((Gauge.all.filter _).map Gauge.name).Sublist _
    rw [← before]
    exact List.filter_sublist.map _
  · rw [reducedMissing, ← besides]
    show (now.map Gauge.name).Perm ((Gauge.all.filter _).map Gauge.name ++ _)
    rw [← before, ← List.map_append]
    exact (List.filter_append_perm _ now).symm.map _

end Snapshot

end PacedPurge
