import PacedPurge.Load.Admission

/-!
# Admission by tiers

A decision looks at five gauges of a snapshot (`Gauge.decisive`), and of each it asks for the level
only.  What they come to is a tier, and three questions tell it: whether there is reason to block,
whether write tickets and checkpoint are both saturated, and whether dirty or update bytes are above
low (`Snapshot.tier_eq`).  None of the three turns from yes to no when a level rises.  So a busier
store is never let off with a lighter tier, whatever the marks are: they need not even be in order,
for a level does not fall when its reading grows.

The delay is drawn from the range of the tier.  The ranges lie apart and ascend with the tiers, so
between two tiers the heavier one has the longer delay, whatever the random words of either
(`Snapshot.admission_monotone`).
-/

namespace PacedPurge

/-! ## Levels -/

namespace Level

@[simp] theorem low_le (l : Level) : low ≤ l := Nat.zero_le _

@[simp] theorem le_high (l : Level) : l ≤ high := by
  cases l <;> decide

theorem eq_high_of_le {l l' : Level} (h : l ≤ l') (high : l = .high) : l' = .high := by
  subst high
  cases l' with
  | high => rfl
  | low => exact absurd h (by decide)
  | medium => exact absurd h (by decide)

theorem medium_iff {l : Level} (h : l ≠ .high) : l = .medium ↔ l ≠ .low := by
  cases l with
  | low => exact ⟨nofun, fun raised => absurd rfl raised⟩
  | medium => exact ⟨nofun, fun _ => rfl⟩
  | high => exact absurd rfl h

theorem ne_low_of_le {l l' : Level} (h : l ≤ l') (raised : l ≠ .low) : l' ≠ .low := by
  rintro rfl
  cases l with
  | low => exact raised rfl
  | medium => exact absurd h (by decide)
  | high => exact absurd h (by decide)

end Level

theorem Tier.le_block (t : Tier) : t ≤ .block := by
  cases t <;> decide

/-- A level does not fall when the reading grows, even if medium would begin above high. -/
theorem Marks.classify_mono (m : Marks) {x y : Binary64} (h : x ≤ y) :
    m.classify x ≤ m.classify y := by
  have below : ∀ mark, y < mark → x < mark := fun _ hy => Int.lt_of_le_of_lt h hy
  unfold classify
  by_cases hlow : x < m.target
  · rw [if_pos hlow]
    exact Level.low_le _
  · rw [if_neg hlow, if_neg fun hy => hlow (below _ hy)]
    by_cases hmedium : y < m.trigger
    · rw [if_pos hmedium, if_pos (below _ hmedium)]
      exact Nat.le_refl _
    · rw [if_neg hmedium]
      exact Level.le_high _

/-! ## What a decision looks at -/

namespace Gauge

/-- The gauges that a decision looks at. -/
def decisive : List Gauge := [.cache, .dirty, .updates, .writeTickets, .checkpoint]

/-- The reading of a gauge in a snapshot. -/
def reading : Gauge → Snapshot → Reading
  | .cache, s => s.cache
  | .dirty, s => s.dirty
  | .updates, s => s.updates
  | .readTickets, s => s.readTickets
  | .writeTickets, s => s.writeTickets
  | .checkpoint, s => s.checkpoint

theorem reading_ofCounters (g : Gauge) (c : Counters) (defaults : Thresholds) :
    g.reading (.ofCounters c defaults) = g.read c (defaults.forCounters c) := by
  cases g <;> rfl

end Gauge

namespace Snapshot

/-- Whether what a decision looks at has been judged by these thresholds. -/
def JudgedBy (t : Thresholds) (s : Snapshot) : Prop :=
  ∀ g ∈ Gauge.decisive, g.reading s = (g.marks t).read (g.reading s).value

/-- What is made of a status report is judged by the thresholds that hold for it. -/
theorem judgedBy_ofCounters (c : Counters) (defaults : Thresholds) :
    (ofCounters c defaults).JudgedBy (defaults.forCounters c) := by
  intro g _
  rw [Gauge.reading_ofCounters]
  rfl

/-- The tier that the pressure on a snapshot comes to. -/
def tier (s : Snapshot) : Tier :=
  match s.pressure? with
  | none => .proceed
  | some p => p.tier

/-- A snapshot as busy as another one, or busier, on each gauge that a decision looks at. -/
def AtLeast (s s' : Snapshot) : Prop :=
  ∀ g ∈ Gauge.decisive, (g.reading s).level ≤ (g.reading s').level

variable {s s' : Snapshot}

theorem atLeast_of_judgedBy {t : Thresholds} (judged : s.JudgedBy t) (judged' : s'.JudgedBy t)
    (busier : ∀ g ∈ Gauge.decisive, (g.reading s).value ≤ (g.reading s').value) : s.AtLeast s' := by
  intro g hg
  rw [judged g hg, judged' g hg]
  exact (g.marks t).classify_mono (busier g hg)

/-- Whether there is reason to block. -/
def Blocks (s : Snapshot) : Prop :=
  s.cache.level = .high ∨ s.dirty.level = .high ∨ s.updates.level = .high

/-- Whether write tickets and checkpoint are both saturated. -/
def Saturates (s : Snapshot) : Prop := s.writeTickets.level = .high ∧ s.checkpoint.level = .high

/-- Whether dirty or update bytes are above low. -/
def Builds (s : Snapshot) : Prop := s.dirty.level ≠ .low ∨ s.updates.level ≠ .low

instance (s : Snapshot) : Decidable s.Blocks :=
  inferInstanceAs (Decidable (s.cache.level = .high ∨ s.dirty.level = .high ∨
    s.updates.level = .high))

instance (s : Snapshot) : Decidable s.Saturates :=
  inferInstanceAs (Decidable (s.writeTickets.level = .high ∧ s.checkpoint.level = .high))

instance (s : Snapshot) : Decidable s.Builds :=
  inferInstanceAs (Decidable (s.dirty.level ≠ .low ∨ s.updates.level ≠ .low))

theorem pressure_of_blocks (h : s.Blocks) : ∃ p, s.pressure? = some p ∧ p.tier = .block := by
  unfold pressure?
  by_cases cache : s.cache.level = .high
  · exact ⟨.cache, if_pos cache, rfl⟩
  · by_cases dirty : s.dirty.level = .high
    · exact ⟨.dirty, by rw [if_neg cache, if_pos dirty], rfl⟩
    · have updates : s.updates.level = .high := (h.resolve_left cache).resolve_left dirty
      exact ⟨.updates, by rw [if_neg cache, if_neg dirty, if_pos updates], rfl⟩

theorem pressure_of_not_blocks (h : ¬s.Blocks) :
    s.pressure? = if s.Saturates then some .ticketsAndCheckpoint
      else if s.Builds then some .dirtyOrUpdates else none := by
  simp only [Blocks, not_or] at h
  obtain ⟨cache, dirty, updates⟩ := h
  have elevated : (s.dirty.level = .medium || s.updates.level = .medium) = true ↔ s.Builds := by
    rw [Bool.or_eq_true, decide_eq_true_eq, decide_eq_true_eq, Level.medium_iff dirty,
      Level.medium_iff updates]
    rfl
  unfold pressure?
  rw [if_neg cache, if_neg dirty, if_neg updates]
  simp only [elevated, Bool.and_eq_true, decide_eq_true_eq]
  rfl

/-- **The tier of a snapshot**, by three questions. -/
theorem tier_eq (s : Snapshot) :
    s.tier = if s.Blocks then .block else if s.Saturates then .heavy
      else if s.Builds then .light else .proceed := by
  unfold tier
  by_cases blocks : s.Blocks
  · obtain ⟨p, pressure, block⟩ := pressure_of_blocks blocks
    rw [pressure, if_pos blocks]
    exact block
  · rw [pressure_of_not_blocks blocks, if_neg blocks]
    by_cases saturates : s.Saturates
    · rw [if_pos saturates, if_pos saturates]
      rfl
    · rw [if_neg saturates, if_neg saturates]
      by_cases builds : s.Builds
      · rw [if_pos builds, if_pos builds]
        rfl
      · rw [if_neg builds, if_neg builds]

theorem tier_eq_proceed_iff (s : Snapshot) :
    s.tier = .proceed ↔ ¬s.Blocks ∧ ¬s.Saturates ∧ ¬s.Builds := by
  rw [tier_eq]
  by_cases blocks : s.Blocks
  · rw [if_pos blocks]
    exact ⟨nofun, fun none => absurd blocks none.1⟩
  · by_cases saturates : s.Saturates
    · rw [if_neg blocks, if_pos saturates]
      exact ⟨nofun, fun none => absurd saturates none.2.1⟩
    · by_cases builds : s.Builds
      · rw [if_neg blocks, if_neg saturates, if_pos builds]
        exact ⟨nofun, fun none => absurd builds none.2.2⟩
      · rw [if_neg blocks, if_neg saturates, if_neg builds]
        exact ⟨fun _ => ⟨blocks, saturates, builds⟩, fun _ => rfl⟩

/-- None of the three questions turns from yes to no, so the tier does not get lighter. -/
theorem tier_mono (h : s.AtLeast s') : s.tier ≤ s'.tier := by
  have dirty := h .dirty (by decide)
  have updates := h .updates (by decide)
  have blocks : s.Blocks → s'.Blocks :=
    Or.imp (Level.eq_high_of_le (h .cache (by decide)))
      (Or.imp (Level.eq_high_of_le dirty) (Level.eq_high_of_le updates))
  have saturates : s.Saturates → s'.Saturates :=
    And.imp (Level.eq_high_of_le (h .writeTickets (by decide)))
      (Level.eq_high_of_le (h .checkpoint (by decide)))
  have builds : s.Builds → s'.Builds :=
    Or.imp (Level.ne_low_of_le dirty) (Level.ne_low_of_le updates)
  rw [tier_eq s, tier_eq s']
  by_cases blocked : s'.Blocks
  · rw [if_pos blocked]
    exact Tier.le_block _
  · rw [if_neg blocked, if_neg (mt blocks blocked)]
    by_cases saturated : s'.Saturates
    · rw [if_pos saturated]
      split
      · decide
      · split
        · decide
        · decide
    · rw [if_neg saturated, if_neg (mt saturates saturated)]
      by_cases built : s'.Builds
      · rw [if_pos built]
        split
        · decide
        · decide
      · rw [if_neg built, if_neg (mt builds built)]
        exact Nat.le_refl _

end Snapshot

/-! ## Delays -/

theorem Chance.belowFrom_lt {n : Nat} (pos : 0 < n) (used : Nat) (words : List UInt64) :
    (belowFrom n used words).1 < n := by
  induction words generalizing used with
  | nil => exact pos
  | cons w rest ih =>
    simp only [belowFrom]
    split
    · have small : w.toNat * n < UInt64.size * n := Nat.mul_lt_mul_of_pos_right w.toNat_lt pos
      exact Nat.div_lt_of_lt_mul small
    · exact ih _

/-- A number that is drawn lies in its range, whatever the words are. -/
theorem Chance.inRange_bounds {first bound : Nat} (proper : first < bound) (words : Chance) :
    first ≤ (words.inRange first bound).1 ∧ (words.inRange first bound).1 < bound := by
  have drawn : (words.below (bound - first)).1 < bound - first :=
    belowFrom_lt (Nat.sub_pos_of_lt proper) words.used words.words
  exact ⟨Nat.le_add_right _ _, Nat.add_lt_of_lt_sub' drawn⟩

namespace Tier

theorem range_proper (t : Tier) : t.range.1 < t.range.2 := by
  cases t <;> decide

/-- Every wait of a heavier tier is longer than any of a lighter one. -/
theorem ranges_ascend {a b : Tier} (lighter : a ≤ b) (differ : a ≠ b) :
    a.range.2 ≤ b.range.1 := by
  revert differ lighter
  cases a <;> cases b <;> decide

end Tier

namespace Snapshot

variable {s s' : Snapshot}

theorem decide_tier (s : Snapshot) (words : Chance) : (s.decide words).1.tier = s.tier := by
  unfold decide tier
  cases s.pressure? with
  | none => rfl
  | some p => rfl

theorem decide_eq_proceed_iff (s : Snapshot) (words : Chance) :
    (s.decide words).1 = .proceed ↔ s.tier = .proceed := by
  rw [← s.decide_tier words]
  cases (s.decide words).1 with
  | proceed => exact ⟨fun _ => rfl, fun _ => rfl⟩
  | wait p delay => cases p <;> exact ⟨nofun, nofun⟩

theorem decide_delay (s : Snapshot) (words : Chance) :
    s.tier.range.1 ≤ (s.decide words).1.delay ∧ (s.decide words).1.delay < s.tier.range.2 := by
  unfold decide tier
  cases s.pressure? with
  | none => exact ⟨Nat.le_refl 0, Nat.one_pos⟩
  | some p => exact words.inRange_bounds p.tier.range_proper

/-- A decision depends on nothing but the levels of the gauges that it looks at. -/
theorem decide_congr (same : ∀ g ∈ Gauge.decisive, (g.reading s).level = (g.reading s').level) :
    s.decide = s'.decide := by
  have pressure : s.pressure? = s'.pressure? := by
    have cache : s.cache.level = s'.cache.level := same .cache (by decide)
    have dirty : s.dirty.level = s'.dirty.level := same .dirty (by decide)
    have updates : s.updates.level = s'.updates.level := same .updates (by decide)
    have tickets : s.writeTickets.level = s'.writeTickets.level := same .writeTickets (by decide)
    have checkpoint : s.checkpoint.level = s'.checkpoint.level := same .checkpoint (by decide)
    unfold pressure?
    rw [cache, dirty, updates, tickets, checkpoint]
  funext words
  unfold decide
  rw [pressure]

/-- **Admission is monotone in load.**  Take two snapshots judged by the same thresholds, whatever
these are, of which the second has each reading that a decision looks at as high as the first or
higher, and any random words for either.  The second decision is of the same tier as the first or of
a heavier one; each delay lies in the range of its tier; and if the tiers differ, the second delay
is longer.  No other reading has a part in a decision: one with the same levels on these gauges is
decided on alike. -/
theorem admission_monotone (t : Thresholds) (s s' : Snapshot) (words words' : Chance)
    (judged : s.JudgedBy t) (judged' : s'.JudgedBy t)
    (busier : ∀ g ∈ Gauge.decisive, (g.reading s).value ≤ (g.reading s').value) :
    let d := (s.decide words).1
    let d' := (s'.decide words').1
    d.tier ≤ d'.tier ∧
      (d.tier.range.1 ≤ d.delay ∧ d.delay < d.tier.range.2) ∧
      (d'.tier.range.1 ≤ d'.delay ∧ d'.delay < d'.tier.range.2) ∧
      (d.tier ≠ d'.tier → d.delay < d'.delay) ∧
      ∀ other : Snapshot,
        (∀ g ∈ Gauge.decisive, (g.reading other).level = (g.reading s).level) →
        other.decide words = s.decide words := by
  intro d d'
  have tier : d.tier = s.tier := s.decide_tier words
  have tier' : d'.tier = s'.tier := s'.decide_tier words'
  have heavier : d.tier ≤ d'.tier := by
    rw [tier, tier']
    exact tier_mono (atLeast_of_judgedBy judged judged' busier)
  have bounds : d.tier.range.1 ≤ d.delay ∧ d.delay < d.tier.range.2 := by
    rw [tier]
    exact s.decide_delay words
  have bounds' : d'.tier.range.1 ≤ d'.delay ∧ d'.delay < d'.tier.range.2 := by
    rw [tier']
    exact s'.decide_delay words'
  refine ⟨heavier, bounds, bounds', fun differ => ?_, fun other same => ?_⟩
  · calc d.delay < d.tier.range.2 := bounds.2
      _ ≤ d'.tier.range.1 := Tier.ranges_ascend heavier differ
      _ ≤ d'.delay := bounds'.1
  · rw [decide_congr same]

/-- A store with some dirty bytes, and the same store when write tickets and checkpoint are
saturated as well; the marks of the cache are crossed.  The longest light delay is drawn against the
shortest heavy one. -/
theorem admission_monotone_saturated :
    let t : Thresholds := { Thresholds.standard with cache := Thresholds.marks 95 80 }
    let c : Counters := { cacheDirty := some 10, cacheMax := some 100 }
    let c' : Counters := { c with
      writeTicketsOut := some 19, writeTicketsTotal := some 20
      checkpointRunning := some 9, checkpointInterval := some 10 }
    let s := ofCounters c t
    let s' := ofCounters c' t
    let d := (s.decide ⟨[17985575471866812826], 0⟩).1
    let d' := (s'.decide ⟨[], 0⟩).1
    s.JudgedBy t ∧ s'.JudgedBy t ∧
      (∀ g ∈ Gauge.decisive, (g.reading s).value ≤ (g.reading s').value) ∧
      d = .wait .dirtyOrUpdates 49 ∧ d' = .wait .ticketsAndCheckpoint 100 ∧
      d.tier ≤ d'.tier ∧ d.delay < d'.delay := by
  intro t c c' s s' d d'
  have judged : s.JudgedBy t := judgedBy_ofCounters c t
  have judged' : s'.JudgedBy t := judgedBy_ofCounters c' t
  have busier : ∀ g ∈ Gauge.decisive, (g.reading s).value ≤ (g.reading s').value := by
    decide +kernel
  have light : d = .wait .dirtyOrUpdates 49 := by decide +kernel
  have heavy : d' = .wait .ticketsAndCheckpoint 100 := by decide +kernel
  obtain ⟨heavier, -, -, longer, -⟩ := admission_monotone t s s' _ _ judged judged' busier
  have differ : d.tier ≠ d'.tier := by
    rw [light, heavy]
    decide
  exact ⟨judged, judged', busier, light, heavy, heavier, longer differ⟩

end Snapshot

end PacedPurge
