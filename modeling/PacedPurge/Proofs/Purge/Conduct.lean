import Mathlib.Data.List.Nodup
import PacedPurge.Proofs.Bucket.Intake
import PacedPurge.Proofs.Purge.Attempts
import PacedPurge.Proofs.Purge.History

/-!
# The conduct of a pool

What holds of a pool, its site and its history at every moment (`Pool.Conduct`), whatever the order
of moves was.  The buckets that were taken are those under way, those that are settled and those
that are lost, each once.  The records are those of the beginning without the buckets that were
settled well, and these alone.  The buckets hold, in order, the records that the source has
delivered (`Pool.Intake`), which are distinct records of the collection.

The two sides need each other.  A unit removes exactly its bucket because the records of the bucket
are distinct and still there, and that they are is seen from the source, which delivers no record
twice.  The source goes on delivering what it would have delivered because the records that units
remove have been delivered before.
-/

namespace PacedPurge

namespace Pool

/-! ## Intake -/

/-- The buckets that have been cut from the first `n` rows, and the assembly that has cut them. -/
structure Cut (first : Supply) (size count n : Nat) (taken : List Bucket) (a : Assembly) :
    Prop where
  within : n ≤ first.rows.length
  assembly : a.After size count n
  delivered : taken.flatMap (·.ids) ++ a.held = (first.rows.take n).map (·.id)
  numbered : taken.map (·.ordinal) = List.range' 1 a.last
  filled : ∀ b ∈ taken, b.ids ≠ []

/-- What has been taken from the source when `n` rows have been delivered.  As long as the pool
takes in more, the source stands where these rows end. -/
structure Intake (first : Supply) (size count n : Nat) (p : Pool) (h : Holdings) (ds : History) :
    Prop where
  cut : Cut first size count n ds.taken p.source.assembly
  stands : p.fatal = none → p.drained = false → p.source.At first size count n h
  ended : p.drained = true → n = first.rows.length ∧ first.fault = none

section Intake

variable {first : Supply} {size n : Nat} {found : List Candidate} {p q : Pool} {h : Holdings}
  {ds more : History}

theorem active_of_takesIn (intake : p.takesIn = true) : p.fatal = none ∧ p.drained = false := by
  simp only [takesIn, Bool.and_eq_true, Option.isNone_iff_eq_none, Bool.not_eq_true'] at intake
  exact intake.1

/-- The source and what was taken from it are the same, and of the records only such are gone as
have been delivered. -/
theorem Intake.of_same {count : Nat} (intake : p.Intake first size count n h ds) {h' : Holdings}
    (source : q.source = p.source) (fatal : q.fatal = none → p.fatal = none)
    (drained : q.drained = p.drained) (htaken : more.taken = [])
    (removed : h' = h ∨ ∃ ns ids, h' = h.without ns ids ∧
      ∀ id ∈ ids, id ∈ (first.rows.take n).map (·.id)) :
    q.Intake first size count n h' (ds ++ more) := by
  constructor
  · rw [source, History.taken_append, htaken, List.append_nil]
    exact intake.cut
  · intro hfatal hdrained
    rw [drained] at hdrained
    have stands := intake.stands (fatal hfatal) hdrained
    rw [source]
    refine { stands with supply := ?_ }
    obtain rfl | ⟨ns, ids, rfl, hids⟩ := removed
    · exact stands.supply
    · rw [RowSource.supply_without stands.behind h ns hids]
      exact stands.supply
  · rw [drained]
    exact intake.ended

/-- A row goes into the bucket under way. -/
theorem Cut.taken {count : Nat} {taken : List Bucket} {a a' : Assembly} {row : Row}
    (cut : Cut first size count n taken a) (next : first.rows[n]? = some row)
    (after : a'.After size count (n + 1)) (last : a'.last = a.last)
    (held : a'.held = a.held ++ [row.id]) : Cut first size count (n + 1) taken a' := by
  obtain ⟨inside, hrow⟩ := List.getElem?_eq_some_iff.mp next
  refine ⟨inside, after, ?_, by rw [last]; exact cut.numbered, cut.filled⟩
  rw [held, ← List.append_assoc, cut.delivered, List.take_succ_eq_append_getElem inside, hrow,
    List.map_append]
  rfl

/-- A row completes a bucket. -/
theorem Cut.bucket {count : Nat} {taken : List Bucket} {a a' : Assembly} {row : Row} {b : Bucket}
    (cut : Cut first size count n taken a) (next : first.rows[n]? = some row)
    (after : a'.After size count (n + 1)) (last : a'.last = a.last + 1)
    (number : b.ordinal = a'.last) (ids : b.ids = a.held ++ [row.id]) (held : a'.held = []) :
    Cut first size count (n + 1) (taken ++ [b]) a' := by
  obtain ⟨inside, hrow⟩ := List.getElem?_eq_some_iff.mp next
  refine ⟨inside, after, ?_, ?_, ?_⟩
  · rw [held, List.append_nil, List.flatMap_append, List.flatMap_singleton, ids,
      ← List.append_assoc, cut.delivered, List.take_succ_eq_append_getElem inside, hrow,
      List.map_append]
    rfl
  · rw [List.map_append, cut.numbered, last, List.range'_concat, List.map_singleton, number,
      last, Nat.one_mul, Nat.add_comm]
  · intro b' hb'
    obtain hold | hnew := List.mem_append.mp hb'
    · exact cut.filled b' hold
    · rw [List.mem_singleton.mp hnew, ids]
      simp

/-- The source goes on. -/
theorem Intake.pulled (delivers : first.Delivers size found) {site : Site}
    (intake : p.Intake first size found.length n site.store.holdings ds)
    (takesIn : p.takesIn = true) :
    (∃ n', (p.afterPull (p.source.pull site).2.1 (p.source.pull site).1).Intake first size
      found.length n' site.store.holdings (ds ++ (p.source.pull site).1.deeds)) ∧
      (p.source.pull site).2.2.store.holdings = site.store.holdings := by
  obtain ⟨hfatal, hdrained⟩ := active_of_takesIn takesIn
  obtain ⟨step, kept⟩ := BucketSource.pull_cases delivers (intake.stands hfatal hdrained)
  refine ⟨?_, kept⟩
  have not_ended : p.drained = true → ∀ {P : Prop}, P := fun hended => by
    rw [hdrained] at hended
    cases hended
  generalize p.source.pull site = r at step
  obtain ⟨answer, source, site'⟩ := r
  have nothing : answer.deeds = [] → source.assembly = p.source.assembly →
      Cut first size found.length n (History.taken (ds ++ answer.deeds)) source.assembly := by
    intro hdeeds hsame
    rw [hdeeds, List.append_nil, hsame]
    exact intake.cut
  cases step with
  | later stands same => exact ⟨n, nothing rfl same, fun _ _ => stands, fun h => not_ended h⟩
  | taken stands next last held =>
    refine ⟨n + 1, ?_, fun _ _ => stands, fun h => not_ended h⟩
    have none_taken : History.taken (ds ++ Pulled.deeds .taken) = ds.taken :=
      congrArg History.taken (List.append_nil ds)
    rw [none_taken]
    exact intake.cut.taken next stands.assembly last held
  | @bucket row b _ stands next last number ids held =>
    refine ⟨n + 1, ?_, fun _ _ => stands, fun h => not_ended h⟩
    rw [History.taken_append]
    exact intake.cut.bucket next stands.assembly last number ids held
  | ended all whole same =>
    refine ⟨n, nothing rfl same, ?_, fun _ => ⟨all, whole⟩⟩
    intro _ hopen
    cases hopen
  | failed same =>
    refine ⟨n, nothing rfl same, ?_, fun h => not_ended h⟩
    intro hnone
    cases hnone

end Intake

/-! ## Conduct -/

/-- What is known when a pool starts: the source will deliver the rows of distinct records of the
collection. -/
structure Outset (settings : PoolSettings) (before : Holdings) (first : Supply) (size : Nat)
    (found : List Candidate) : Prop where
  delivers : first.Delivers size found
  distinct : (found.map (·.2)).Nodup
  present : ∀ id ∈ found.map (·.2), id ∈ before.ids settings.ns

/-- **What holds at every moment** of a pool that has these settings and began with these records.
-/
structure Conduct (settings : PoolSettings) (before : Holdings) (first : Supply)
    (size count : Nat) (p : Pool) (site : Site) (ds : History) : Prop where
  settings_eq : p.settings = settings
  follows : ∀ u ∈ p.units, u.Follows settings
  accounted : (p.units.map (·.bucket) ++ (ds.settled.map (·.1) ++ ds.lost)).Perm ds.taken
  records : site.store.holdings = ds.succeeded.foldl settings.after before
  outcomes : ∀ s ∈ ds.settled, s.2.ordinal = s.1.ordinal ∧
    s.2.deleted = if s.2.isOk then s.1.size else 0
  intake : ∃ n, p.Intake first size count n site.store.holdings ds

section Conduct

variable {settings : PoolSettings} {before : Holdings} {first : Supply} {size : Nat}
  {found : List Candidate} {p q : Pool} {site site' : Site} {ds : History}

/-- The records of the buckets that were taken are found ones, in the order in which they were
found. -/
theorem Cut.prefix_found {n count : Nat} {taken : List Bucket} {a : Assembly}
    (cut : Cut first size count n taken a) (delivers : first.Delivers size found) :
    taken.flatMap (·.ids) <+: found.map (·.2) := by
  have rows : first.rows.map (·.id) <+: found.map (·.2) := by
    have placed := delivers.front.map (·.id)
    rwa [← Supply.placed_zero, Supply.map_id_placed] at placed
  have delivered : taken.flatMap (·.ids) <+: (first.rows.take n).map (·.id) :=
    ⟨a.held, cut.delivered⟩
  exact (delivered.trans ((List.take_prefix n first.rows).map _)).trans rows

/-- A record that is in none of the buckets that ended well is still there. -/
theorem mem_ids_foldl_after {id : RecordId} {buckets : List Bucket}
    (there : id ∈ before.ids settings.ns) (spared : id ∉ buckets.flatMap (·.ids)) :
    id ∈ (buckets.foldl settings.after before).ids settings.ns := by
  induction buckets generalizing before with
  | nil => exact there
  | cons b rest ih =>
    rw [List.flatMap_cons, List.mem_append, not_or] at spared
    refine ih ?_ spared.2
    unfold PoolSettings.after
    split
    · exact there
    · rw [Holdings.ids_without, List.mem_filter]
      exact ⟨there, by simpa using spared.1⟩

/-- The records of a bucket under way are distinct and still there. -/
theorem Conduct.ids_of_unit (outset : Outset settings before first size found)
    (conduct : Conduct settings before first size found.length p site ds) {position : Nat}
    {a : Attended BatchUnit} (place : p.line[position]? = some a) :
    a.task.bucket.ids.Nodup ∧
      (∀ id ∈ a.task.bucket.ids, id ∈ site.store.holdings.ids settings.ns) ∧
      a.task.bucket ∈ ds.taken := by
  obtain ⟨n, intake⟩ := conduct.intake
  have front := intake.cut.prefix_found outset.delivers
  have distinct : (ds.taken.flatMap (·.ids)).Nodup := outset.distinct.sublist front.sublist
  have unit : a.task ∈ p.units := List.mem_map_of_mem (List.mem_of_getElem? place)
  have member : a.task.bucket ∈ ds.taken :=
    conduct.accounted.subset (List.mem_append_left _ (List.mem_map_of_mem unit))
  have parted : ((p.units.map (·.bucket)).flatMap (·.ids) ++
      (ds.settled.map (·.1) ++ ds.lost).flatMap (·.ids)).Nodup := by
    rw [← List.flatMap_append]
    exact (conduct.accounted.flatMap_right _).nodup_iff.mpr distinct
  refine ⟨?_, fun id hid => ?_, member⟩
  · exact (List.nodup_flatMap.mp distinct).1 _ member
  · rw [conduct.records]
    have there : id ∈ before.ids settings.ns :=
      outset.present id (front.subset (List.mem_flatMap.mpr ⟨_, member, hid⟩))
    refine mem_ids_foldl_after there fun hgone => ?_
    obtain ⟨b, hb, hidb⟩ := List.mem_flatMap.mp hgone
    have settled : b ∈ ds.settled.map (·.1) := (History.succeeded_sublist ds).subset hb
    have here : id ∈ (p.units.map (·.bucket)).flatMap (·.ids) :=
      List.mem_flatMap.mpr ⟨_, List.mem_map_of_mem unit, hid⟩
    have away : id ∈ (ds.settled.map (·.1) ++ ds.lost).flatMap (·.ids) :=
      List.mem_flatMap.mpr ⟨b, List.mem_append_left _ settled, hidb⟩
    exact (List.nodup_append.mp parted).2.2 id here id away rfl

/-! ### Moves -/

theorem Conduct.of_alike {count : Nat}
    (conduct : Conduct settings before first size count p site ds)
    (alike : p.Alike q) (kept : site.Kept site') :
    Conduct settings before first size count q site' ds := by
  have holdings : site'.store.holdings = site.store.holdings := by rw [kept.store]
  constructor
  · exact alike.settings.trans conduct.settings_eq
  · exact fun u hu => conduct.follows u (alike.units.subset hu)
  · exact ((alike.units.map _).append_right _).trans conduct.accounted
  · exact holdings.trans conduct.records
  · exact conduct.outcomes
  · obtain ⟨n, intake⟩ := conduct.intake
    have same : q.Intake first size count n site'.store.holdings (ds ++ []) :=
      intake.of_same alike.source (fun h => alike.fatal.symm.trans h) alike.drained rfl
        (.inl holdings)
    rw [List.append_nil] at same
    exact ⟨n, same⟩

theorem Conduct.pulled (outset : Outset settings before first size found)
    (conduct : Conduct settings before first size found.length p site ds)
    (takesIn : p.takesIn = true) :
    Conduct settings before first size found.length
      (p.afterPull (p.source.pull site).2.1 (p.source.pull site).1) (p.source.pull site).2.2
      (ds ++ (p.source.pull site).1.deeds) := by
  obtain ⟨n, intake⟩ := conduct.intake
  obtain ⟨intake', kept⟩ := intake.pulled outset.delivers takesIn
  rw [← kept] at intake'
  generalize p.source.pull site = r at intake' kept
  obtain ⟨answer, source, site'⟩ := r
  simp only at intake' kept
  have quiet : answer.deeds = [] → (p.afterPull source answer).settings = p.settings →
      (p.afterPull source answer).units = p.units →
      Conduct settings before first size found.length (p.afterPull source answer) site'
        (ds ++ answer.deeds) := by
    intro hdeeds hsettings hunits
    rw [hdeeds, List.append_nil] at intake' ⊢
    exact ⟨hsettings.trans conduct.settings_eq, by rw [hunits]; exact conduct.follows,
      by rw [hunits]; exact conduct.accounted, kept.trans conduct.records, conduct.outcomes,
      intake'⟩
  cases answer with
  | taken => exact quiet rfl rfl rfl
  | later time => exact quiet rfl rfl rfl
  | ended => exact quiet rfl rfl rfl
  | failed e => exact quiet rfl rfl rfl
  | bucket b =>
    have units : (p.afterPull source (.bucket b)).units = p.units ++ [.start b] :=
      Line.tasks_join p.line (.start b)
    simp only [Pulled.deeds] at intake' ⊢
    constructor
    · exact conduct.settings_eq
    · intro u hu
      rw [units, List.mem_append] at hu
      obtain hold | hnew := hu
      · exact conduct.follows u hold
      · rw [List.mem_singleton.mp hnew]
        exact BatchUnit.follows_start settings b
    · have joined := conduct.accounted.append_right [b]
      rw [List.append_assoc] at joined
      simp only [units, History.settled_append, History.lost_append, History.taken_append,
        History.views_taken, List.append_nil, List.map_append, List.append_assoc]
      refine List.Perm.trans ?_ joined
      exact (List.perm_append_singleton b _).symm.append_left _
    · simpa using kept.trans conduct.records
    · simpa using conduct.outcomes
    · exact intake'

theorem perm_append_shuffle {α : Type} (a b c d e f : List α) :
    (a ++ b ++ (c ++ d ++ (e ++ f))).Perm (a ++ (c ++ e) ++ (b ++ (d ++ f))) := by
  classical
  rw [List.perm_iff_count]
  intro x
  simp only [List.count_append]
  omega

/-- The unit at a position has had its turn.  Its bucket is still under way, or settled, or lost;
and the records of the bucket are gone if it is settled well. -/
theorem Conduct.turned (outset : Outset settings before first size found)
    (conduct : Conduct settings before first size found.length p site ds) {position : Nat}
    {a : Attended BatchUnit} (place : p.line[position]? = some a) {more : History}
    {units : List BatchUnit} (hsettings : q.settings = p.settings) (source : q.source = p.source)
    (drained : q.drained = p.drained) (fatal : q.fatal = none → p.fatal = none)
    (hunits : q.units = Line.tasks (p.line.eraseIdx position) ++ units)
    (follows : ∀ u ∈ units, u.Follows settings) (htaken : more.taken = [])
    (whereabouts : (units.map (·.bucket) ++ (more.settled.map (·.1) ++ more.lost)).Perm
      [a.task.bucket])
    (outcomes : ∀ s ∈ more.settled, s.2.ordinal = s.1.ordinal ∧
      s.2.deleted = if s.2.isOk then s.1.size else 0)
    (records : site'.store.holdings = more.succeeded.foldl settings.after site.store.holdings)
    (removed : site'.store.holdings = site.store.holdings ∨
      site'.store.holdings = settings.after site.store.holdings a.task.bucket) :
    Conduct settings before first size found.length q site' (ds ++ more) := by
  have parted := parted_of_place place
  constructor
  · exact hsettings.trans conduct.settings_eq
  · intro u hu
    rw [hunits, List.mem_append] at hu
    obtain hother | hthis := hu
    · exact conduct.follows u (parted.symm.subset (List.mem_cons_of_mem _ hother))
    · exact follows u hthis
  · have all := conduct.accounted
    rw [History.settled_append, History.lost_append, History.taken_append, htaken, List.append_nil,
      hunits, List.map_append, List.map_append]
    refine List.Perm.trans ?_ all
    have earlier := (parted.map (·.bucket)).append_right (ds.settled.map (·.1) ++ ds.lost)
    refine List.Perm.trans ?_ earlier.symm
    refine (perm_append_shuffle _ _ _ _ _ _).trans ((whereabouts.append_left _).trans ?_)
    exact List.perm_append_singleton _ _
  · rw [History.succeeded_append, List.foldl_append, ← conduct.records]
    exact records
  · intro s hs
    rw [History.settled_append, List.mem_append] at hs
    obtain hold | hnew := hs
    · exact conduct.outcomes s hold
    · exact outcomes s hnew
  · obtain ⟨n, intake⟩ := conduct.intake
    refine ⟨n, intake.of_same source fatal drained htaken ?_⟩
    obtain hsame | hafter := removed
    · exact .inl hsame
    · rw [hafter, PoolSettings.after]
      split
      · exact .inl rfl
      · refine .inr ⟨settings.ns, a.task.bucket.ids, rfl, fun id hid => ?_⟩
        obtain ⟨-, -, member⟩ := conduct.ids_of_unit outset place
        rw [← intake.cut.delivered]
        exact List.mem_append_left _ (List.mem_flatMap.mpr ⟨_, member, hid⟩)

section Turn

variable (outset : Outset settings before first size found)
  (conduct : Conduct settings before first size found.length p site ds) {position : Nat}
  {a : Attended BatchUnit} (place : p.line[position]? = some a)

include outset conduct place

theorem Conduct.wentOn {u : BatchUnit} (same : u.bucket = a.task.bucket)
    (follows : u.Follows settings) (kept : site'.store.holdings = site.store.holdings) :
    Conduct settings before first size found.length
      { p with line := Line.join (p.line.eraseIdx position) u } site'
      (ds ++ a.task.callDeeds) := by
  obtain ⟨htaken, hsettled, hlost⟩ := a.task.views_callDeeds
  have hsucceeded : a.task.callDeeds.succeeded = [] := History.succeeded_of_settled hsettled
  refine conduct.turned outset place rfl rfl rfl (fun h => h) (Line.tasks_join _ u) ?_ htaken
    ?_ ?_ ?_ (.inl kept)
  · intro u' hu'
    rw [List.mem_singleton.mp hu']
    exact follows
  · simp [hsettled, hlost, same]
  · simp [hsettled]
  · rw [hsucceeded]
    exact kept

theorem Conduct.settled {r : ExecutionResult} (ordinal : r.ordinal = a.task.bucket.ordinal)
    (deleted : r.deleted = if r.isOk then a.task.bucket.size else 0)
    (records : site'.store.holdings =
      if r.isOk then settings.after site.store.holdings a.task.bucket else site.store.holdings) :
    Conduct settings before first size found.length ((p.dropUnit position).note r) site'
      (ds ++ (a.task.callDeeds ++ [.settled a.task.bucket r])) := by
  obtain ⟨htaken, hsettled, hlost⟩ := a.task.views_callDeeds
  have hsucceeded : a.task.callDeeds.succeeded = [] := History.succeeded_of_settled hsettled
  refine conduct.turned outset place rfl rfl rfl (fun h => h) (List.append_nil _).symm ?_ ?_
    ?_ ?_ ?_ ?_
  · intro u hu
    cases hu
  · simp [htaken]
  · simp [hsettled, hlost]
  · intro s hs
    rw [History.settled_append, hsettled] at hs
    rw [List.mem_singleton.mp hs]
    exact ⟨ordinal, deleted⟩
  · rw [History.succeeded_append, hsucceeded, History.succeeded_settled, records]
    split
    · rfl
    · rfl
  · rw [records]
    split
    · exact .inr rfl
    · exact .inl rfl

theorem Conduct.lost (e : StoreError) (kept : site'.store.holdings = site.store.holdings) :
    Conduct settings before first size found.length
      (p.afterTurn position a.task.bucket (.failed e)) site'
      (ds ++ (a.task.callDeeds ++ [.lost a.task.bucket])) := by
  obtain ⟨htaken, hsettled, hlost⟩ := a.task.views_callDeeds
  have hsucceeded : a.task.callDeeds.succeeded = [] := History.succeeded_of_settled hsettled
  refine conduct.turned outset place rfl rfl rfl ?_ (List.append_nil _).symm ?_ ?_ ?_ ?_ ?_
    (.inl kept)
  · intro hnone
    cases hnone
  · intro u hu
    cases hu
  · simp [htaken]
  · simp [hsettled, hlost]
  · simp [hsettled]
  · simpa [hsucceeded] using kept

/-- A unit has its turn. -/
theorem Conduct.advanced :
    Conduct settings before first size found.length
      (p.afterTurn position a.task.bucket (a.task.advance p.settings site).1)
      (a.task.advance p.settings site).2 (ds ++ a.task.deeds p.settings site) := by
  obtain ⟨distinct, present, -⟩ := conduct.ids_of_unit outset place
  have follows : a.task.Follows settings :=
    conduct.follows _ (List.mem_map_of_mem (List.mem_of_getElem? place))
  have step := BatchUnit.advance_cases follows distinct present
  rw [conduct.settings_eq]
  unfold BatchUnit.deeds
  generalize a.task.advance settings site = r at step
  obtain ⟨progress, site'⟩ := r
  cases step with
  | goesOn same follows' kept =>
    simp only [List.append_nil]
    exact conduct.wentOn outset place same follows' kept
  | turnedAway same follows' kept =>
    simp only [List.append_nil]
    exact conduct.wentOn outset place same follows' kept
  | done removed => exact conduct.settled outset place rfl rfl removed
  | gaveUp kept => exact conduct.settled outset place rfl rfl kept
  | failed kept => exact conduct.lost outset place _ kept

end Turn

/-- **The conduct is kept by every move.** -/
theorem Conduct.moved (outset : Outset settings before first size found)
    (conduct : Conduct settings before first size found.length p site ds) (m : Move) :
    Conduct settings before first size found.length (p.move site m).1 (p.move site m).2
      (ds ++ p.deeds site m) := by
  have step := move_cases p site m
  generalize p.deeds site m = more at step
  generalize p.move site m = r at step
  obtain ⟨p', site'⟩ := r
  cases step with
  | quiet alike kept =>
    rw [List.append_nil]
    exact conduct.of_alike alike kept
  | pulled takesIn alike kept => exact (conduct.pulled outset takesIn).of_alike alike kept
  | advanced place alike kept => exact (conduct.advanced outset place).of_alike alike kept

/-- So it is kept through all moves. -/
theorem conduct_play (outset : Outset settings before first size found)
    (conduct : Conduct settings before first size found.length p site ds) (policy : Policy)
    (fuel : Nat) :
    Conduct settings before first size found.length (p.play policy fuel site).1
      (p.play policy fuel site).2 (ds ++ p.history policy fuel site) :=
  play_induction
    (motive := fun p site ds => Conduct settings before first size found.length p site ds)
    (fun _ _ _ m conduct => conduct.moved outset m) policy fuel conduct

end Conduct

end Pool

end PacedPurge
