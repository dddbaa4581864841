import PacedPurge.Proofs.Purge.Outcome
import PacedPurge.Proofs.Store.Naming

/-!
# The isolation of collections

What is done to one collection of a keyed store does not show in another one as long as their
partitions have different names.  Adding records, removing them, committing a transaction and a
whole purge touch one partition only (`Changed.partition_eq`), and what the store answers about a
collection depends on one partition only (`sameAnswers_of_partition`).  Collections that share a
partition are not isolated: a record that is added to the one is counted in the other, and a purge
of the one removes it there.
-/

namespace PacedPurge

namespace Holdings

/-- The entries under the name of a partition. -/
def partition (h : Holdings) (name : String) : Partition :=
  match h with
  | .collections _ => ∅
  | .partitions p => (p[name]?).getD ∅

/-- Removing records of a collection touches no partition but its own. -/
theorem partition_without {ns : Namespace} {name : String}
    (apart : KeyedStore.openName ns ≠ .ok name) (h : Holdings) (ids : List RecordId) :
    (h.without ns ids).partition name = h.partition name := by
  cases h with
  | collections c => rfl
  | partitions p =>
    unfold without
    cases hname : KeyedStore.openName ns with
    | error e => rfl
    | ok own =>
      have differ : own ≠ name := by
        rintro rfl
        exact apart hname
      simp only [partition, Std.TreeMap.getElem?_insert, Std.LawfulEqCmp.compare_eq_iff_eq,
        if_neg differ]

end Holdings

/-- The buckets of a pool touch no partition but that of its collection. -/
theorem PoolSettings.partition_foldl_after {settings : PoolSettings} {name : String}
    (apart : KeyedStore.openName settings.ns ≠ .ok name) (buckets : List Bucket) (h : Holdings) :
    (buckets.foldl settings.after h).partition name = h.partition name := by
  induction buckets generalizing h with
  | nil => rfl
  | cons b rest ih =>
    rw [List.foldl_cons, ih]
    unfold after
    split
    · rfl
    · exact Holdings.partition_without apart h b.ids

namespace KeyedStore

/-! ## What is done to a collection -/

/-- A store after one thing has been done to a collection: records have been added or removed, a
transaction on the collection has been committed, or a purge of it has gone as far as it went. -/
inductive Changed (ns : Namespace) (k : KeyedStore) : KeyedStore → Prop where
  | inserted {docs : List (RecordId × Document)} {n : Nat} {k' : KeyedStore}
      (done : k.insertAll ns docs = .ok (n, k')) : Changed ns k k'
  | deleted (ids : List RecordId) (concern : WriteConcern) :
      Changed ns k (k.leave (.delete ns ids concern)).2
  | committed (txn : Transaction) (addressed : ∀ entry ∈ txn.staged, entry.1 = ns) :
      Changed ns k (k.leave (.commit txn)).2
  | purged {plan : Plan} {site : Site} {k' : KeyedStore} (policy : Pool.Policy) (fuel : Nat)
      (target : plan.target = ns) (start : site.store = .keyed k)
      (reached : (plan.runWith policy fuel site).2.store = .keyed k') : Changed ns k k'

section Untouched

variable {ns : Namespace} {name : String}

theorem partition_insertAll (apart : openName ns ≠ .ok name) {k k' : KeyedStore} {n : Nat}
    {docs : List (RecordId × Document)} (h : k.insertAll ns docs = .ok (n, k')) :
    k'.partition name = k.partition name := by
  obtain ⟨own, hname, -, -, rfl⟩ := insertAll_eq_ok_iff.mp h
  have differ : own ≠ name := by
    rintro rfl
    exact apart hname
  simp only [partition, setPartition, Std.TreeMap.getElem?_insert,
    Std.LawfulEqCmp.compare_eq_iff_eq, if_neg differ]

theorem partition_leave_delete (apart : openName ns ≠ .ok name) (k : KeyedStore)
    (ids : List RecordId) (concern : WriteConcern) :
    (k.leave (.delete ns ids concern)).2.partition name = k.partition name := by
  have left := Store.holdings_leave_delete (.keyed k) ns ids concern
  have shown := congrArg (·.partition name) left
  simp only [Store.leave] at shown
  cases hanswer : (k.leave (.delete ns ids concern)).1 with
  | error e =>
    rw [hanswer] at shown
    exact shown
  | ok n =>
    rw [hanswer] at shown
    exact shown.trans (Holdings.partition_without apart _ ids)

theorem partition_delete (apart : openName ns ≠ .ok name) (k : KeyedStore) (ids : List RecordId)
    (concern : WriteConcern) : (k.delete ns ids concern).2.partition name = k.partition name := by
  have left := partition_leave_delete apart k ids concern
  have same : (k.leave (.delete ns ids concern)).2.partitions =
      (k.delete ns ids concern).2.partitions :=
    Store.partitions_release _ _
  unfold partition at left ⊢
  rwa [same] at left

theorem partition_removeStaged (apart : openName ns ≠ .ok name) (concern : WriteConcern)
    (staged : List (Namespace × List RecordId)) (addressed : ∀ entry ∈ staged, entry.1 = ns)
    (k : KeyedStore) : (k.removeStaged concern staged).2.partition name = k.partition name := by
  induction staged generalizing k with
  | nil => rfl
  | cons entry rest ih =>
    obtain ⟨own, ids⟩ := entry
    obtain rfl : own = ns := addressed (own, ids) List.mem_cons_self
    have first := partition_delete apart k ids concern
    have later := ih fun entry hentry => addressed entry (List.mem_cons_of_mem _ hentry)
    unfold removeStaged
    generalize k.delete own ids concern = r at first
    obtain ⟨answer, reached⟩ := r
    cases answer with
    | error e => exact first
    | ok n => exact (later reached).trans first

theorem partition_leave_commit (apart : openName ns ≠ .ok name) (k : KeyedStore)
    (txn : Transaction) (addressed : ∀ entry ∈ txn.staged, entry.1 = ns) :
    (k.leave (.commit txn)).2.partition name = k.partition name := by
  have same : (k.leave (.commit txn)).2.partitions =
      (k.removeStaged txn.concern txn.staged).2.partitions :=
    Store.partitions_release _ _
  have left := partition_removeStaged apart txn.concern txn.staged addressed k
  unfold partition at left ⊢
  rw [same, left]

/-- What is done to a collection touches no partition but its own. -/
theorem Changed.partition_eq (apart : openName ns ≠ .ok name) {k k' : KeyedStore}
    (h : Changed ns k k') : k'.partition name = k.partition name := by
  cases h with
  | inserted done => exact partition_insertAll apart done
  | deleted ids concern => exact partition_leave_delete apart k ids concern
  | committed txn addressed => exact partition_leave_commit apart k txn addressed
  | @purged plan site _ policy fuel target start reached =>
    subst target
    have left := congrArg (·.partition name) (plan.holdings_runWith policy fuel site)
    simp only [reached, start] at left
    have settings_apart : openName (plan.poolSettings site.cores).ns ≠ .ok name := apart
    exact left.trans (PoolSettings.partition_foldl_after settings_apart _ _)

end Untouched

/-! ## What is answered about a collection -/

/-- Two stores answer alike about a collection: how many records it has, how many are selected,
which rows a query has, and what the next page of a reading is, wherever the reading stands. -/
structure SameAnswers (ns : Namespace) (k k' : KeyedStore) : Prop where
  size : k'.size ns = k.size ns
  count : ∀ filter collation,
    (k'.leave (.count ns filter collation)).1 = (k.leave (.count ns filter collation)).1
  rows : ∀ query, (k'.leave (.rows ns query)).1 = (k.leave (.rows ns query)).1
  page : ∀ scan : KeyScan, scan.ns = ns → (k'.leave (.page scan)).1 = (k.leave (.page scan)).1

theorem sameAnswers_of_partition {ns : Namespace} {k k' : KeyedStore}
    (same : ∀ name, openName ns = .ok name → k'.partition name = k.partition name) :
    SameAnswers ns k k' := by
  have candidates : ∀ s, k'.candidates ns s = k.candidates ns s := by
    intro s
    unfold KeyedStore.candidates
    cases hname : openName ns with
    | error e => rfl
    | ok name => simp only [same name hname]
  constructor
  · unfold KeyedStore.size
    cases hname : openName ns with
    | error e => rfl
    | ok name => simp only [same name hname]
  · intro filter collation
    simp only [leave, perform, count_eq, candidates]
  · intro query
    simp only [leave, perform, KeyedStore.rows, candidates]
  · rintro scan rfl
    simp only [leave, perform, KeyedStore.page]
    cases hname : openName scan.ns with
    | error e => rfl
    | ok name => simp only [same name hname]

/-! ## Isolation -/

/-- Whatever is done to one collection, the answers about the other stay as they were. -/
def Isolated (ns other : Namespace) : Prop :=
  ∀ k k' : KeyedStore, Changed ns k k' → SameAnswers other k k'

theorem isolated_of_apart {ns other : Namespace}
    (apart : ∀ name, openName other = .ok name → openName ns ≠ .ok name) : Isolated ns other := by
  intro k k' changed
  apply sameAnswers_of_partition
  intro name hname
  exact changed.partition_eq (apart name hname)

/-- A record that is added to a collection is counted in all that share its partition. -/
theorem not_isolated_of_shared {ns other : Namespace} {name : String}
    (hns : openName ns = .ok name) (hother : openName other = .ok name) :
    ¬ Isolated ns other := by
  intro isolated
  have added : insertAll {} ns [(⟨"x"⟩, [])] = .ok (1,
      setPartition {} name ((∅ : Partition).insert (keyOf ⟨"x"⟩) (encode []))) := by
    unfold insertAll
    rw [hns]
    rfl
  have sizes := (isolated _ _ (.inserted added)).size
  unfold KeyedStore.size at sizes
  rw [hother] at sizes
  have counted : ((setPartition {} name
      ((∅ : Partition).insert (keyOf ⟨"x"⟩) (encode []))).partition name).size = 1 := by
    simp [partition, setPartition, Std.TreeMap.size_insert]
  have before : (partition {} name).size = 0 := rfl
  have equal := Except.ok.inj sizes
  rw [counted, before] at equal
  cases equal

/-- **When collections are isolated.**  Two different collections share the name of a partition
exactly if their names are two cuts of it.  They are isolated exactly if they do not, or if the name
is too long for a partition, so that nothing can be done to either. -/
theorem isolated_iff {ns other : Namespace} {name name' : String}
    (hns : partitionName ns = .ok name) (hother : partitionName other = .ok name')
    (different : ns ≠ other) :
    (name = name' ↔ ns.CutBefore other ∨ other.CutBefore ns) ∧
      (Isolated ns other ↔
        ¬ (ns.CutBefore other ∨ other.CutBefore ns) ∨ maxNameLength < name.length) := by
  have shared : name = name' ↔ ns.CutBefore other ∨ other.CutBefore ns := by
    rw [partitionName_eq_iff hns hother]
    exact or_iff_right different
  refine ⟨shared, ?_⟩
  rw [← shared]
  constructor
  · intro isolated
    by_contra hnot
    obtain ⟨same, short⟩ := not_or.mp hnot
    obtain rfl := not_not.mp same
    have opened := openName_eq_ok_iff.mpr ⟨hns, Nat.le_of_not_lt short⟩
    have opened' := openName_eq_ok_iff.mpr ⟨hother, Nat.le_of_not_lt short⟩
    exact not_isolated_of_shared opened opened' isolated
  · intro h
    apply isolated_of_apart
    intro common hother' hns'
    obtain ⟨named, short⟩ := openName_eq_ok_iff.mp hns'
    obtain ⟨named', -⟩ := openName_eq_ok_iff.mp hother'
    obtain rfl := Except.ok.inj (hns.symm.trans named)
    obtain rfl := Except.ok.inj (hother.symm.trans named')
    rcases h with differ | long
    · exact differ rfl
    · omega

/-- Orders and invoices of one database are isolated.  The events of the database `app_` and the
collection `_events` of the database `app` are not. -/
theorem isolated_iff_orders :
    partitionName ⟨"crm", "orders"⟩ = .ok "crm__orders" ∧
      partitionName ⟨"crm", "invoices"⟩ = .ok "crm__invoices" ∧
      Namespace.mk "crm" "orders" ≠ ⟨"crm", "invoices"⟩ ∧
      Isolated ⟨"crm", "orders"⟩ ⟨"crm", "invoices"⟩ ∧
      ¬ Isolated ⟨"app_", "events"⟩ ⟨"app", "_events"⟩ := by
  have orders : partitionName ⟨"crm", "orders"⟩ = .ok "crm__orders" := by decide
  have invoices : partitionName ⟨"crm", "invoices"⟩ = .ok "crm__invoices" := by decide
  have different : Namespace.mk "crm" "orders" ≠ ⟨"crm", "invoices"⟩ := by decide
  have events : partitionName ⟨"app_", "events"⟩ = .ok "app___events" := by decide
  have events' : partitionName ⟨"app", "_events"⟩ = .ok "app___events" := by decide
  obtain ⟨shared, isolated⟩ := isolated_iff orders invoices different
  obtain ⟨shared', isolated'⟩ := isolated_iff events events' (by decide)
  have cut := shared'.mp rfl
  refine ⟨orders, invoices, different, isolated.mpr (.inl ?_), fun h => ?_⟩
  · rw [← shared]
    decide
  · rcases isolated'.mp h with apart | long
    · exact apart cut
    · exact absurd long (by decide)

end KeyedStore

/-- A store with one event of the database `app_`. -/
def KeyedStore.oneEvent : KeyedStore :=
  { partitions := Std.TreeMap.ofList
      [("app___events", Std.TreeMap.ofList [(keyOf ⟨"x"⟩, encode [])])] }

/-- A plan to purge all events of the database `app_`. -/
def Plan.events : Plan :=
  { database := "app_"
    collection := "events"
    safeguard := false }

/-- How many records of a collection a keyed store counts. -/
def Store.counted? (s : Store) (ns : Namespace) : Option Nat :=
  match s with
  | .memory _ => none
  | .keyed k => (k.size ns).toOption

/-- Two collections need not be isolated, although their names are accepted: a purge of the events
of the database `app_` removes the record that was counted in the collection `_events` of the
database `app`. -/
theorem KeyedStore.purge_of_events_shows :
    let other : Namespace := ⟨"app", "_events"⟩
    let reached := (Plan.events.runWith Pool.promptly 16 { store := .keyed oneEvent }).2.store
    Plan.events.target ≠ other ∧
      partitionName Plan.events.target = .ok "app___events" ∧
      partitionName other = .ok "app___events" ∧
      ∃ k', reached = .keyed k' ∧ Changed Plan.events.target oneEvent k' ∧
        oneEvent.size other = .ok 1 ∧ k'.size other = .ok 0 := by
  intro other reached
  have counted : oneEvent.size other = .ok 1 := by decide +kernel
  have emptied : reached.counted? other = some 0 := by decide +kernel
  refine ⟨by decide, by decide, by decide, ?_⟩
  cases hreached : reached with
  | memory m =>
    rw [hreached] at emptied
    cases emptied
  | keyed k' =>
    rw [hreached, Store.counted?] at emptied
    have changed : Changed Plan.events.target oneEvent k' :=
      .purged Pool.promptly 16 rfl rfl hreached
    cases hsize : k'.size other with
    | error e =>
      rw [hsize] at emptied
      cases emptied
    | ok n =>
      rw [hsize] at emptied
      cases emptied
      exact ⟨k', rfl, changed, counted, hsize⟩

end PacedPurge
