import PacedPurge.Proofs.Bucket.Supply

/-!
# What a store has to answer

A request can come to nothing for reasons of the store alone: a delete is told to fail, or the
counters are.  A store without such faults (`Store.Faultless`) answers what it is asked about a
collection that it can serve (`Holdings.Serves`).  A store in memory can serve every collection.  A
keyed store needs a name under which the partition can be opened, keys that are short enough to be
looked up, and pages for which room can be set aside, if there are pages.  And where the filter
makes sense for every record (`Entry.IsReadable`), nothing stops a stream of rows or a recount.

Both properties last.  No request makes a store faulty, and a collection that can be served can be
served when records of it have gone.
-/

namespace PacedPurge

variable {α : Type}

/-! ## Collections that can be served -/

/-- The records of a collection that are selected. -/
def Holdings.selectedIds (h : Holdings) (ns : Namespace) (s : Selection) : List RecordId :=
  ((h.entries ns).filter (·.isSelected s)).filterMap Entry.id?

theorem Holdings.mem_selectedIds {h : Holdings} {ns : Namespace} {s : Selection} {id : RecordId} :
    id ∈ h.selectedIds ns s ↔ ∃ e ∈ h.entries ns, e.id? = some id ∧ e.isSelected s := by
  simp only [selectedIds, List.mem_filterMap, List.mem_filter]
  constructor
  · rintro ⟨e, ⟨he, selected⟩, hread⟩
    exact ⟨e, he, hread, selected⟩
  · rintro ⟨e, he, hread, selected⟩
    exact ⟨e, ⟨he, selected⟩, hread⟩

/-- What a keyed store needs to serve requests about a collection in which these records are to be
deleted: a partition that can be opened, keys that can be looked up, and room for the pages of a
reading, if there are pages. -/
structure KeyedStore.Serves (ids : List RecordId) (ns : Namespace) (s : Selection) (size : Nat) :
    Prop where
  opens : ∃ name, openName ns = .ok name
  keys : ∀ id ∈ ids, (keyOf id).length ≤ maxKeyLength
  pages : isKeyOrdered s → size ≤ maxPageSize

/-- Whether requests about a collection can be served: about any in memory, and about one of a keyed
store within the bounds that it has. -/
def Holdings.Serves (h : Holdings) (ids : List RecordId) (ns : Namespace) (s : Selection)
    (size : Nat) : Prop :=
  match h with
  | .collections _ => True
  | .partitions _ => KeyedStore.Serves ids ns s size

section Serves

variable {h : Holdings} {ids : List RecordId} {ns : Namespace} {s : Selection} {size : Nat}

/-- A collection can be served if fewer records are to be deleted. -/
theorem Holdings.Serves.of_subset (serves : h.Serves ids ns s size) {fewer : List RecordId}
    (sub : ∀ id ∈ fewer, id ∈ ids) : h.Serves fewer ns s size := by
  cases h with
  | collections c => trivial
  | partitions p => exact { serves with keys := fun id hid => serves.keys id (sub id hid) }

/-- A collection that can be served can be served without some of its records. -/
theorem Holdings.Serves.without (serves : h.Serves ids ns s size) (gone : List RecordId) :
    (h.without ns gone).Serves ids ns s size := by
  cases h with
  | collections c => trivial
  | partitions p =>
    unfold Holdings.without
    cases KeyedStore.openName ns with
    | error e => exact serves
    | ok name => exact serves

end Serves

/-! ## Stores without faults -/

namespace Store

/-- Nothing goes wrong in the store: no delete is told to fail, and neither are the counters. -/
def Faultless : Store → Prop
  | .memory m => m.failures = 0 ∧ ∀ message, m.status ≠ .failing message
  | .keyed _ => True

theorem faultless_enter {s : Store} (h : s.Faultless) (r : Request α) :
    (s.enter r).2.Faultless := by
  cases s with
  | memory m =>
    simp only [enter, MemoryStore.enter]
    split
    · exact h
    · exact h
  | keyed k => trivial

/-- What a store without faults does for a delete. -/
theorem leaveWith_of_faultless {m : MemoryStore} (h : (memory m).Faultless)
    (effect : MemoryStore → α × MemoryStore) :
    m.leaveWith effect = (.ok (effect m).1, (effect m).2.leaveDelete) := by
  simp only [MemoryStore.leaveWith, MemoryStore.takeFailure?, h.1]

theorem faultless_removeStaged {m : MemoryStore} (h : (memory m).Faultless)
    (staged : List (Namespace × List RecordId)) : (memory (m.removeStaged staged)).Faultless := by
  unfold MemoryStore.removeStaged
  induction staged generalizing m with
  | nil => exact h
  | cons entry rest ih => exact ih (m := (m.remove entry.1 entry.2).2) h

theorem faultless_leave {s : Store} (h : s.Faultless) (r : Request α) :
    (s.leave r).2.Faultless := by
  cases s with
  | keyed k => trivial
  | memory m =>
    cases r with
    | delete ns ids concern =>
      simp only [leave, MemoryStore.leave, leaveWith_of_faultless h]
      exact h
    | stage txn ns ids =>
      simp only [leave, MemoryStore.leave, leaveWith_of_faultless h]
      exact h
    | commit txn => exact faultless_removeStaged h txn.staged
    | status =>
      simp only [leave, MemoryStore.leave, MemoryStore.report]
      split
      · exact h
      · split
        · exact h
        · exact h
        · exact h
    | _ => exact h

/-! ## Answers -/

section Answers

variable {s : Store} {ns : Namespace} {ids : List RecordId} {selection : Selection} {size : Nat}

/-- The keys of records that can be deleted can be looked up. -/
theorem hasKeys_of_serves {k : KeyedStore}
    (serves : (keyed k).holdings.Serves ids ns selection size) :
    KeyedStore.hasKeys ids = true :=
  List.all_eq_true.mpr fun id hid => decide_eq_true (serves.keys id hid)

theorem canRemove_of_serves (serves : s.holdings.Serves ids ns selection size) :
    s.CanRemove ns ids := by
  cases s with
  | memory m => exact fun keyed => by cases keyed
  | keyed k =>
    obtain ⟨name, opens⟩ := serves.opens
    exact fun _ => ⟨by rw [opens]; rfl, hasKeys_of_serves serves⟩

/-- A store without faults answers a delete if it can remove the records. -/
theorem answer_delete_of_canRemove (faultless : s.Faultless) (can : s.CanRemove ns ids)
    (concern : WriteConcern) : ∃ n, (s.leave (.delete ns ids concern)).1 = .ok n := by
  cases s with
  | memory m =>
    simp only [leave, MemoryStore.leave, leaveWith_of_faultless faultless]
    exact ⟨_, rfl⟩
  | keyed k =>
    obtain ⟨opens, short⟩ := can rfl
    simp only [leave, KeyedStore.leave, KeyedStore.perform]
    cases hname : KeyedStore.openName ns with
    | error e =>
      rw [hname] at opens
      cases opens
    | ok name =>
      rw [KeyedStore.delete_of_openName hname, if_pos short]
      exact ⟨_, rfl⟩

theorem answer_delete (faultless : s.Faultless) (serves : s.holdings.Serves ids ns selection size)
    (concern : WriteConcern) : ∃ n, (s.leave (.delete ns ids concern)).1 = .ok n :=
  answer_delete_of_canRemove faultless (canRemove_of_serves serves) concern

theorem answer_stage (faultless : s.Faultless) (serves : s.holdings.Serves ids ns selection size)
    (txn : Transaction) : ∃ staged, (s.leave (.stage txn ns ids)).1 = .ok staged := by
  cases s with
  | memory m =>
    simp only [leave, MemoryStore.leave, leaveWith_of_faultless faultless]
    exact ⟨_, rfl⟩
  | keyed k =>
    obtain ⟨name, opens⟩ := serves.opens
    have keys := hasKeys_of_serves serves
    simp only [leave, KeyedStore.leave, KeyedStore.perform, KeyedStore.existingIn, opens, keys,
      if_true]
    exact ⟨_, rfl⟩

theorem answer_begin (s : Store) (concern : WriteConcern) :
    (s.leave (.begin concern)).1 = .ok (.start concern) := by
  cases s with
  | memory m => rfl
  | keyed k => rfl

/-- A search through readable entries succeeds. -/
theorem search_of_isReadable {entries : List Entry}
    (readable : ∀ e ∈ entries, e.IsReadable selection) :
    ∃ found, selection.search entries = .ok found := by
  unfold Selection.search
  rw [Selection.gather_of_isReadable readable]
  exact ⟨_, rfl⟩

/-- The partition of a collection that can be served is searched. -/
theorem candidates_of_serves {k : KeyedStore}
    (serves : (keyed k).holdings.Serves ids ns selection size)
    (readable : ∀ e ∈ (keyed k).holdings.entries ns, e.IsReadable selection) :
    ∃ found, k.candidates ns selection = .ok found := by
  obtain ⟨name, opens⟩ := serves.opens
  rw [KeyedStore.candidates_of_openName opens]
  exact search_of_isReadable readable

/-- A recount is answered. -/
theorem answer_count {filter : Filter} {collation : Option String} {c : Collation}
    (hc : Collation.parse collation = .ok c) (serves : s.holdings.Serves ids ns ⟨filter, c⟩ size)
    (readable : ∀ e ∈ s.holdings.entries ns, e.IsReadable ⟨filter, c⟩) :
    ∃ n, (s.leave (.count ns filter collation)).1 = .ok n := by
  cases s with
  | memory m =>
    obtain ⟨found, hfound⟩ := search_of_isReadable readable
    simp only [leave, MemoryStore.leave, MemoryStore.count, hc, MemoryStore.candidates_eq, hfound]
    exact ⟨_, rfl⟩
  | keyed k =>
    obtain ⟨found, hfound⟩ := candidates_of_serves serves readable
    simp only [leave, KeyedStore.leave, KeyedStore.perform, hc, KeyedStore.count_eq, hfound]
    exact ⟨_, rfl⟩

/-- A partition that can be opened has a name that makes sense. -/
theorem partitionName_of_openName {name : String} (h : KeyedStore.openName ns = .ok name) :
    ∃ name, KeyedStore.partitionName ns = .ok name := by
  unfold KeyedStore.openName at h
  split at h
  · cases h
  · next name hname => exact ⟨name, hname⟩

/-- A stream of rows is opened, and nothing stops it. -/
theorem answer_rows {query : Query} {c : Collation} (hc : Collation.parse query.collation = .ok c)
    (serves : s.holdings.Serves ids ns ⟨query.filter, c⟩ (max 1 query.bucketSize))
    (readable : ∀ e ∈ s.holdings.entries ns, e.IsReadable ⟨query.filter, c⟩) :
    ∃ rows, (s.leave (.rows ns query)).1 = .ok rows ∧ (rows.supply s.holdings).fault = none := by
  cases s with
  | memory m =>
    obtain ⟨found, hfound⟩ := search_of_isReadable readable
    simp only [leave, MemoryStore.leave, MemoryStore.rows, hc, MemoryStore.candidates_eq, hfound]
    exact ⟨_, rfl, by rw [RowSource.supply, Supply.known_ofRows]⟩
  | keyed k =>
    obtain ⟨name, opens⟩ := serves.opens
    obtain ⟨named, hnamed⟩ := partitionName_of_openName opens
    simp only [leave, KeyedStore.leave, KeyedStore.perform, KeyedStore.rows, KeyedStore.openQuery,
      hc, hnamed]
    by_cases ordered : KeyedStore.isKeyOrdered ⟨query.filter, c⟩ = true
    · -- The pages are those of a gathering that nothing stops.
      rw [if_pos ordered]
      refine ⟨_, rfl, ?_⟩
      have room : ¬KeyedStore.maxPageSize < max 1 query.bucketSize :=
        Nat.not_lt.mpr (serves.pages ordered)
      have all : KeyedStore.stored (KeyedStore.entriesAfter ((k.partitions[name]?).getD ∅) none) =
          (keyed k).holdings.entries ns := by
        simp only [holdings, Holdings.entries, opens]
        rfl
      have whole : (Selection.gather ⟨query.filter, c⟩
          ((Holdings.partitions k.partitions).entries ns)).2 = none :=
        Selection.gather_of_isReadable readable
      simp only [RowSource.supply, Holdings.pagesAhead, Bool.false_eq_true, if_false, holdings,
        Holdings.reading, opens, if_neg room, all]
      generalize Selection.gather ⟨query.filter, c⟩
        ((Holdings.partitions k.partitions).entries ns) = gathered at whole ⊢
      obtain ⟨found, fault⟩ := gathered
      obtain rfl : fault = none := whole
      rfl
    · rw [if_neg ordered]
      obtain ⟨found, hfound⟩ := candidates_of_serves serves readable
      simp only [hfound]
      exact ⟨_, rfl, by rw [RowSource.supply, Supply.known_ofRows]⟩

/-- **What a stream of rows needs.**  Only a collection that can be served, but for deletes, has a
stream of rows that nothing stops. -/
theorem serves_of_rows {query : Query} {c : Collation} {rows : RowSource}
    (hc : Collation.parse query.collation = .ok c) (h : (s.leave (.rows ns query)).1 = .ok rows)
    (whole : (rows.supply s.holdings).fault = none) :
    s.holdings.Serves [] ns ⟨query.filter, c⟩ (max 1 query.bucketSize) := by
  cases s with
  | memory m => trivial
  | keyed k =>
    simp only [leave, KeyedStore.leave, KeyedStore.perform, KeyedStore.rows, KeyedStore.openQuery,
      hc] at h
    cases hnamed : KeyedStore.partitionName ns with
    | error e =>
      simp only [hnamed] at h
      cases h
    | ok named =>
      simp only [hnamed] at h
      by_cases ordered : KeyedStore.isKeyOrdered ⟨query.filter, c⟩ = true
      · rw [if_pos ordered] at h
        obtain rfl := Except.ok.inj h
        simp only [RowSource.supply, Holdings.pagesAhead, Bool.false_eq_true, if_false, holdings,
          Holdings.reading] at whole
        cases opens : KeyedStore.openName ns with
        | error e => simp only [opens, reduceCtorEq] at whole
        | ok name =>
          refine ⟨⟨name, opens⟩, fun id hid => absurd hid List.not_mem_nil, fun _ => ?_⟩
          by_contra large
          simp only [opens, if_pos (Nat.lt_of_not_le large), reduceCtorEq] at whole
      · rw [if_neg ordered] at h
        cases opens : KeyedStore.openName ns with
        | error e => simp only [KeyedStore.candidates, opens, reduceCtorEq] at h
        | ok name =>
          exact ⟨⟨name, opens⟩, fun id hid => absurd hid List.not_mem_nil,
            fun h => absurd h ordered⟩

end Answers

end Store

end PacedPurge
