import PacedPurge.Proofs.Store.Effects

/-!
# Gathering selected records

Both stores find the selected records of a collection in the same way.  They go through its entries
in order, and stop at the first one that does not decode or on which the filter makes no sense.
`Selection.gather` tells what they have found by then and what stopped them, for either store.

A record that was found is the record of a selected entry (`mem_gather`), no record is found twice
(`nodup_gather`), and a gathering that nothing stopped has found all selected entries
(`mem_gather_of_isSelected`), as many as they are (`length_gather`).  Nothing stops it where all
entries can be read (`gather_of_isReadable`).  The answer of a recount is read off a gathering by
`gather_of_count`.
-/

namespace PacedPurge

/-- The selected records up to the first entry that stops the gathering, and what it stopped with.
-/
def Selection.gather (s : Selection) : List Entry → List Candidate × Option StoreError
  | [] => ([], none)
  | e :: rest =>
    match e.read with
    | .error fault => ([], some fault)
    | .ok (id, doc) =>
      match s.selects id doc with
      | .error fault => ([], some fault)
      | .ok chosen =>
        let (found, fault) := s.gather rest
        (if chosen then s.candidate id doc :: found else found, fault)

/-- What a search through the entries answers: all that has been found, unless something stopped it.
-/
def Selection.search (s : Selection) (entries : List Entry) : Except StoreError (List Candidate) :=
  match (s.gather entries).2 with
  | none => .ok (s.gather entries).1
  | some fault => .error fault

/-- The entry decodes, and the filter makes sense for its record. -/
def Entry.IsReadable (s : Selection) (e : Entry) : Prop :=
  ∃ r, e.read = .ok r ∧ ∃ chosen, s.selects r.1 r.2 = .ok chosen

/-- Whether the entry decodes and its record is selected. -/
def Entry.isSelected (s : Selection) (e : Entry) : Bool :=
  match e.read with
  | .error _ => false
  | .ok (id, doc) =>
    match s.selects id doc with
    | .error _ => false
    | .ok chosen => chosen

/-- The filter makes sense for records that are selected. -/
theorem Entry.isReadable_of_isSelected {s : Selection} {e : Entry} (selected : e.isSelected s) :
    e.IsReadable s := by
  unfold isSelected at selected
  split at selected
  · cases selected
  · next id doc hread =>
    split at selected
    · cases selected
    · next chosen hchosen => exact ⟨(id, doc), hread, chosen, hchosen⟩

namespace Selection

variable {s : Selection}

@[simp] theorem id_candidate (s : Selection) (id : RecordId) (doc : Document) :
    (s.candidate id doc).2 = id := by
  unfold candidate
  split <;> rfl

/-! ## What has been found -/

/-- A record that was found is the record of a selected entry. -/
theorem mem_gather {entries : List Entry} {c : Candidate} (h : c ∈ (s.gather entries).1) :
    ∃ e ∈ entries, e.id? = some c.2 ∧ e.isSelected s := by
  induction entries with
  | nil => cases h
  | cons e rest ih =>
    have later : c ∈ (s.gather rest).1 →
        ∃ e' ∈ e :: rest, e'.id? = some c.2 ∧ e'.isSelected s := fun hmem =>
      let ⟨e', he', found⟩ := ih hmem
      ⟨e', List.mem_cons_of_mem e he', found⟩
    unfold gather at h
    split at h
    · cases h
    · next id doc hread =>
      split at h
      · cases h
      · next chosen hchosen =>
        cases chosen with
        | false => exact later h
        | true =>
          simp only [if_true, List.mem_cons] at h
          obtain rfl | hmem := h
          · refine ⟨e, List.mem_cons_self, ?_, ?_⟩
            · rw [id_candidate]
              exact Entry.id?_of_read hread
            · simp only [Entry.isSelected, hread, hchosen]
          · exact later hmem

/-- The ids that were found stand among those of the entries, in the same order. -/
theorem sublist_gather (s : Selection) (entries : List Entry) :
    ((s.gather entries).1.map (·.2)).Sublist (entries.filterMap Entry.id?) := by
  induction entries with
  | nil => exact List.Sublist.slnil
  | cons e rest ih =>
    unfold gather
    split
    · exact List.nil_sublist _
    · next id doc hread =>
      split
      · exact List.nil_sublist _
      · next chosen _ =>
        rw [List.filterMap_cons_some (Entry.id?_of_read hread)]
        cases chosen with
        | false => exact ih.cons id
        | true =>
          simp only [if_true, List.map_cons, id_candidate]
          exact ih.cons_cons id

/-- No record is found twice. -/
theorem nodup_gather (s : Selection) (h : Holdings) (ns : Namespace) :
    ((s.gather (h.entries ns)).1.map (·.2)).Nodup :=
  (h.nodup_ids ns).sublist (s.sublist_gather _)

/-! ## Gatherings that nothing stopped -/

/-- All selected entries have been found. -/
theorem length_gather {entries : List Entry} (h : (s.gather entries).2 = none) :
    (s.gather entries).1.length = entries.countP (·.isSelected s) := by
  induction entries with
  | nil => rfl
  | cons e rest ih =>
    unfold gather at h ⊢
    split at h
    · cases h
    · next id doc hread =>
      split at h
      · cases h
      · next chosen hchosen =>
        have counted : e.isSelected s = chosen := by
          simp only [Entry.isSelected, hread, hchosen]
        simp only [List.countP_cons, counted]
        cases chosen with
        | false => simpa using ih h
        | true => simpa using ih h

/-- A selected entry has been found. -/
theorem mem_gather_of_isSelected {entries : List Entry} (h : (s.gather entries).2 = none)
    {e : Entry} (he : e ∈ entries) (selected : e.isSelected s) {id : RecordId}
    (hid : e.id? = some id) : id ∈ (s.gather entries).1.map (·.2) := by
  induction entries with
  | nil => cases he
  | cons first rest ih =>
    unfold gather at h ⊢
    split at h
    · cases h
    · next id' doc hread =>
      split at h
      · cases h
      · next chosen hchosen =>
        obtain rfl | later := List.mem_cons.mp he
        · obtain rfl : id' = id := Option.some.inj ((Entry.id?_of_read hread).symm.trans hid)
          obtain rfl : chosen = true := by
            simpa only [Entry.isSelected, hread, hchosen] using selected
          simp only [if_true, List.map_cons, id_candidate]
          exact List.mem_cons_self
        · cases chosen with
          | false => exact ih h later
          | true => exact List.mem_cons_of_mem _ (ih h later)

/-- Nothing stops a gathering from entries that can be read. -/
theorem gather_of_isReadable {entries : List Entry} (readable : ∀ e ∈ entries, e.IsReadable s) :
    (s.gather entries).2 = none := by
  induction entries with
  | nil => rfl
  | cons e rest ih =>
    obtain ⟨⟨id, doc⟩, hread, chosen, hchosen⟩ := readable e List.mem_cons_self
    simp only [gather, hread, hchosen]
    exact ih fun e he => readable e (List.mem_cons_of_mem _ he)

/-- Only entries that can be read let a gathering go on to the end. -/
theorem isReadable_of_gather {entries : List Entry} (h : (s.gather entries).2 = none) :
    ∀ e ∈ entries, e.IsReadable s := by
  induction entries with
  | nil => exact fun e he => (nomatch he)
  | cons first rest ih =>
    unfold gather at h
    split at h
    · cases h
    · next id doc hread =>
      split at h
      · cases h
      · next chosen hchosen =>
        intro e he
        obtain rfl | later := List.mem_cons.mp he
        · exact ⟨(id, doc), hread, chosen, hchosen⟩
        · exact ih h e later

/-- A search that succeeds has gathered what it found, and nothing stopped it. -/
theorem gather_of_search {entries : List Entry} {found : List Candidate}
    (h : s.search entries = .ok found) : s.gather entries = (found, none) := by
  unfold search at h
  split at h
  · next whole => rw [← whole, ← Except.ok.inj h]
  · cases h

/-- A search that fails has the error that stopped it. -/
theorem gather_of_search_error {entries : List Entry} {e : StoreError}
    (h : s.search entries = .error e) : (s.gather entries).2 = some e := by
  unfold search at h
  split at h
  · cases h
  · next fault stop => rw [stop, Except.error.inj h]

/-- A search goes on behind an entry on which nothing stops it. -/
theorem search_cons {e : Entry} {rest : List Entry} {id : RecordId} {doc : Document} {chosen : Bool}
    (hread : e.read = .ok (id, doc)) (hchosen : s.selects id doc = .ok chosen) :
    s.search (e :: rest) =
      match s.search rest with
      | .error fault => .error fault
      | .ok found => .ok (if chosen then s.candidate id doc :: found else found) := by
  simp only [search, gather, hread, hchosen]
  cases (s.gather rest).2 <;> rfl

end Selection

/-! ## The searches of the stores -/

theorem MemoryStore.candidates_eq_search (s : Selection) (records : List (RecordId × Document)) :
    s.candidates records = s.search (records.map fun r => .record r.1 r.2) := by
  induction records with
  | nil => rfl
  | cons r rest ih =>
    obtain ⟨id, doc⟩ := r
    simp only [Selection.candidates, List.map_cons]
    cases hchosen : s.selects id doc with
    | error fault => simp only [Selection.search, Selection.gather, Entry.read, hchosen]
    | ok chosen =>
      have step : s.search (.record id doc :: rest.map fun r => .record r.1 r.2) = _ :=
        Selection.search_cons rfl hchosen
      rw [← ih] at step
      exact step.symm

theorem KeyedStore.select_eq_search (s : Selection) (entries : List (Key × String)) :
    KeyedStore.select s entries = s.search (entries.map fun e => .stored e.1 e.2) := by
  induction entries with
  | nil => rfl
  | cons e rest ih =>
    simp only [KeyedStore.select, List.map_cons]
    cases hread : KeyedStore.decode e with
    | error fault => simp only [Selection.search, Selection.gather, Entry.read, hread]
    | ok r =>
      obtain ⟨id, doc⟩ := r
      simp only
      cases hchosen : s.selects id doc with
      | error fault => simp only [Selection.search, Selection.gather, Entry.read, hread, hchosen]
      | ok chosen =>
        have step : s.search (.stored e.1 e.2 :: rest.map fun e => .stored e.1 e.2) = _ :=
          Selection.search_cons hread hchosen
        rw [← ih] at step
        exact step.symm

/-- The search of a store in memory goes through the entries of the collection. -/
theorem MemoryStore.candidates_eq (m : MemoryStore) (ns : Namespace) (s : Selection) :
    m.candidates ns s = s.search ((Store.memory m).holdings.entries ns) :=
  candidates_eq_search s _

/-- The search of a keyed store goes through the entries of the collection. -/
theorem KeyedStore.candidates_of_openName {k : KeyedStore} {ns : Namespace} {name : String}
    (hname : openName ns = .ok name) (s : Selection) :
    k.candidates ns s = s.search ((Store.keyed k).holdings.entries ns) := by
  simp only [candidates, hname, Store.holdings, Holdings.entries]
  exact select_eq_search s _

/-- **What a recount answers.**  The number of selected entries, provided that nothing stops it. -/
theorem Store.gather_of_count {s : Store} {ns : Namespace} {filter : Filter}
    {collation : Option String} {n : Nat} (h : (s.leave (.count ns filter collation)).1 = .ok n) :
    ∃ c, Collation.parse collation = .ok c ∧
      (Selection.gather ⟨filter, c⟩ (s.holdings.entries ns)).2 = none ∧
      n = (s.holdings.entries ns).countP (·.isSelected ⟨filter, c⟩) := by
  cases hc : Collation.parse collation with
  | error e =>
    cases s with
    | memory m => simp [leave, MemoryStore.leave, MemoryStore.count, hc] at h
    | keyed k => simp [leave, KeyedStore.leave, KeyedStore.perform, hc] at h
  | ok c =>
    have answered : ∃ found, Selection.search ⟨filter, c⟩ (s.holdings.entries ns) = .ok found ∧
        n = found.length := by
      cases s with
      | memory m =>
        simp only [leave, MemoryStore.leave, MemoryStore.count, hc] at h
        rw [MemoryStore.candidates_eq] at h
        split at h
        · cases h
        · next found hfound => exact ⟨found, hfound, (Except.ok.inj h).symm⟩
      | keyed k =>
        simp only [leave, KeyedStore.leave, KeyedStore.perform, KeyedStore.count_eq, hc] at h
        cases hname : KeyedStore.openName ns with
        | error e =>
          simp only [KeyedStore.candidates, hname] at h
          cases h
        | ok name =>
          rw [KeyedStore.candidates_of_openName hname] at h
          cases hfound : Selection.search ⟨filter, c⟩ ((keyed k).holdings.entries ns) with
          | error e =>
            rw [hfound] at h
            cases h
          | ok found =>
            rw [hfound] at h
            exact ⟨found, rfl, (Except.ok.inj h).symm⟩
    obtain ⟨found, hfound, hn⟩ := answered
    have gathered := Selection.gather_of_search hfound
    have whole : (Selection.gather ⟨filter, c⟩ (s.holdings.entries ns)).2 = none := by
      rw [gathered]
    have length := Selection.length_gather whole
    rw [gathered] at length
    exact ⟨c, rfl, whole, hn.trans length⟩

end PacedPurge
