import PacedPurge.Proofs.Bucket.Finality
import PacedPurge.Proofs.Bucket.Interleaving

/-!
# A recount and a reading agree

The rows of a query are read in one of three ways: the store in memory searches the collection and
sorts what it has found, and so does the keyed store, unless the order of keys allows it to read
page by page.  A recount in memory is the length of what a search has found, and the keyed store
counts without collecting anything (`KeyedStore.countOn`).  All of them find the same, and stop at
the same entry with the same error (`Holdings.search`).

So if the records are left as they are, a recount answers the number of rows that a reading comes
to, or else the error with which the reading is refused or breaks off; and it does so only then
(`Store.count_iff_yields`).  It makes no difference at which moments the rows are asked for, or
which tickets are out then.

The pages of a reading have to be such that room can be set aside for them (`Store.PagesFit`).
-/

namespace PacedPurge

/-- What a count of the rows tells: how many they are, or what stops them. -/
def Supply.tally (s : Supply) : Except StoreError Nat :=
  match s.fault with
  | none => .ok s.rows.length
  | some e => .error e

/-! ## Readings -/

/-- A stream is asked for one row after another, finding the same records each time, until it says
that there are no more, or fails: the rows that have come, and the error with which it failed. -/
inductive RowSource.ReadTo (h : Holdings) : RowSource → List Row → Option StoreError → Prop where
  | ended {s : RowSource} {site : Site} (reads : s.ReadsFrom h site)
      (said : (s.poll site).1 = .ended) : ReadTo h s [] none
  | failed {s : RowSource} {site : Site} {e : StoreError} (reads : s.ReadsFrom h site)
      (said : (s.poll site).1 = .ready (.error e)) : ReadTo h s [] (some e)
  | row {s : RowSource} {site : Site} {row : Row} {rows : List Row} {fault : Option StoreError}
      (reads : s.ReadsFrom h site) (said : (s.poll site).1 = .ready (.ok row))
      (rest : ReadTo h (s.poll site).2.1 rows fault) : ReadTo h s (row :: rows) fault
  | later {s : RowSource} {site : Site} {time : Nat} {rows : List Row} {fault : Option StoreError}
      (reads : s.ReadsFrom h site) (said : (s.poll site).1 = .later time)
      (rest : ReadTo h (s.poll site).2.1 rows fault) : ReadTo h s rows fault

/-- What a query comes to in a store whose records are left as they are: no row and an error if it
is refused, and otherwise what the stream that it opens is read to. -/
inductive Store.Yields (s : Store) (ns : Namespace) (query : Query) :
    List Row → Option StoreError → Prop where
  | refused {e : StoreError} (answer : (s.leave (.rows ns query)).1 = .error e) :
      Yields s ns query [] (some e)
  | read {source : RowSource} {rows : List Row} {fault : Option StoreError}
      (answer : (s.leave (.rows ns query)).1 = .ok source)
      (rest : source.ReadTo s.holdings rows fault) : Yields s ns query rows fault

/-- A query comes to what it would deliver by this supply, and to nothing else. -/
def Store.ComesTo (s : Store) (ns : Namespace) (query : Query) (supply : Supply) : Prop :=
  ∀ rows fault, s.Yields ns query rows fault ↔ supply = ⟨rows, fault⟩

/-- Room can be set aside for the pages of a query, if it is read page by page.  What a page takes
that is not too large is taken to be granted. -/
def Store.PagesFit (s : Store) (query : Query) : Prop :=
  match s with
  | .memory _ => True
  | .keyed _ => ∀ c, Collation.parse query.collation = .ok c →
    KeyedStore.isKeyOrdered ⟨query.filter, c⟩ = true →
      max 1 query.bucketSize ≤ KeyedStore.maxPageSize

namespace RowSource

variable {s : RowSource} {h : Holdings} {rows : List Row} {fault : Option StoreError}

/-- **A reading comes to the supply of its stream**, whenever the rows are asked for. -/
theorem ReadTo.supply_eq (read : s.ReadTo h rows fault) (room : s.HasRoom) :
    s.supply h = ⟨rows, fault⟩ := by
  induction read with
  | ended reads said =>
    have step := reads.poll_cases room
    rw [said] at step
    generalize (RowSource.poll _ _).2.1 = after at step
    cases step with
    | ended stop => exact stop
  | failed reads said =>
    have step := reads.poll_cases room
    rw [said] at step
    generalize (RowSource.poll _ _).2.1 = after at step
    cases step with
    | fault stop => exact stop
  | row reads said rest ih =>
    have step := reads.poll_cases room
    rw [said] at step
    generalize (RowSource.poll _ _).2.1 = after at step ih
    cases step with
    | row next behind room' => rw [next, ih room']
  | later reads said rest ih =>
    have step := reads.poll_cases room
    rw [said] at step
    generalize (RowSource.poll _ _).2.1 = after at step ih
    cases step with
    | later same behind room' => rw [← same, ih room']

/-- A stream that never has to wait can be read to its supply. -/
theorem readTo_supply {s : RowSource} {h : Holdings} {site : Site} (room : s.HasRoom)
    (prompt : s.Prompt site.store) (holds : site.store.holdings = h) :
    s.ReadTo h (s.supply h).rows (s.supply h).fault := by
  have reads : s.ReadsFrom h site := fun _ => holds
  have again := prompt.poll
  obtain ⟨step, kept⟩ := poll_cases s room site
  rw [holds] at step kept
  generalize hpolled : (s.poll site).1 = polled at step
  generalize hafter : (s.poll site).2.1 = after at step again
  cases step with
  | later same behind room => exact absurd hpolled (prompt.poll_ne_later _)
  | fault stop =>
    rw [stop]
    exact .failed reads hpolled
  | ended stop =>
    rw [stop]
    exact .ended reads hpolled
  | row next behind room' =>
    have fewer : (after.supply h).rows.length < (s.supply h).rows.length := by
      rw [next]
      exact Nat.lt_succ_self _
    have rest := readTo_supply room' again kept
    rw [next]
    rw [← hafter] at rest ⊢
    exact .row reads hpolled rest
termination_by (s.supply h).rows.length

end RowSource

/-! ## Searches -/

/-- What a search through a collection finds, unless the collection cannot be addressed or an entry
stops the search. -/
def Holdings.search (h : Holdings) (ns : Namespace) (selection : Selection) :
    Except StoreError (List Candidate) :=
  match h with
  | .collections _ => selection.search (h.entries ns)
  | .partitions _ =>
    match KeyedStore.openName ns with
    | .error e => .error e
    | .ok _ => selection.search (h.entries ns)

theorem MemoryStore.candidates_eq_holdings (m : MemoryStore) (ns : Namespace)
    (selection : Selection) :
    m.candidates ns selection = (Store.memory m).holdings.search ns selection :=
  m.candidates_eq ns selection

theorem KeyedStore.candidates_eq_holdings (k : KeyedStore) (ns : Namespace)
    (selection : Selection) :
    k.candidates ns selection = (Store.keyed k).holdings.search ns selection := by
  cases hname : openName ns with
  | error e => simp only [candidates, Store.holdings, Holdings.search, hname]
  | ok name =>
    rw [candidates_of_openName hname]
    simp only [Store.holdings, Holdings.search, hname]

namespace Store

variable {s : Store} {ns : Namespace} {query : Query} {c : Collation} {e : StoreError}
  {found : List Candidate}

/-- **What a recount answers**: how many records are found in one search.  The keyed store does not
collect them, but counts to the same number. -/
theorem answer_count_eq (s : Store) (ns : Namespace) (filter : Filter)
    (collation : Option String) :
    (s.leave (.count ns filter collation)).1 =
      match Collation.parse collation with
      | .error e => .error e
      | .ok c => (s.holdings.search ns ⟨filter, c⟩).map List.length := by
  cases s with
  | memory m =>
    show m.count ns filter collation = _
    unfold MemoryStore.count
    rcases Collation.parse collation with e | c
    · rfl
    · simp only [MemoryStore.candidates_eq_holdings]
      rcases (memory m).holdings.search ns ⟨filter, c⟩ with e | found
      · rfl
      · rfl
  | keyed k =>
    simp only [leave, KeyedStore.leave, KeyedStore.perform]
    rcases Collation.parse collation with e | c
    · rfl
    · simp only [KeyedStore.count_eq, KeyedStore.candidates_eq_holdings]

/-- The candidates in the order in which the store delivers them: the one of keys where pages are
read, and otherwise sorted. -/
def delivered (s : Store) (selection : Selection) (found : List Candidate) : List Candidate :=
  match s with
  | .memory _ => Row.sorted selection.collation found
  | .keyed _ =>
    if KeyedStore.isKeyOrdered selection then found else Row.sorted selection.collation found

theorem length_delivered (s : Store) (selection : Selection) (found : List Candidate) :
    (s.delivered selection found).length = found.length := by
  have sorted : (Row.sorted selection.collation found).length = found.length :=
    List.length_mergeSort found
  unfold delivered
  split
  · exact sorted
  · split
    · rfl
    · exact sorted

/-- A query whose collation makes no sense is refused. -/
theorem rows_of_parse_error (hc : Collation.parse query.collation = .error e) :
    (s.leave (.rows ns query)).1 = .error e := by
  cases s with
  | memory m => simp only [leave, MemoryStore.leave, MemoryStore.rows, hc, Except.map]
  | keyed k =>
    simp only [leave, KeyedStore.leave, KeyedStore.perform, KeyedStore.rows, KeyedStore.openQuery,
      hc]

/-- **Rows that can all be found** are what the stream of a query delivers, and nothing stops it. -/
theorem opened_of_search (query : Query) (hc : Collation.parse query.collation = .ok c)
    (fits : s.PagesFit query)
    (search : s.holdings.search ns ⟨query.filter, c⟩ = .ok found) :
    ∃ source, (s.leave (.rows ns query)).1 = .ok source ∧
      source.supply s.holdings =
        ⟨Row.placeAll (max 1 query.bucketSize) (s.delivered ⟨query.filter, c⟩ found), none⟩ := by
  cases s with
  | memory m =>
    refine ⟨.known (.ofRows (Row.window c query.bucketSize found)), ?_, Supply.known_ofRows _⟩
    simp only [leave, MemoryStore.leave, MemoryStore.rows, hc, MemoryStore.candidates_eq_holdings,
      search]
    rfl
  | keyed k =>
    cases hname : KeyedStore.openName ns with
    | error e => simp [holdings, Holdings.search, hname] at search
    | ok name =>
      have through : Selection.search ⟨query.filter, c⟩
          (KeyedStore.stored (k.partition name).toList) = .ok found := by
        rw [← KeyedStore.entries_of_openName hname, ← search]
        simp only [holdings, Holdings.search, hname]
      rw [KeyedStore.answer_rows hname hc]
      by_cases ordered : KeyedStore.isKeyOrdered ⟨query.filter, c⟩ = true
      · refine ⟨_, if_pos ordered, ?_⟩
        rw [KeyedStore.supply_start hname _ (fits c hc ordered),
          Selection.gather_of_search through]
        simp only [Supply.paged, Nat.zero_mul, Supply.placed_zero, delivered, ordered, if_true]
      · refine ⟨.known (.ofRows (Row.window c query.bucketSize found)), ?_, ?_⟩
        · rw [if_neg ordered, through]
        · simp only [RowSource.supply, Supply.known_ofRows, Row.window, delivered, ordered]
          rfl

/-- **Where a search stops**, the query is refused or its stream breaks off, with the same error. -/
theorem opened_of_stopped (hc : Collation.parse query.collation = .ok c) (fits : s.PagesFit query)
    (search : s.holdings.search ns ⟨query.filter, c⟩ = .error e) :
    (s.leave (.rows ns query)).1 = .error e ∨
      ∃ source, (s.leave (.rows ns query)).1 = .ok source ∧
        (source.supply s.holdings).fault = some e := by
  cases s with
  | memory m =>
    refine .inl ?_
    simp only [leave, MemoryStore.leave, MemoryStore.rows, hc, MemoryStore.candidates_eq_holdings,
      search]
    rfl
  | keyed k =>
    rw [← KeyedStore.candidates_eq_holdings] at search
    simp only [leave, KeyedStore.leave, KeyedStore.perform, KeyedStore.rows, KeyedStore.openQuery,
      hc]
    cases hpart : KeyedStore.partitionName ns with
    | error e' =>
      have unnamed : KeyedStore.openName ns = .error e' := by
        simp only [KeyedStore.openName, hpart]
      simp only [KeyedStore.candidates, unnamed] at search
      obtain rfl := Except.error.inj search
      exact .inl rfl
    | ok part =>
      simp only [search]
      by_cases ordered : KeyedStore.isKeyOrdered ⟨query.filter, c⟩ = true
      · refine .inr ⟨_, if_pos ordered, ?_⟩
        cases hname : KeyedStore.openName ns with
        | error e' =>
          simp only [KeyedStore.candidates, hname] at search
          simp only [RowSource.supply, Holdings.pagesAhead, holdings, Holdings.reading, hname]
          exact congrArg some (Except.error.inj search)
        | ok name =>
          have stop : (Selection.gather ⟨query.filter, c⟩
              (KeyedStore.stored (k.partition name).toList)).2 = some e := by
            rw [KeyedStore.candidates_of_openName hname, KeyedStore.entries_of_openName hname]
              at search
            exact Selection.gather_of_search_error search
          have supply := KeyedStore.supply_start (k := k) hname ⟨query.filter, c⟩
            (fits c hc ordered)
          have stopped := Supply.fault_paged (max 1 query.bucketSize) 0 (Selection.gather
            ⟨query.filter, c⟩ (KeyedStore.stored (k.partition name).toList))
          rw [← supply] at stopped
          exact stopped.trans stop
      · exact .inl (if_neg ordered)

/-! ## Recounts -/

/-- A stream that a query has opened can be read, and only to its supply. -/
theorem readTo_iff_of_opened {source : RowSource}
    (opened : (s.leave (.rows ns query)).1 = .ok source) (rows : List Row)
    (fault : Option StoreError) :
    source.ReadTo s.holdings rows fault ↔ source.supply s.holdings = ⟨rows, fault⟩ := by
  have room : source.HasRoom := (supply_of_rows opened).1
  refine ⟨fun read => read.supply_eq room, fun supply => ?_⟩
  obtain ⟨store, holds, free⟩ := s.holdings.exists_store
  let site : Site := { store }
  have prompt : source.Prompt site.store := by
    obtain ⟨list, rfl⟩ | ⟨k, c, -, -, -, rfl⟩ := opened_cases opened
    · exact RowSource.prompt_ofRows list store
    · exact free
  have read := RowSource.readTo_supply room prompt holds
  rwa [supply] at read

/-- What a query comes to that is answered. -/
theorem comesTo_of_opened {source : RowSource}
    (opened : (s.leave (.rows ns query)).1 = .ok source) :
    s.ComesTo ns query (source.supply s.holdings) := by
  intro rows fault
  rw [← readTo_iff_of_opened opened]
  constructor
  · rintro (refused | ⟨answer, read⟩)
    · rw [opened] at refused
      cases refused
    · rw [opened] at answer
      obtain rfl := Except.ok.inj answer
      exact read
  · exact .read opened

/-- What a query comes to that is refused. -/
theorem comesTo_of_refused (refused : (s.leave (.rows ns query)).1 = .error e) :
    s.ComesTo ns query ⟨[], some e⟩ := by
  intro rows fault
  constructor
  · rintro (answer | ⟨answer, -⟩)
    · rw [refused] at answer
      obtain rfl := Except.error.inj answer
      rfl
    · rw [refused] at answer
      cases answer
  · rintro ⟨⟩
    exact .refused refused

/-- **A query comes to one supply**, and a recount tells how many rows that has, or what stops it.
-/
theorem comesTo_tally (s : Store) (ns : Namespace) {query : Query} (fits : s.PagesFit query) :
    ∃ supply, s.ComesTo ns query supply ∧
      (s.leave (.count ns query.filter query.collation)).1 = supply.tally := by
  have counted := s.answer_count_eq ns query.filter query.collation
  cases hc : Collation.parse query.collation with
  | error e =>
    simp only [hc] at counted
    exact ⟨_, comesTo_of_refused (rows_of_parse_error hc), counted⟩
  | ok c =>
    simp only [hc] at counted
    cases search : s.holdings.search ns ⟨query.filter, c⟩ with
    | ok found =>
      obtain ⟨source, opened, supply⟩ := opened_of_search query hc fits search
      refine ⟨_, comesTo_of_opened opened, ?_⟩
      simp only [counted, search, Except.map, supply, Supply.tally, Row.placeAll,
        List.length_mapIdx, length_delivered]
    | error e =>
      simp only [search, Except.map] at counted
      obtain refused | ⟨source, opened, stopped⟩ := opened_of_stopped hc fits search
      · exact ⟨_, comesTo_of_refused refused, counted⟩
      · refine ⟨_, comesTo_of_opened opened, ?_⟩
        simp only [counted, Supply.tally, stopped]

/-- **A recount agrees with a reading.**  While the records are left as they are, a recount answers
a number exactly if the rows of the query can be read without error and are that many; and it fails
with an error exactly if the query is refused with this error, or the reading of its rows breaks off
with it. -/
theorem count_iff_yields {s t : Store} {ns : Namespace} {query : Query}
    (same : t.holdings = s.holdings) (fits : s.PagesFit query) :
    (∀ n, (t.leave (.count ns query.filter query.collation)).1 = .ok n ↔
        ∃ rows, s.Yields ns query rows none ∧ rows.length = n) ∧
      ∀ e, (t.leave (.count ns query.filter query.collation)).1 = .error e ↔
        ∃ rows, s.Yields ns query rows (some e) := by
  obtain ⟨⟨rows, fault⟩, yields, counted⟩ := s.comesTo_tally ns fits
  rw [answer_count_eq, same, ← answer_count_eq, counted]
  simp only [yields _ _, Supply.mk.injEq]
  cases fault with
  | none => simp [Supply.tally]
  | some e => simp [Supply.tally]

/-- Two orders are counted as two rows.  When the text of the second one is damaged, the recount has
the error with which the reading breaks off behind the first. -/
theorem count_iff_yields_orders :
    let ns : Namespace := ⟨"crm", "orders"⟩
    let query : Query := ⟨.matchAll, 1, none, none⟩
    let whole : Store := .keyed .twoOrders
    let damaged : Store := .keyed (KeyedStore.twoOrders.setPartition "crm__orders"
      ((KeyedStore.twoOrders.partition "crm__orders").insert (KeyedStore.keyOf ⟨"b"⟩) "?"))
    whole.PagesFit query ∧ damaged.PagesFit query ∧
      (∃ rows, whole.Yields ns query rows none ∧ rows.length = 2) ∧
      ∃ rows, damaged.Yields ns query rows (some .encoding) := by
  intro ns query whole damaged
  have room : max 1 query.bucketSize ≤ KeyedStore.maxPageSize := by decide
  have fits : whole.PagesFit query := fun _ _ _ => room
  have fits' : damaged.PagesFit query := fun _ _ _ => room
  have counted : (whole.leave (.count ns query.filter query.collation)).1 = .ok 2 := by cbv
  have stopped : (damaged.leave (.count ns query.filter query.collation)).1 = .error .encoding := by
    cbv
  exact ⟨fits, fits', ((count_iff_yields rfl fits).1 2).mp counted,
    ((count_iff_yields rfl fits').2 .encoding).mp stopped⟩

end Store

end PacedPurge
