import Mathlib
import PacedPurge.Proofs.Bucket.Asking
import PacedPurge.Proofs.Store.Mirroring

/-!
# Both stores deliver the same rows

A client that asks either store for the rows of a query, and takes them while nobody else is about,
gets the same rows, if the stores hold the same records (`Store.rows_agree`).  There are three ways
to them: the store in memory and the keyed store may both collect and sort the selected records
first, or the keyed store reads them page by page, without counting them beforehand and without
sorting.  The pages are placed as the sorted records are, since records are found in their order
there (`KeyedStore.increasing_chosen`).

Where the filter makes no sense for some record, no row is delivered at all.  A filter that stops at
one record accepts none, so not even the first page of a reading has a row before the error.
-/

namespace PacedPurge

/-- What a client gets that asks for the rows of a query and takes up to `fuel` of them, when nobody
else is about: the error with which they cannot be had, or what the stream delivers. -/
def Site.read (site : Site) (ns : Namespace) (query : Query) (fuel : Nat) :
    Except StoreError (List Delivery) :=
  match site.serve (.rows ns query) with
  | (.error e, _) => .error e
  | (.ok rows, site) => .ok (rows.drain fuel site).1

/-! ## Asking for rows -/

namespace Site

variable {site : Site} {ns : Namespace} {query : Query} {fuel : Nat}

theorem serve_rows (site : Site) (ns : Namespace) (query : Query) :
    site.serve (.rows ns query) = (site.enter (.rows ns query)).2.leave (.rows ns query) := by
  have atOnce : (site.enter (.rows ns query)).1 = none := by
    unfold enter
    cases site.store <;> rfl
  unfold serve
  split
  · next entered heq => rw [heq]
  · next time entered heq =>
    rw [heq] at atOnce
    cases atOnce

/-- Rows are the same whatever tickets are out. -/
theorem answer_rows (site : Site) (ns : Namespace) (query : Query) :
    (site.serve (.rows ns query)).1 = (site.store.leave (.rows ns query)).1 := by
  rw [serve_rows, answer_leave, store_enter]
  cases site.store with
  | memory m => rfl
  | keyed k =>
    have same : (k.enter (.rows ns query)).rows ns query = k.rows ns query := by
      unfold KeyedStore.enter
      split
      · rfl
      · next kind _ => cases kind <;> rfl
    simp only [Store.enter, Store.leave, KeyedStore.leave, KeyedStore.perform, same]

/-- A query that cannot be answered. -/
theorem read_of_error {e : StoreError} (h : (site.store.leave (.rows ns query)).1 = .error e) :
    site.read ns query fuel = .error e := by
  unfold read
  rw [← answer_rows] at h
  generalize site.serve (.rows ns query) = served at h
  obtain ⟨answer, after⟩ := served
  obtain rfl := h
  rfl

/-- A query that is answered leaves records and tickets as they are. -/
theorem read_of_rows {rows : RowSource} (h : (site.store.leave (.rows ns query)).1 = .ok rows) :
    ∃ after : Site, after.store.holdings = site.store.holdings ∧
      (site.store.admitsPages = true → after.store.admitsPages = true) ∧
      ∀ fuel, site.read ns query fuel = .ok (rows.drain fuel after).1 := by
  refine ⟨(site.serve (.rows ns query)).2, ?_, ?_, fun fuel => ?_⟩
  · rw [serve_rows, store_leave, Store.holdings_leave _ _ rfl, store_enter, Store.holdings_enter]
  · intro free
    rw [serve_rows, store_leave, store_enter, Store.admitsPages_serve _ _ fun _ => free, free]
  · unfold read
    rw [← answer_rows] at h
    generalize site.serve (.rows ns query) = served at h
    obtain ⟨answer, after⟩ := served
    obtain rfl := h
    rfl

/-- Rows that are known are taken as they are. -/
theorem read_of_known {rows : List Row}
    (h : (site.store.leave (.rows ns query)).1 = .ok (.known (.ofRows rows))) (fuel : Nat) :
    site.read ns query fuel = .ok ((rows.map .ok).take fuel) := by
  obtain ⟨after, -, -, hread⟩ := read_of_rows h
  have supply : RowSource.supply after.store.holdings (.known (.ofRows rows)) = ⟨rows, none⟩ :=
    Supply.known_ofRows rows
  have taken := RowSource.drain_of_whole (s := .known (.ofRows rows)) trivial
    (RowSource.prompt_ofRows rows after.store) (by rw [supply]) fuel
  rw [hread, taken, supply]

end Site

/-! ## The store in memory -/

section Memory

variable {m : MemoryStore} {ns : Namespace} {query : Query} {c : Collation} {site : Site}

theorem MemoryStore.search_eq (m : MemoryStore) (ns : Namespace) (s : Selection) :
    m.candidates ns s = s.search (Selection.entriesOf (m.records ns).toList) :=
  m.candidates_eq ns s

/-- The rows of the selected records, if nothing stops the selection. -/
theorem MemoryStore.read_of_gather {found : List Candidate} (hstore : site.store = .memory m)
    (hc : Collation.parse query.collation = .ok c)
    (h : Selection.gather ⟨query.filter, c⟩ (Selection.entriesOf (m.records ns).toList) =
      (found, none)) (fuel : Nat) :
    site.read ns query fuel = .ok (((Row.window c query.bucketSize found).map .ok).take fuel) := by
  have search : Selection.search ⟨query.filter, c⟩ (Selection.entriesOf (m.records ns).toList) =
      .ok found := by
    simp only [Selection.search, h]
  refine Site.read_of_known ?_ fuel
  rw [hstore]
  simp only [Store.leave, MemoryStore.leave, MemoryStore.rows, hc, MemoryStore.search_eq, search]
  rfl

/-- No rows, if something stops the selection. -/
theorem MemoryStore.read_of_stop {found : List Candidate} {e : StoreError}
    (hstore : site.store = .memory m) (hc : Collation.parse query.collation = .ok c)
    (h : Selection.gather ⟨query.filter, c⟩ (Selection.entriesOf (m.records ns).toList) =
      (found, some e)) (fuel : Nat) : site.read ns query fuel = .error e := by
  have search : Selection.search ⟨query.filter, c⟩ (Selection.entriesOf (m.records ns).toList) =
      .error e := by
    simp only [Selection.search, h]
  refine Site.read_of_error ?_
  rw [hstore]
  simp only [Store.leave, MemoryStore.leave, MemoryStore.rows, hc, MemoryStore.search_eq, search]
  rfl

end Memory

/-! ## The keyed store -/

namespace KeyedStore

variable {k : KeyedStore} {ns : Namespace} {name : String} {query : Query} {c : Collation}
  {site : Site}

/-- The rows of the selected records, if nothing stops the selection. -/
theorem read_of_gather {found : List Candidate} (hstore : site.store = .keyed k)
    (hname : openName ns = .ok name) (hc : Collation.parse query.collation = .ok c)
    (room : max 1 query.bucketSize ≤ maxPageSize) (free : k.readTickets.available)
    (h : Selection.gather ⟨query.filter, c⟩ (stored (k.partition name).toList) = (found, none))
    (ordered : isKeyOrdered ⟨query.filter, c⟩ → Row.Increasing c found) (fuel : Nat) :
    site.read ns query fuel = .ok (((Row.window c query.bucketSize found).map .ok).take fuel) := by
  have answer := answer_rows (k := k) hname hc
  rw [← hstore] at answer
  by_cases paged : isKeyOrdered ⟨query.filter, c⟩
  · rw [if_pos paged] at answer
    obtain ⟨after, kept, tickets, hread⟩ := Site.read_of_rows answer
    have prompt : RowSource.Prompt
        (.paged (.start ns ⟨query.filter, c⟩ (max 1 query.bucketSize)) []) after.store := by
      exact tickets (by rw [hstore]; exact free)
    have supply : RowSource.supply after.store.holdings
        (.paged (.start ns ⟨query.filter, c⟩ (max 1 query.bucketSize)) []) =
          ⟨Row.window c query.bucketSize found, none⟩ := by
      rw [kept, hstore, supply_start hname _ room, h]
      simp only [Supply.paged, Nat.zero_mul, Supply.placed_zero, Row.window,
        (ordered paged).sorted_eq]
    have taken := RowSource.drain_of_whole (hasRoom_start ns _ _) prompt (by rw [supply]) fuel
    rw [hread, taken, supply]
  · have search : Selection.search ⟨query.filter, c⟩ (stored (k.partition name).toList) =
        .ok found := by
      simp only [Selection.search, h]
    rw [if_neg paged, search] at answer
    exact Site.read_of_known answer fuel

/-- No rows, if something stops the selection before it has found any. -/
theorem read_of_stop {e : StoreError} (hstore : site.store = .keyed k)
    (hname : openName ns = .ok name) (hc : Collation.parse query.collation = .ok c)
    (room : max 1 query.bucketSize ≤ maxPageSize) (free : k.readTickets.available)
    (h : Selection.gather ⟨query.filter, c⟩ (stored (k.partition name).toList) = ([], some e))
    (fuel : Nat) :
    site.read ns query fuel =
      if isKeyOrdered ⟨query.filter, c⟩ then .ok ([.error e].take fuel) else .error e := by
  have answer := answer_rows (k := k) hname hc
  rw [← hstore] at answer
  by_cases paged : isKeyOrdered ⟨query.filter, c⟩
  · rw [if_pos paged] at answer ⊢
    obtain ⟨after, kept, tickets, hread⟩ := Site.read_of_rows answer
    have prompt : RowSource.Prompt
        (.paged (.start ns ⟨query.filter, c⟩ (max 1 query.bucketSize)) []) after.store := by
      exact tickets (by rw [hstore]; exact free)
    have stop : after.store.holdings.page
        (.start ns ⟨query.filter, c⟩ (max 1 query.bucketSize)) = .error e := by
      rw [kept, hstore, page_start hname _ room]
      have positive : 0 < max 1 query.bucketSize := hasRoom_start ns ⟨query.filter, c⟩ _
      have read := readPage_cases ⟨query.filter, c⟩ positive none (k.partition name).toList
      generalize readPage _ _ _ _ = page at read ⊢
      cases read with
      | stopped short stop =>
        rw [h] at stop
        exact congrArg _ (Option.some.inj stop).symm
      | ended short all =>
        rw [h] at all
        cases all
      | filled full split more visited =>
        rw [h] at more
        have nothing := (List.append_eq_nil_iff.mp (congrArg Prod.fst more).symm).1
        rw [nothing, List.length_nil] at full
        omega
    rw [hread, RowSource.drain_of_fault prompt rfl stop]
  · have search : Selection.search ⟨query.filter, c⟩ (stored (k.partition name).toList) =
        .error e := by
      simp only [Selection.search, h]
    rw [if_neg paged, search] at answer
    rw [if_neg paged]
    exact Site.read_of_error answer

end KeyedStore

/-! ## Both stores -/

/-- **Both stores deliver the same rows.**  A store in memory and a keyed store hold the same
records in a collection.  If the filter makes sense for all of them, both deliver the selected ones,
in their order and in their places.  If it makes no sense for some record, neither delivers a row,
and both report what is wrong with the same record: the store in memory at once, and so does the
keyed store unless it reads page by page, when this is all that the stream delivers. -/
theorem Store.rows_agree {m : MemoryStore} {k : KeyedStore} {memory keyed : Site} {ns : Namespace}
    {name : String} {query : Query} {c : Collation} (hm : memory.store = .memory m)
    (hk : keyed.store = .keyed k) (hname : KeyedStore.openName ns = .ok name)
    (same : KeyedStore.Mirrors (k.partition name) (m.records ns))
    (hc : Collation.parse query.collation = .ok c)
    (room : max 1 query.bucketSize ≤ KeyedStore.maxPageSize) (free : k.readTickets.available) :
    let selection : Selection := ⟨query.filter, c⟩
    let records := (m.records ns).toList
    ((∀ r ∈ records, ∃ b, selection.selects r.1 r.2 = .ok b) → ∀ fuel,
      memory.read ns query fuel =
          .ok (((Row.window c query.bucketSize (selection.chosen records)).map .ok).take fuel) ∧
        keyed.read ns query fuel = memory.read ns query fuel) ∧
    ((∃ r ∈ records, ∃ e, selection.selects r.1 r.2 = .error e) →
      ∃ r ∈ records, ∃ e, selection.selects r.1 r.2 = .error e ∧ ∀ fuel,
        memory.read ns query fuel = .error e ∧
          keyed.read ns query fuel =
            if KeyedStore.isKeyOrdered selection then .ok ([.error e].take fuel)
            else .error e) := by
  intro selection records
  have mirrored := same.gather_eq selection
  constructor
  · intro evaluates fuel
    have found := Selection.gather_whole evaluates
    have inMemory := MemoryStore.read_of_gather hm hc found fuel
    refine ⟨inMemory, ?_⟩
    rw [inMemory]
    exact KeyedStore.read_of_gather hk hname hc room free (mirrored.trans found)
      (fun paged => KeyedStore.increasing_chosen paged (m.records ns)) fuel
  · intro faulty
    obtain ⟨r, hr, e, he, found⟩ := Selection.gather_faulty faulty
    refine ⟨r, hr, e, he, fun fuel => ⟨MemoryStore.read_of_stop hm hc found fuel, ?_⟩⟩
    exact KeyedStore.read_of_stop hk hname hc room free (mirrored.trans found) fuel

/-- Two orders in memory. -/
def MemoryStore.twoOrders : MemoryStore :=
  let orders : Records := Std.TreeMap.ofList [(RecordId.mk "b", []), (RecordId.mk "a", [])]
  { collections := Std.TreeMap.ofList [(Namespace.mk "crm" "orders", orders)] }

/-- The same orders in a keyed store. -/
def KeyedStore.twoOrders : KeyedStore :=
  let orders : Partition := Std.TreeMap.ofList [(keyOf ⟨"b"⟩, encode []), (keyOf ⟨"a"⟩, encode [])]
  { partitions := Std.TreeMap.ofList [("crm__orders", orders)] }

/-- An order that is open and one that is shipped, in memory. -/
def MemoryStore.statedOrders : MemoryStore :=
  let orders : Records := Std.TreeMap.ofList
    [(RecordId.mk "b", [("state", Json.string "open")]),
      (RecordId.mk "a", [("state", Json.string "shipped")])]
  { collections := Std.TreeMap.ofList [(Namespace.mk "crm" "orders", orders)] }

/-- The same orders in a keyed store. -/
def KeyedStore.statedOrders : KeyedStore :=
  let orders : Partition := Std.TreeMap.ofList
    [(keyOf ⟨"b"⟩, encode [("state", Json.string "open")]),
      (keyOf ⟨"a"⟩, encode [("state", Json.string "shipped")])]
  { partitions := Std.TreeMap.ofList [("crm__orders", orders)] }

theorem MemoryStore.toList_statedOrders :
    (MemoryStore.statedOrders.records ⟨"crm", "orders"⟩).toList =
      [(⟨"a"⟩, [("state", .string "shipped")]), (⟨"b"⟩, [("state", .string "open")])] := by
  cbv

theorem KeyedStore.mirrors_statedOrders :
    Mirrors (statedOrders.partition "crm__orders")
      (MemoryStore.statedOrders.records ⟨"crm", "orders"⟩) := by
  have entries : (statedOrders.partition "crm__orders").toList =
      [(keyOf ⟨"a"⟩, encode [("state", .string "shipped")]),
        (keyOf ⟨"b"⟩, encode [("state", .string "open")])] := by
    decide +kernel
  have first : decode (keyOf ⟨"a"⟩, encode [("state", .string "shipped")]) =
      .ok (⟨"a"⟩, [("state", .string "shipped")]) := by
    cbv
  have second : decode (keyOf ⟨"b"⟩, encode [("state", .string "open")]) =
      .ok (⟨"b"⟩, [("state", .string "open")]) := by
    cbv
  refine ⟨fun e he => ?_, fun r hr => ?_⟩
  · rw [entries] at he
    rw [MemoryStore.toList_statedOrders]
    obtain rfl | rfl := List.mem_pair.mp he
    · exact ⟨_, List.mem_cons_self, first⟩
    · exact ⟨_, List.mem_cons_of_mem _ List.mem_cons_self, second⟩
  · rw [MemoryStore.toList_statedOrders] at hr
    rw [entries]
    obtain rfl | rfl := List.mem_pair.mp hr
    · exact ⟨_, List.mem_cons_self, first⟩
    · exact ⟨_, List.mem_cons_of_mem _ List.mem_cons_self, second⟩

/-- Two orders are delivered by either store one by one: page by page in the order of their ids, and
the other way round when they are sorted by their states.  A filter that makes no sense for them is
refused by both. -/
theorem Store.rows_agree_orders :
    let ns : Namespace := ⟨"crm", "orders"⟩
    let query : Query := ⟨.matchAll, 1, none, none⟩
    let stated : Query := ⟨⟨[("state", .object [("$exists", .bool true)])]⟩, 1, none, none⟩
    let broken : Query := ⟨⟨[("$or", .null)]⟩, 1, none, none⟩
    let memory : Site := { store := .memory .statedOrders }
    let keyed : Site := { store := .keyed .statedOrders }
    KeyedStore.openName ns = .ok "crm__orders" ∧
      KeyedStore.Mirrors (KeyedStore.statedOrders.partition "crm__orders")
        (MemoryStore.statedOrders.records ns) ∧
      max 1 query.bucketSize ≤ KeyedStore.maxPageSize ∧
      KeyedStore.statedOrders.readTickets.available ∧
      KeyedStore.isKeyOrdered ⟨query.filter, .simple⟩ = true ∧
      memory.read ns query 3 = .ok [.ok ⟨⟨"a"⟩, .null, 1, 1, 1⟩, .ok ⟨⟨"b"⟩, .null, 2, 1, 1⟩] ∧
      keyed.read ns query 3 = memory.read ns query 3 ∧
      KeyedStore.isKeyOrdered ⟨stated.filter, .simple⟩ = false ∧
      memory.read ns stated 3 =
        .ok [.ok ⟨⟨"b"⟩, .string "open", 1, 1, 1⟩, .ok ⟨⟨"a"⟩, .string "shipped", 2, 1, 1⟩] ∧
      keyed.read ns stated 3 = memory.read ns stated 3 ∧
      ∃ e, memory.read ns broken 1 = .error e ∧ keyed.read ns broken 1 = .ok [.error e] := by
  intro ns query stated broken memory keyed
  have hname : KeyedStore.openName ns = .ok "crm__orders" := by decide
  have same := KeyedStore.mirrors_statedOrders
  have room : max 1 query.bucketSize ≤ KeyedStore.maxPageSize := by decide
  have free : KeyedStore.statedOrders.readTickets.available := rfl
  have hm : memory.store = .memory .statedOrders := rfl
  have hk : keyed.store = .keyed .statedOrders := rfl
  have simple : ∀ q ∈ [query, stated, broken], Collation.parse q.collation = .ok .simple := by
    decide
  have records : (MemoryStore.statedOrders.records ns).toList = _ :=
    MemoryStore.toList_statedOrders
  -- Everything is selected, and comes in the order of ids.
  obtain ⟨whole, -⟩ := Store.rows_agree hm hk hname same (simple query (by simp)) room free
  obtain ⟨inMemory, agreed⟩ := whole (fun r _ => ⟨true, rfl⟩) 3
  have increasing := KeyedStore.increasing_chosen (s := ⟨query.filter, .simple⟩) rfl
    (MemoryStore.statedOrders.records ns)
  -- The states put the orders the other way round.
  obtain ⟨sorted, -⟩ := Store.rows_agree hm hk hname same (simple stated (by simp)) room free
  have evaluates : ∀ r ∈ (MemoryStore.statedOrders.records ns).toList,
      ∃ b, Selection.selects ⟨stated.filter, .simple⟩ r.1 r.2 = .ok b := by
    intro r hr
    rw [records] at hr
    obtain rfl | rfl := List.mem_pair.mp hr
    · exact ⟨true, rfl⟩
    · exact ⟨true, rfl⟩
  obtain ⟨inMemory', agreed'⟩ := sorted evaluates 3
  have chosen : Selection.chosen ⟨stated.filter, .simple⟩
      (MemoryStore.statedOrders.records ns).toList =
        [(.string "shipped", ⟨"a"⟩), (.string "open", ⟨"b"⟩)] := by
    rw [records]
    cbv
  have byState : Row.Increasing .simple
      [(.string "open", ⟨"b"⟩), (.string "shipped", ⟨"a"⟩)] := by
    unfold Row.Increasing
    decide +kernel
  -- The senseless filter stops at the first record.
  obtain ⟨-, stopped⟩ := Store.rows_agree hm hk hname same (simple broken (by simp)) room free
  obtain ⟨r, hr, e, he, refused⟩ := stopped
    ⟨_, by rw [records]; exact List.mem_cons_self, _, rfl⟩
  refine ⟨hname, same, room, free, rfl, ?_, agreed, rfl, ?_, agreed', e, (refused 1).1,
    (refused 1).2⟩
  · rw [inMemory, Row.window, increasing.sorted_eq, records]
    simp only [query]
    rfl
  · rw [inMemory', chosen, Row.window, Row.sorted_of_perm (by decide) (.swap _ _ _),
      byState.sorted_eq]
    simp only [stated]
    rfl

end PacedPurge
