import PacedPurge.Proofs.Bucket.Recounting
import PacedPurge.Proofs.Store.Service

/-!
# Buckets with room to spare

A bucket size that no collection fills puts all selected records into one bucket, with the rows that
the number of records would give as bucket size.  So it does in a store in memory, and in a keyed
store where the selected records are sorted, for no room is set aside there that is not used.

A reading page by page sets room aside for a whole page before it knows how many records there are.
So a bucket size beyond `KeyedStore.maxPageSize` breaks it off before the first row, however few the
records are (`Store.one_bucket_iff_pagesFit`, `Store.oversized_page_breaks_off`).  No machine has
room for a page beyond this size; that it has room for any other page is taken for granted here.
-/

namespace PacedPurge

/-! ## Sources with the same before them -/

namespace BucketSource

variable {s s' : BucketSource} {h h' : Holdings} {site site' : Site} {rows : RowSource} {size : Nat}

/-- Sound sources that have the same before them are drained alike. -/
theorem Sound.drain_congr (sound : s.Sound h site) (sound' : s'.Sound h' site')
    (same : s.prospect h = s'.prospect h') (calls : Nat) :
    s.drain calls site = s'.drain calls site' := by
  induction calls generalizing s s' site site' with
  | zero => rfl
  | succ calls ih =>
    obtain ⟨foreseen, later⟩ := sound.next_eq
    obtain ⟨foreseen', later'⟩ := sound'.next_eq
    rw [same, foreseen'] at foreseen
    obtain ⟨answers, prospects⟩ := Prod.mk.inj foreseen
    have rest := ih later later' prospects.symm
    unfold drain
    generalize s.next site = said at answers rest
    generalize s'.next site' = said' at answers rest
    obtain ⟨answer, after, final⟩ := said
    obtain ⟨answer', after', final'⟩ := said'
    obtain rfl : answer' = answer := answers
    simp only at rest ⊢
    cases answer' with
    | error e => rfl
    | ok bucket =>
      cases bucket with
      | none => rfl
      | some b => simp only [rest]

/-- **A source on all rows of candidates** is drained to the buckets that they are cut into, however
the rows are had. -/
theorem drain_of_supply (positive : 0 < size) {found : List Candidate} (room : rows.HasRoom)
    (served : rows.Served h site) (supply : rows.supply h = ⟨Row.placeAll size found, none⟩)
    (calls : Nat) :
    (ofRows rows size).drain calls site = .ok ((Bucket.cut size found).take calls) := by
  have known : RowSource.supply h (.known (.ofRows (Row.placeAll size found))) =
      ⟨Row.placeAll size found, none⟩ := Supply.known_ofRows _
  have sound := sound_ofRows room served size
  have room' : RowSource.HasRoom (.known (.ofRows (Row.placeAll size found))) := trivial
  have sound' : (ofRows (.known (.ofRows (Row.placeAll size found))) size).Sound h site :=
    sound_ofRows room' (fun paged => by cases paged) size
  have same : (ofRows rows size).prospect h =
      (ofRows (.known (.ofRows (Row.placeAll size found))) size).prospect h := by
    rw [prospect_of_active rfl, prospect_of_active rfl]
    exact congrArg _ (supply.trans known.symm)
  rw [sound.drain_congr sound' same]
  exact (cuts_ofRows positive found).drain_eq positive (Nat.zero_le _) calls site

/-- A source on a stream that breaks off before the first row is drained to the error. -/
theorem drain_of_broken {e : StoreError} (room : rows.HasRoom) (served : rows.Served h site)
    (supply : rows.supply h = ⟨[], some e⟩) (calls : Nat) :
    (ofRows rows size).drain (calls + 1) site = .error (.stream e) := by
  have foreseen := (sound_ofRows room served size).next_eq.1
  rw [prospect_of_active rfl, show (ofRows rows size).rows = rows from rfl, supply] at foreseen
  have answered := congrArg Prod.fst foreseen
  unfold drain
  generalize (ofRows rows size).next site = said at answered
  obtain ⟨answer, after, final⟩ := said
  obtain rfl : Except.error (BucketError.stream e) = answer := answered
  rfl

end BucketSource

/-! ## One bucket -/

section OneBucket

variable {size : Nat} {found : List Candidate}

/-- Candidates that fit into one bucket are placed as if they filled it. -/
theorem Row.placeAll_of_le (fits : found.length ≤ size) :
    placeAll size found = placeAll found.length found := by
  refine List.ext_getElem ?_ fun i hi _ => ?_
  · simp only [placeAll, List.length_mapIdx]
  · simp only [placeAll, List.length_mapIdx] at hi
    have inside : i < size := by omega
    have positive : 0 < size := by omega
    have some_found : 0 < found.length := by omega
    simp only [placeAll, List.getElem_mapIdx, place_eq positive, place_eq some_found,
      Nat.div_eq_of_lt inside, Nat.div_eq_of_lt hi, Nat.mod_eq_of_lt inside, Nat.mod_eq_of_lt hi,
      Row.mk.injEq, true_and]
    omega

/-- Candidates that fit into one bucket are cut into one. -/
theorem Bucket.cut_of_le (some_found : 1 ≤ found.length) (fits : found.length ≤ size) :
    cut size found = [nth size found 0] := by
  have one : needed size found.length = 1 := by
    have first : 0 < needed size found.length := by
      rw [lt_needed_iff (by omega)]
      omega
    have last : ¬1 < needed size found.length := by
      rw [lt_needed_iff (by omega)]
      omega
    omega
  rw [cut, one]
  rfl

theorem Bucket.ids_nth_zero (fits : found.length ≤ size) :
    (nth size found 0).ids = found.map (·.2) := by
  simp only [nth, share, Nat.zero_mul, List.drop_zero, List.take_of_length_le fits]

end OneBucket

/-! ## Pages that are too large -/

/-- A reading whose pages are too large breaks off before the first row. -/
theorem KeyedStore.supply_oversized {k : KeyedStore} {ns : Namespace} {name : String}
    (hname : openName ns = .ok name) (selection : Selection) {size : Nat}
    (large : maxPageSize < size) :
    RowSource.supply (Store.keyed k).holdings (.paged (.start ns selection size) []) =
      ⟨[], some workFailed⟩ := by
  have broken :
      (Store.keyed k).holdings.reading (.start ns selection size) = .error workFailed := by
    simp only [Store.holdings, Holdings.reading, KeyScan.start, hname]
    exact if_pos large
  simp only [RowSource.supply, Holdings.pagesAhead, broken, List.nil_append]
  rfl

namespace Store

variable {s : Store} {ns : Namespace} {query : Query} {c : Collation}

theorem PagesFit.of_le (fits : s.PagesFit query) {size : Nat} (le : size ≤ query.bucketSize) :
    s.PagesFit { query with bucketSize := size } := by
  cases s with
  | memory m => trivial
  | keyed k =>
    intro c hc ordered
    have := fits c hc ordered
    simp only
    omega

/-- Pages are too large only in a reading page by page. -/
theorem exists_of_not_pagesFit (large : ¬s.PagesFit query)
    (hc : Collation.parse query.collation = .ok c) :
    ∃ k, s = .keyed k ∧ KeyedStore.isKeyOrdered ⟨query.filter, c⟩ = true ∧
      KeyedStore.maxPageSize < max 1 query.bucketSize := by
  cases s with
  | memory m => exact absurd trivial large
  | keyed k =>
    refine ⟨k, rfl, ?_⟩
    by_contra small
    refine large fun c' hc' ordered => ?_
    obtain rfl : c' = c := Except.ok.inj (hc'.symm.trans hc)
    exact Nat.le_of_not_lt fun exceeds => small ⟨ordered, exceeds⟩

/-- A collection with a selected record can be searched, if all its entries can be read. -/
theorem search_of_selected {selection : Selection}
    (readable : ∀ e ∈ s.holdings.entries ns, e.IsReadable selection)
    (some_selected : 1 ≤ (s.holdings.entries ns).countP (·.isSelected selection)) :
    ∃ found, s.holdings.search ns selection = .ok found ∧
      found.length = (s.holdings.entries ns).countP (·.isSelected selection) := by
  obtain ⟨found, through⟩ := search_of_isReadable readable
  have gathered := Selection.gather_of_search through
  have length := Selection.length_gather (s := selection) (Selection.gather_of_isReadable readable)
  rw [gathered] at length
  refine ⟨found, ?_, length⟩
  cases s with
  | memory m => exact through
  | keyed k =>
    cases hname : KeyedStore.openName ns with
    | error e => simp [holdings, Holdings.entries, hname] at some_selected
    | ok name =>
      simp only [holdings, Holdings.search, hname]
      exact through

/-- **One bucket for all.**  The filter makes sense for all records of a collection, it selects
some, and the bucket size is not smaller than their number.  If pages of this size fit, the query
comes to the rows that the number of records gives as bucket size, and a source on it is drained to
one bucket that has them all.

If they do not fit, the query comes to no row and an error, and so does a source on it, though the
number of records as bucket size would be served. -/
theorem one_bucket_iff_pagesFit (hc : Collation.parse query.collation = .ok c)
    (readable : ∀ e ∈ s.holdings.entries ns, e.IsReadable ⟨query.filter, c⟩)
    (some_selected : 1 ≤ (s.holdings.entries ns).countP (·.isSelected ⟨query.filter, c⟩))
    (enough : (s.holdings.entries ns).countP (·.isSelected ⟨query.filter, c⟩) ≤ query.bucketSize) :
    let count := (s.holdings.entries ns).countP (·.isSelected ⟨query.filter, c⟩)
    let tight : Query := { query with bucketSize := count }
    ∃ source rows b, (s.leave (.rows ns query)).1 = .ok source ∧
      rows.length = count ∧ b.ids = rows.map (·.id) ∧
      (s.PagesFit query →
        s.ComesTo ns tight ⟨rows, none⟩ ∧ s.ComesTo ns query ⟨rows, none⟩ ∧
          ∀ site calls, source.Served s.holdings site →
            (BucketSource.ofRows source query.bucketSize).drain calls site = .ok ([b].take calls)) ∧
      (¬s.PagesFit query →
        (s.PagesFit tight → s.ComesTo ns tight ⟨rows, none⟩) ∧
          s.ComesTo ns query ⟨[], some KeyedStore.workFailed⟩ ∧
          ∀ site calls, source.Served s.holdings site →
            (BucketSource.ofRows source query.bucketSize).drain (calls + 1) site =
              .error (.stream KeyedStore.workFailed)) := by
  intro count tight
  obtain ⟨found, search, length⟩ := search_of_selected readable some_selected
  let given := s.delivered ⟨query.filter, c⟩ found
  have all : given.length = count := (s.length_delivered _ found).trans length
  have fitting : given.length ≤ query.bucketSize := by rwa [all]
  have atLeast : max 1 query.bucketSize = query.bucketSize := by omega
  have exactly : max 1 tight.bucketSize = given.length := by
    rw [all]
    exact Nat.max_eq_right some_selected
  have served : s.PagesFit tight →
      s.ComesTo ns tight ⟨Row.placeAll given.length given, none⟩ := by
    intro fits
    obtain ⟨source, opened, supply⟩ := opened_of_search tight hc fits search
    rw [exactly] at supply
    rw [← supply]
    exact comesTo_of_opened opened
  have ids : (Bucket.nth query.bucketSize given 0).ids =
      (Row.placeAll given.length given).map (·.id) := by
    rw [Bucket.ids_nth_zero fitting, ← Supply.placed_zero, Supply.map_id_placed]
  have rows : (Row.placeAll given.length given).length = count := List.length_mapIdx.trans all
  by_cases fits : s.PagesFit query
  · obtain ⟨source, opened, supply⟩ := opened_of_search query hc fits search
    rw [atLeast] at supply
    refine ⟨source, _, _, opened, rows, ids, fun _ => ⟨served (fits.of_le enough), ?_, ?_⟩,
      fun large => absurd fits large⟩
    · rw [← Row.placeAll_of_le fitting, ← supply]
      exact comesTo_of_opened opened
    · intro site calls ready
      rw [BucketSource.drain_of_supply (by omega) (supply_of_rows opened).1 ready supply,
        Bucket.cut_of_le (by rwa [all]) fitting]
  · obtain ⟨k, rfl, ordered, large⟩ := exists_of_not_pagesFit fits hc
    cases hname : KeyedStore.openName ns with
    | error e => simp [holdings, Holdings.search, hname] at search
    | ok name =>
      have opened := KeyedStore.answer_rows (k := k) hname hc
      rw [if_pos ordered] at opened
      have broken := KeyedStore.supply_oversized (k := k) hname ⟨query.filter, c⟩ large
      refine ⟨_, _, _, opened, rows, ids, fun fits' => absurd fits' fits, fun _ => ⟨served, ?_, ?_⟩⟩
      · rw [← broken]
        exact comesTo_of_opened opened
      · intro site calls ready
        exact BucketSource.drain_of_broken (supply_of_rows opened).1 ready broken calls

/-- Two orders in memory make one bucket, however large it might be. -/
theorem one_bucket_iff_pagesFit_orders :
    let ns : Namespace := ⟨"crm", "orders"⟩
    let query : Query := ⟨.matchAll, 18446744073709551615, none, none⟩
    let s : Store := .memory .twoOrders
    Collation.parse query.collation = .ok .simple ∧
      (∀ e ∈ s.holdings.entries ns, e.IsReadable ⟨query.filter, .simple⟩) ∧
      (s.holdings.entries ns).countP (·.isSelected ⟨query.filter, .simple⟩) = 2 ∧
      ∃ source rows b, (s.leave (.rows ns query)).1 = .ok source ∧ rows.length = 2 ∧
        s.ComesTo ns query ⟨rows, none⟩ ∧ b.ids.length = 2 ∧
        ∀ site, source.Served s.holdings site →
          (BucketSource.ofRows source query.bucketSize).drain 2 site = .ok [b] := by
  intro ns query s
  have hc : Collation.parse query.collation = .ok .simple := rfl
  have entries : s.holdings.entries ns = [.record ⟨"a"⟩ [], .record ⟨"b"⟩ []] := by cbv
  have readable : ∀ e ∈ s.holdings.entries ns, e.IsReadable ⟨query.filter, .simple⟩ := by
    simp only [entries, List.forall_mem_cons, List.not_mem_nil, IsEmpty.forall_iff, implies_true,
      and_true]
    exact ⟨⟨_, rfl, true, rfl⟩, ⟨_, rfl, true, rfl⟩⟩
  have two : (s.holdings.entries ns).countP (·.isSelected ⟨query.filter, .simple⟩) = 2 := by
    rw [entries]
    rfl
  obtain ⟨source, rows, b, opened, length, ids, fits, -⟩ :=
    one_bucket_iff_pagesFit hc readable (by rw [two]; decide) (by rw [two]; decide)
  obtain ⟨-, comes, drained⟩ := fits trivial
  rw [two] at length
  refine ⟨hc, readable, two, source, rows, b, opened, length, comes, ?_, fun site served => ?_⟩
  · rw [ids, List.length_map, length]
  · exact drained site 2 served

/-- Two orders in a keyed store, and the largest bucket size of 64 bits: the reading breaks off
before the first row, though both would come in buckets of two. -/
theorem oversized_page_breaks_off :
    let ns : Namespace := ⟨"crm", "orders"⟩
    let query : Query := ⟨.matchAll, 18446744073709551615, none, none⟩
    let s : Store := .keyed .twoOrders
    (∀ e ∈ s.holdings.entries ns, e.IsReadable ⟨query.filter, .simple⟩) ∧
      (s.holdings.entries ns).countP (·.isSelected ⟨query.filter, .simple⟩) = 2 ∧
      (∃ rows, rows.length = 2 ∧ s.Yields ns { query with bucketSize := 2 } rows none) ∧
      s.ComesTo ns query ⟨[], some KeyedStore.workFailed⟩ ∧
      ¬∃ rows, s.Yields ns query rows none := by
  intro ns query s
  have entries : s.holdings.entries ns =
      [.stored (KeyedStore.keyOf ⟨"a"⟩) (KeyedStore.encode []),
        .stored (KeyedStore.keyOf ⟨"b"⟩) (KeyedStore.encode [])] := by
    cbv
  have readable : ∀ e ∈ s.holdings.entries ns, e.IsReadable ⟨query.filter, .simple⟩ := by
    simp only [entries, List.forall_mem_cons, List.not_mem_nil, IsEmpty.forall_iff, implies_true,
      and_true]
    exact ⟨⟨_, rfl, true, rfl⟩, ⟨_, rfl, true, rfl⟩⟩
  have two : (s.holdings.entries ns).countP (·.isSelected ⟨query.filter, .simple⟩) = 2 := by
    rw [entries]
    rfl
  have hc : Collation.parse query.collation = .ok .simple := rfl
  have hname : KeyedStore.openName ns = .ok "crm__orders" := by decide
  have opened := KeyedStore.answer_rows (k := .twoOrders) hname hc
  have ordered : KeyedStore.isKeyOrdered ⟨query.filter, .simple⟩ = true := rfl
  rw [if_pos ordered] at opened
  have large : KeyedStore.maxPageSize < max 1 query.bucketSize := by decide
  have comes := comesTo_of_opened opened
  rw [KeyedStore.supply_oversized hname _ large] at comes
  obtain ⟨found, search, length⟩ := search_of_selected readable (by rw [two]; decide)
  have fits : s.PagesFit { query with bucketSize := 2 } := fun _ _ _ => by decide
  obtain ⟨source, opened', supply⟩ :=
    opened_of_search { query with bucketSize := 2 } hc fits search
  refine ⟨readable, two, ⟨_, ?_, (comesTo_of_opened opened' _ _).mpr supply⟩, comes, ?_⟩
  · exact (List.length_mapIdx.trans (s.length_delivered _ found)).trans (length.trans two)
  · rintro ⟨rows, served⟩
    cases (comes rows none).mp served

end Store

end PacedPurge
