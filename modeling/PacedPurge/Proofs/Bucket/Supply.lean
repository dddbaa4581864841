import PacedPurge.Proofs.Bucket.Cutting
import PacedPurge.Proofs.Bucket.Pulling
import PacedPurge.Proofs.Store.Paging

/-!
# What a stream of rows has to deliver

The *supply* of a stream of rows is what it would deliver if nothing happened in between: some rows,
and then its end or an error.  Rows that are known beforehand are their own supply.  A reading page
by page has the rows that are left of its last page, and then the pages of what is still to be
gathered from the records that the store holds at this moment.

To ask for a row takes the first one of the supply, or finds out that there is none
(`RowSource.poll_cases`).  And the supply of a reading does not change when records are removed that
have been delivered before, for the reading is behind them (`RowSource.supply_without`).  So the
supply with which a stream begins is what it delivers, whatever happens to delivered records
meanwhile; and it consists of the selected records, each in its place (`Store.supply_of_rows`).
-/

namespace PacedPurge

/-- What a stream still has to deliver: rows, and then its end or an error. -/
structure Supply where
  rows : List Row
  fault : Option StoreError

namespace Supply

/-- The rows of candidates that come behind `start` others, in buckets of `size`. -/
def placed (size start : Nat) (found : List Candidate) : List Row :=
  found.mapIdx fun i c => Row.place size (start + found.length) (start + i) c

/-- The pages of what can be gathered, when `pages` have been read before.  A page that something
stops before it is full is lost. -/
def paged (size pages : Nat) (gathered : List Candidate × Option StoreError) : Supply :=
  match gathered with
  | (found, none) => ⟨placed size (pages * size) found, none⟩
  | (found, some fault) =>
    ⟨(placed size (pages * size) found).take (found.length / size * size), some fault⟩

/-- What deliveries that are known come to, up to the first error. -/
def known : List Arrival → Supply
  | [] => ⟨[], none⟩
  | ⟨_, .error e⟩ :: _ => ⟨[], some e⟩
  | ⟨_, .ok row⟩ :: rest => ⟨row :: (known rest).rows, (known rest).fault⟩

theorem length_placed (size start : Nat) (found : List Candidate) :
    (placed size start found).length = found.length :=
  List.length_mapIdx

theorem map_id_placed (size start : Nat) (found : List Candidate) :
    (placed size start found).map (·.id) = found.map (·.2) := by
  refine List.ext_getElem ?_ fun i _ _ => ?_
  · rw [List.length_map, List.length_map, length_placed]
  · simp only [placed, List.getElem_map, List.getElem_mapIdx, Row.place]

theorem placed_zero (size : Nat) (found : List Candidate) :
    placed size 0 found = Row.placeAll size found := by
  simp only [placed, Row.placeAll, Nat.zero_add]

theorem fault_paged (size pages : Nat) (gathered : List Candidate × Option StoreError) :
    (paged size pages gathered).fault = gathered.2 := by
  obtain ⟨found, _ | fault⟩ := gathered <;> rfl

theorem known_ofRows (rows : List Row) : known (Arrivals.ofRows rows).rest = ⟨rows, none⟩ := by
  induction rows with
  | nil => rfl
  | cons row rest ih =>
    simp only [Arrivals.ofRows, List.map_cons, known] at ih ⊢
    rw [ih]

/-- The rows of candidates are delivered in their order, and all of them unless an error comes. -/
structure Delivers (size : Nat) (found : List Candidate) (s : Supply) : Prop where
  front : s.rows <+: Row.placeAll size found
  whole : s.fault = none → s.rows = Row.placeAll size found

theorem delivers_paged (size : Nat) (gathered : List Candidate × Option StoreError) :
    Delivers size gathered.1 (paged size 0 gathered) := by
  obtain ⟨found, fault⟩ := gathered
  have start : placed size (0 * size) found = Row.placeAll size found := by
    rw [Nat.zero_mul, placed_zero]
  cases fault with
  | none => exact ⟨by simp only [paged, start]; exact List.prefix_refl _, fun _ => start⟩
  | some fault =>
    refine ⟨?_, fun hnone => by cases hnone⟩
    simp only [paged, start]
    exact List.take_prefix _ _

/-! ## Pages -/

/-- The rows of one page are placed as all candidates together would be. -/
theorem rows_page (size count : Nat) {pages : Nat} {found : List Candidate} {last : Option Key}
    {exhausted : Bool} (room : found.length = min size (count - pages * size)) :
    KeyedStore.Page.rows ⟨found, last, exhausted⟩ (pages + 1) =
      found.mapIdx fun i c => Row.place size count (pages * size + i) c := by
  refine List.ext_getElem ?_ fun i hi _ => ?_
  · simp only [KeyedStore.Page.rows, List.length_mapIdx]
  · simp only [KeyedStore.Page.rows, List.length_mapIdx] at hi
    have within : i < size := by omega
    simp only [KeyedStore.Page.rows, List.getElem_mapIdx]
    rw [Assembly.place_eq within, ← room]

theorem map_id_rows (page : KeyedStore.Page) (number : Nat) :
    (page.rows number).map (·.id) = page.found.map (·.2) := by
  refine List.ext_getElem ?_ fun i _ _ => ?_
  · simp only [KeyedStore.Page.rows, List.length_map, List.length_mapIdx]
  · simp only [KeyedStore.Page.rows, List.getElem_map, List.getElem_mapIdx]

/-- Behind full pages, a page is placed as if its candidates were the last ones. -/
theorem placeAll_append_page {size pages : Nat} {found more : List Candidate} (last : Option Key)
    (exhausted : Bool) (full : found.length = pages * size) (room : more.length ≤ size) :
    Row.placeAll size (found ++ more) =
      Row.placeAll size found ++ KeyedStore.Page.rows ⟨more, last, exhausted⟩ (pages + 1) := by
  have count : (found ++ more).length = pages * size + more.length := by
    rw [List.length_append, full]
  rw [rows_page size (pages * size + more.length) (by omega)]
  simp only [Row.placeAll, List.mapIdx_append, count, full]
  congr 1
  · refine List.ext_getElem (by simp only [List.length_mapIdx]) fun i hi _ => ?_
    simp only [List.length_mapIdx, full] at hi
    have positive : 0 < size := Nat.pos_of_mul_pos_left (Nat.zero_lt_of_lt hi)
    simp only [List.getElem_mapIdx, Row.place_eq positive]
    -- The bucket of an earlier candidate is full, whether or not more candidates come.
    have before : i / size + 1 ≤ pages := Nat.div_lt_of_lt_mul (by rwa [Nat.mul_comm])
    have whole : (i / size + 1) * size ≤ pages * size := Nat.mul_le_mul_right size before
    have next : (i / size + 1) * size = i / size * size + size := Nat.succ_mul _ _
    have enough : size ≤ pages * size - i / size * size := by omega
    have enough' : size ≤ pages * size + more.length - i / size * size := by omega
    rw [Nat.min_eq_left enough, Nat.min_eq_left enough']
  · refine List.ext_getElem (by simp only [List.length_mapIdx]) fun i _ _ => ?_
    simp only [List.getElem_mapIdx, Nat.add_comm i]

/-- A page that is not full is the last one. -/
theorem paged_ended {size pages : Nat} {found : List Candidate} (last : Option Key)
    (exhausted : Bool) (short : found.length < size) :
    paged size pages (found, none) =
      ⟨KeyedStore.Page.rows ⟨found, last, exhausted⟩ (pages + 1), none⟩ := by
  rw [rows_page size (pages * size + found.length) (by omega)]
  rfl

/-- A gathering that is stopped before the page is full brings nothing. -/
theorem paged_stopped {size pages : Nat} {gathered : List Candidate × Option StoreError}
    {fault : StoreError} (short : gathered.1.length < size) (stop : gathered.2 = some fault) :
    paged size pages gathered = ⟨[], some fault⟩ := by
  obtain ⟨found, _⟩ := gathered
  obtain rfl := stop
  simp only [paged, Nat.div_eq_of_lt short, Nat.zero_mul, List.take_zero]

/-- A full page comes before those of the rest. -/
theorem paged_filled {size pages : Nat} {found : List Candidate} (last : Option Key)
    (exhausted : Bool) (full : found.length = size) (positive : 0 < size)
    (rest : List Candidate × Option StoreError) :
    paged size pages (found ++ rest.1, rest.2) =
      ⟨KeyedStore.Page.rows ⟨found, last, exhausted⟩ (pages + 1) ++
          (paged size (pages + 1) rest).rows,
        (paged size (pages + 1) rest).fault⟩ := by
  obtain ⟨more, fault⟩ := rest
  have next : pages * size + found.length = (pages + 1) * size := by
    rw [full, Nat.succ_mul]
  have whole : placed size (pages * size) (found ++ more) =
      KeyedStore.Page.rows ⟨found, last, exhausted⟩ (pages + 1) ++
        placed size ((pages + 1) * size) more := by
    rw [rows_page size (pages * size + (found ++ more).length)
      (by rw [List.length_append]; omega)]
    simp only [placed, List.mapIdx_append, List.length_append]
    refine congrArg _ (List.ext_getElem (by simp) fun i _ _ => ?_)
    have count : pages * size + (found.length + more.length) =
        (pages + 1) * size + more.length := by
      omega
    have index : pages * size + (i + found.length) = (pages + 1) * size + i := by omega
    simp only [List.getElem_mapIdx, count, index]
  cases fault with
  | none => simp only [paged, whole]
  | some fault =>
    have count : (found ++ more).length / size * size =
        found.length + more.length / size * size := by
      rw [List.length_append, full, Nat.add_div_left _ positive, Nat.succ_mul, Nat.add_comm]
    have page : (KeyedStore.Page.rows ⟨found, last, exhausted⟩ (pages + 1)).length =
        found.length := List.length_mapIdx
    simp only [paged, whole, count]
    rw [← page, List.take_length_add_append]

end Supply

/-! ## Streams -/

/-- The entries that the next page of a reading goes through, or what keeps it from going. -/
def Holdings.reading (h : Holdings) (scan : KeyedStore.KeyScan) :
    Except StoreError (List (Key × String)) :=
  match h with
  | .collections _ => .error (.unsupported "pages")
  | .partitions p =>
    match KeyedStore.openName scan.ns with
    | .error e => .error e
    | .ok name =>
      if KeyedStore.maxPageSize < scan.pageSize then .error KeyedStore.workFailed
      else .ok (KeyedStore.entriesAfter ((p[name]?).getD ∅) scan.cursor)

/-- The pages that are still to be read. -/
def Holdings.pagesAhead (h : Holdings) (scan : KeyedStore.KeyScan) : Supply :=
  if scan.done then ⟨[], none⟩
  else
    match h.reading scan with
    | .error e => ⟨[], some e⟩
    | .ok entries =>
      .paged scan.pageSize scan.pages (scan.selection.gather (KeyedStore.stored entries))

/-- A reading that goes through entries goes through those of one partition, wherever it stands. -/
theorem Holdings.partition_of_reading {h : Holdings} {scan : KeyedStore.KeyScan}
    {entries : List (Key × String)} (hreading : h.reading scan = .ok entries) :
    ∃ part : Partition, entries = KeyedStore.entriesAfter part scan.cursor ∧
      ∀ other : KeyedStore.KeyScan, other.ns = scan.ns → other.pageSize = scan.pageSize →
        h.reading other = .ok (KeyedStore.entriesAfter part other.cursor) := by
  cases h with
  | collections c => cases hreading
  | partitions p =>
    cases hname : KeyedStore.openName scan.ns with
    | error e => simp [reading, hname] at hreading
    | ok name =>
      simp only [reading, hname] at hreading
      split at hreading
      · cases hreading
      · next hsize =>
        refine ⟨(p[name]?).getD ∅, (Except.ok.inj hreading).symm, fun other hns hpage => ?_⟩
        simp only [reading, hns, hname, hpage, if_neg hsize]

namespace RowSource

/-- The supply of a stream, by what the store holds. -/
def supply (h : Holdings) : RowSource → Supply
  | .known arrivals => .known arrivals.rest
  | .paged scan buffered => ⟨buffered ++ (h.pagesAhead scan).rows, (h.pagesAhead scan).fault⟩

/-- Whether pages have room for a row. -/
def HasRoom : RowSource → Prop
  | .known _ => True
  | .paged scan _ => 0 < scan.pageSize

/-- Whether the reading has passed the records, and those of the page at hand. -/
def Behind (gone : List RecordId) : RowSource → Prop
  | .known _ => True
  | .paged scan buffered =>
    scan.done = false → ∀ id, id ∈ gone ∨ id ∈ buffered.map (·.id) →
      KeyedStore.isAfter scan.cursor (KeyedStore.keyOf id) = false

theorem Behind.subset {s : RowSource} {gone fewer : List RecordId} (h : s.Behind gone)
    (hsub : ∀ id ∈ fewer, id ∈ gone) : s.Behind fewer := by
  cases s with
  | known arrivals => trivial
  | paged scan buffered => exact fun hdone id hid => h hdone id (hid.imp_left (hsub id))

end RowSource

/-- What a page answers, by what the store holds. -/
theorem Store.answer_page (s : Store) (scan : KeyedStore.KeyScan) :
    (s.leave (.page scan)).1 =
      match s.holdings.reading scan with
      | .error e => .error e
      | .ok entries => KeyedStore.readPage scan.selection scan.pageSize none entries := by
  cases s with
  | memory m => rfl
  | keyed k =>
    simp only [leave, KeyedStore.leave, KeyedStore.perform, KeyedStore.page, holdings,
      Holdings.reading]
    cases KeyedStore.openName scan.ns with
    | error e => rfl
    | ok name =>
      simp only
      split
      · rfl
      · rfl

namespace RowSource

/-! ## Asking for a row -/

/-- **What asking for a row can come to.**  There is nothing before some time; or the first row of
the supply comes, and the stream is behind it; or there are no more rows. -/
inductive PollStep (h : Holdings) (s : RowSource) : Polled Delivery → RowSource → Prop where
  | later {time : Nat} {after : RowSource} (same : after.supply h = s.supply h)
      (behind : ∀ gone, s.Behind gone → after.Behind gone) (room : after.HasRoom) :
      PollStep h s (.later time) after
  | row {row : Row} {after : RowSource}
      (next : s.supply h = ⟨row :: (after.supply h).rows, (after.supply h).fault⟩)
      (behind : ∀ gone, s.Behind gone → after.Behind (row.id :: gone)) (room : after.HasRoom) :
      PollStep h s (.ready (.ok row)) after
  | fault {e : StoreError} {after : RowSource} (stop : s.supply h = ⟨[], some e⟩) :
      PollStep h s (.ready (.error e)) after
  | ended {after : RowSource} (stop : s.supply h = ⟨[], none⟩) : PollStep h s .ended after

/-- What the next delivery of known ones comes to. -/
theorem take_cases (h : Holdings) (arrivals : Arrivals) :
    PollStep h (.known arrivals) arrivals.take.1 (.known arrivals.take.2) := by
  obtain ⟨rest, asked⟩ := arrivals
  cases rest with
  | nil => exact .ended rfl
  | cons a rest =>
    obtain ⟨delay, content⟩ := a
    cases content with
    | error e => exact .fault rfl
    | ok row => exact .row rfl (fun _ _ => trivial) trivial

/-- What a page that has been read comes to. -/
theorem takePage_cases {h : Holdings} {scan : KeyedStore.KeyScan} {part : Partition}
    (more : scan.done = false) (room : 0 < scan.pageSize)
    (hreading : ∀ other : KeyedStore.KeyScan, other.ns = scan.ns →
      other.pageSize = scan.pageSize →
      h.reading other = .ok (KeyedStore.entriesAfter part other.cursor))
    {answer : Except StoreError KeyedStore.Page}
    (hread : KeyedStore.PageRead scan.selection scan.pageSize
      (KeyedStore.entriesAfter part scan.cursor) answer) :
    PollStep h (.paged scan []) (takePage scan answer).1 (takePage scan answer).2 := by
  have ahead : supply h (.paged scan []) = .paged scan.pageSize scan.pages
      (scan.selection.gather (KeyedStore.stored (KeyedStore.entriesAfter part scan.cursor))) := by
    simp only [supply, Holdings.pagesAhead, more, List.nil_append, hreading scan rfl rfl]
    rfl
  cases hread with
  | stopped short stop => exact .fault (ahead.trans (Supply.paged_stopped short stop))
  | @ended found last short all =>
    rw [all, Supply.paged_ended last true short] at ahead
    simp only [takePage]
    split
    · next hrows =>
      rw [hrows] at ahead
      exact .ended ahead
    · next row rest hrows =>
      rw [hrows] at ahead
      refine .row ?_ (fun gone _ hdone => by cases hdone) room
      rw [ahead]
      simp only [supply, Holdings.pagesAhead, if_true, List.append_nil]
  | @filled found front rest e full split gathered visited =>
    have behind_last : KeyedStore.entriesAfter part (some e.1) = rest :=
      KeyedStore.entriesAfter_rest split
    rw [gathered, Supply.paged_filled (some e.1) false full room] at ahead
    have next_page : h.pagesAhead { scan with
        cursor := some e.1, pages := scan.pages + 1, done := false } =
        .paged scan.pageSize (scan.pages + 1) (scan.selection.gather (KeyedStore.stored rest)) := by
      simp only [Holdings.pagesAhead, hreading { scan with
        cursor := some e.1, pages := scan.pages + 1, done := false } rfl rfl, behind_last]
      rfl
    simp only [takePage]
    split
    · next hrows =>
      have length : found.length = 0 := by
        have := congrArg List.length hrows
        simpa only [KeyedStore.Page.rows, List.length_mapIdx, List.length_nil] using this
      omega
    · next row buffered hrows =>
      rw [hrows] at ahead
      refine .row ?_ ?_ room
      · rw [ahead]
        simp only [supply, next_page, List.cons_append]
      · intro gone hbehind _ id hid
        have ids := Supply.map_id_rows ⟨found, some e.1, false⟩ (scan.pages + 1)
        rw [hrows, List.map_cons] at ids
        have taken : id ∈ gone ∨ id ∈ found.map (·.2) := by
          rw [← ids, List.mem_cons]
          obtain hcons | hbuffered := hid
          · obtain hrow | hgone := List.mem_cons.mp hcons
            · exact .inr (.inl hrow)
            · exact .inl hgone
          · exact .inr (.inr hbuffered)
        obtain hgone | hfound := taken
        · have passed := hbehind more id (.inl hgone)
          rw [Bool.eq_false_iff] at passed ⊢
          exact fun hafter => passed (KeyedStore.isAfter_of_last split hafter)
        · obtain ⟨c, hc, rfl⟩ := List.mem_map.mp hfound
          obtain ⟨e', he', hkey⟩ := visited c hc
          rw [← hkey]
          exact KeyedStore.isAfter_visited split he'

/-- **Asking for a row.**  It comes to one of the four cases, and leaves the records as they are. -/
theorem poll_cases (s : RowSource) (room : s.HasRoom) (site : Site) :
    PollStep site.store.holdings s (s.poll site).1 (s.poll site).2.1 ∧
      (s.poll site).2.2.store.holdings = site.store.holdings := by
  cases s with
  | known arrivals =>
    simp only [poll]
    split
    · exact ⟨take_cases _ arrivals, rfl⟩
    · next due _ =>
      split
      · exact ⟨take_cases _ arrivals, rfl⟩
      · exact ⟨.later rfl (fun _ h => h) trivial, rfl⟩
  | paged scan buffered =>
    cases buffered with
    | cons row rest =>
      refine ⟨.row rfl (fun gone hbehind hdone id hid => ?_) room, rfl⟩
      refine hbehind hdone id ?_
      obtain hcons | hrest := hid
      · obtain rfl | hgone := List.mem_cons.mp hcons
        · exact .inr List.mem_cons_self
        · exact .inl hgone
      · exact .inr (List.mem_cons_of_mem _ hrest)
    | nil =>
      simp only [poll]
      split
      · next hdone =>
        refine ⟨.ended ?_, rfl⟩
        simp only [supply, Holdings.pagesAhead, hdone, if_true, List.append_nil]
      · next hdone =>
        have more : scan.done = false := by simpa using hdone
        have kept : (site.enter (.page scan)).2.store.holdings = site.store.holdings :=
          Store.holdings_enter site.store (.page scan)
        split
        · simp only [fetchPage, Site.answer_leave, Site.store_leave,
            Store.holdings_leave _ (.page scan) rfl]
          refine ⟨?_, kept⟩
          rw [Store.answer_page, kept]
          cases hreading : site.store.holdings.reading scan with
          | error e =>
            refine .fault ?_
            simp only [supply, Holdings.pagesAhead, more, hreading]
            rfl
          | ok entries =>
            obtain ⟨part, rfl, anywhere⟩ := Holdings.partition_of_reading hreading
            exact takePage_cases more room anywhere (KeyedStore.readPage_cases _ room none _)
        · exact ⟨.later rfl (fun _ h => h) room, rfl⟩

/-! ## Removing what has been delivered -/

/-- **Removing delivered records changes nothing** about what is still to be delivered. -/
theorem supply_without {s : RowSource} {gone : List RecordId} (hbehind : s.Behind gone)
    (h : Holdings) (ns : Namespace) {ids : List RecordId} (delivered : ∀ id ∈ ids, id ∈ gone) :
    s.supply (h.without ns ids) = s.supply h := by
  cases s with
  | known arrivals => rfl
  | paged scan buffered =>
    cases hdone : scan.done with
    | true => simp only [supply, Holdings.pagesAhead, hdone, if_true]
    | false =>
      have passed : ∀ key ∈ ids.map KeyedStore.keyOf,
          KeyedStore.isAfter scan.cursor key = false := by
        intro key hkey
        obtain ⟨id, hid, rfl⟩ := List.mem_map.mp hkey
        exact hbehind hdone id (.inl (delivered id hid))
      have same : (h.without ns ids).reading scan = h.reading scan := by
        cases h with
        | collections c => rfl
        | partitions p =>
          cases hname : KeyedStore.openName ns with
          | error e => simp only [Holdings.without, hname]
          | ok name =>
            simp only [Holdings.without, hname, Holdings.reading]
            cases KeyedStore.openName scan.ns with
            | error e => rfl
            | ok read =>
              simp only
              split
              · rfl
              · rw [Std.TreeMap.getElem?_insert]
                split
                · next heq =>
                  obtain rfl := Std.LawfulEqOrd.eq_of_compare heq
                  rw [Option.getD_some, Holdings.foldl_erase_keyOf,
                    KeyedStore.entriesAfter_erase _ fun key hkey => passed key ?_]
                  obtain ⟨id, hid, rfl⟩ := List.mem_map.mp hkey
                  exact List.mem_map_of_mem (List.mem_of_mem_filter hid)
                · rfl
      simp only [supply, Holdings.pagesAhead, same]

end RowSource

/-! ## The beginning -/

/-- The supply of a selection: its records, and all of them unless something stops their
gathering. -/
structure Supply.Answers (selection : Selection) (entries : List Entry) (size : Nat)
    (found : List Candidate) (s : Supply) : Prop extends s.Delivers size found where
  gathered : found.Perm (selection.gather entries).1
  unstopped : s.fault = none → (selection.gather entries).2 = none

/-- Records that have been found and sorted are delivered as they are. -/
theorem Supply.answers_window {selection : Selection} {entries : List Entry}
    {found : List Candidate} (h : selection.search entries = .ok found) (size : Nat) :
    (known (Arrivals.ofRows (Row.window selection.collation size found)).rest).Answers selection
      entries (max 1 size) (Row.sorted selection.collation found) := by
  have gathered := Selection.gather_of_search h
  rw [known_ofRows]
  exact ⟨⟨List.prefix_refl _, fun _ => rfl⟩,
    by rw [gathered]; exact List.mergeSort_perm _ _, fun _ => by rw [gathered]⟩

/-- Pages that are to be read from the beginning. -/
theorem Supply.answers_pagesAhead {k : KeyedStore} {ns : Namespace} {selection : Selection}
    {size : Nat} :
    ((Store.keyed k).holdings.pagesAhead { ns, selection, pageSize := size }).Answers selection
      ((Store.keyed k).holdings.entries ns) size
      (selection.gather ((Store.keyed k).holdings.entries ns)).1 := by
  have stopped : ∀ e, Answers selection ((Store.keyed k).holdings.entries ns) size
      (selection.gather ((Store.keyed k).holdings.entries ns)).1 ⟨[], some e⟩ := fun e =>
    ⟨⟨List.nil_prefix, fun hnone => by cases hnone⟩, List.Perm.refl _, fun hnone => by cases hnone⟩
  unfold Holdings.pagesAhead
  simp only [Bool.false_eq_true, if_false, Store.holdings, Holdings.reading]
  cases hname : KeyedStore.openName ns with
  | error e => exact stopped e
  | ok name =>
    simp only
    by_cases hsize : KeyedStore.maxPageSize < size
    · rw [if_pos hsize]
      exact stopped KeyedStore.workFailed
    · rw [if_neg hsize]
      have all : KeyedStore.stored (KeyedStore.entriesAfter ((k.partitions[name]?).getD ∅) none) =
          (Holdings.partitions k.partitions).entries ns := by
        simp only [Holdings.entries, hname]
        rfl
      simp only [all]
      refine ⟨delivers_paged size _, List.Perm.refl _, fun hnone => ?_⟩
      cases hstop : (selection.gather ((Holdings.partitions k.partitions).entries ns)).2 with
      | none => rfl
      | some fault =>
        have split := Prod.eta (selection.gather ((Holdings.partitions k.partitions).entries ns))
        rw [hstop] at split
        rw [← split] at hnone
        cases hnone

/-- **What a stream of rows delivers.**  It begins with the supply of the selection that the query
makes. -/
theorem Store.supply_of_rows {s : Store} {ns : Namespace} {query : Query} {rows : RowSource}
    (h : (s.leave (.rows ns query)).1 = .ok rows) :
    rows.HasRoom ∧ rows.Behind [] ∧ ∃ c found, Collation.parse query.collation = .ok c ∧
      (rows.supply s.holdings).Answers ⟨query.filter, c⟩ (s.holdings.entries ns)
        (max 1 query.bucketSize) found := by
  cases hc : Collation.parse query.collation with
  | error e =>
    cases s with
    | memory m => simp [leave, MemoryStore.leave, MemoryStore.rows, hc, Except.map] at h
    | keyed k =>
      simp [leave, KeyedStore.leave, KeyedStore.perform, KeyedStore.rows, KeyedStore.openQuery,
        hc] at h
  | ok c =>
    cases s with
    | memory m =>
      simp only [leave, MemoryStore.leave, MemoryStore.rows, hc] at h
      rw [MemoryStore.candidates_eq] at h
      cases hfound : Selection.search ⟨query.filter, c⟩ ((memory m).holdings.entries ns) with
      | error e => simp [hfound, Except.map] at h
      | ok found =>
        simp only [hfound, Except.map, Except.ok.injEq] at h
        subst h
        exact ⟨trivial, trivial, c, _, rfl, Supply.answers_window hfound query.bucketSize⟩
    | keyed k =>
      simp only [leave, KeyedStore.leave, KeyedStore.perform, KeyedStore.rows,
        KeyedStore.openQuery, hc] at h
      cases hname : KeyedStore.partitionName ns with
      | error e => simp [hname] at h
      | ok name =>
        simp only [hname] at h
        split at h
        · simp only [Except.ok.injEq] at h
          subst h
          have room : 0 < max 1 query.bucketSize := by omega
          refine ⟨room, fun _ id hid => by simp at hid, c,
            (Selection.gather ⟨query.filter, c⟩ ((keyed k).holdings.entries ns)).1, rfl, ?_⟩
          simp only [RowSource.supply, List.nil_append]
          exact Supply.answers_pagesAhead
        · cases hopen : KeyedStore.openName ns with
          | error e => simp [KeyedStore.candidates, hopen] at h
          | ok name =>
            rw [KeyedStore.candidates_of_openName hopen] at h
            cases hfound : Selection.search ⟨query.filter, c⟩ ((keyed k).holdings.entries ns) with
            | error e => simp [hfound] at h
            | ok found =>
              simp only [hfound, Except.ok.injEq] at h
              subst h
              exact ⟨trivial, trivial, c, _, rfl, Supply.answers_window hfound query.bucketSize⟩

end PacedPurge
