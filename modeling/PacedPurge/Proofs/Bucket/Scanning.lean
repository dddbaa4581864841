import Mathlib
import PacedPurge.Proofs.Bucket.Agreement
import PacedPurge.Proofs.Bucket.Draining
import PacedPurge.Proofs.Bucket.Interleaving

/-!
# Reading while others write

A keyed store is read page by page while other clients write to it.  What a reading has found so far
stands in the order of ids, makes full pages, and lies at its cursor or before it
(`KeyedStore.KeyScan.Found`).  The next page is read from whatever the partition has become
meanwhile, but only behind the cursor, and so it keeps all of this up
(`KeyedStore.KeyScan.Found.page`).

A record that is in the collection at each reading is not left out: its key is still awaited, or
it has been found (`Scanning.Accounts`).  When the reading has ended it awaits nothing, so it has
delivered all such records, each once and in its place (`KeyedStore.scan_under_writes`).
-/

namespace PacedPurge

/-- Some entry holds the record, and it is selected. -/
def Selection.Picks (s : Selection) (entries : List Entry) (id : RecordId) : Prop :=
  ∃ e ∈ entries, e.id? = some id ∧ e.isSelected s

namespace Store

/-- The filter makes sense for all records of the collection, which decode. -/
def IsReadable (s : Store) (ns : Namespace) (selection : Selection) : Prop :=
  ∀ e ∈ s.holdings.entries ns, e.IsReadable selection

/-- The record is in the collection and is selected. -/
def Offers (s : Store) (ns : Namespace) (selection : Selection) (id : RecordId) : Prop :=
  selection.Picks (s.holdings.entries ns) id

end Store

namespace KeyedStore

variable {p : Partition} {s : Selection} {cursor : Option Key}

/-! ## Records behind a cursor -/

/-- Entries are gathered in the order of ids. -/
theorem ascending_gather (s : Selection) {entries : List (Key × String)}
    (ordered : entries.Pairwise fun a b => compare a.1 b.1 = .lt) :
    RecordId.Ascending ((s.gather (stored entries)).1.map (·.2)) := by
  have ids : RecordId.Ascending ((stored entries).filterMap Entry.id?) := by
    simp only [stored, List.filterMap_map]
    refine ordered.filterMap _ fun e e' hlt id hid id' hid' => ?_
    rw [(id?_stored_eq_some_iff e.1 e.2 id).mp hid, (id?_stored_eq_some_iff e'.1 e'.2 id').mp hid',
      compare_keyOf] at hlt
    exact hlt
  exact ids.sublist (s.sublist_gather _)

/-- What is gathered behind a cursor is behind the cursor. -/
theorem isAfter_of_mem_gather {c : Candidate}
    (hc : c ∈ (s.gather (stored (entriesAfter p cursor))).1) : isAfter cursor (keyOf c.2) := by
  obtain ⟨e, he, hid, -⟩ := Selection.mem_gather hc
  obtain ⟨⟨key, text⟩, hmem, rfl⟩ := List.mem_map.mp he
  rw [entriesAfter_eq_filter] at hmem
  obtain rfl := (id?_stored_eq_some_iff key text c.2).mp hid
  exact (List.mem_filter.mp hmem).2

/-- What can be read of a partition can be read behind a cursor. -/
theorem readable_entriesAfter (readable : ∀ e ∈ stored p.toList, e.IsReadable s) :
    ∀ e ∈ stored (entriesAfter p cursor), e.IsReadable s := by
  intro e he
  obtain ⟨e', he', rfl⟩ := List.mem_map.mp he
  rw [entriesAfter_eq_filter] at he'
  exact readable _ (List.mem_map_of_mem (List.mem_of_mem_filter he'))

/-- A selected record behind the cursor is gathered. -/
theorem mem_gather_of_isAfter (readable : ∀ e ∈ stored p.toList, e.IsReadable s) {id : RecordId}
    (picked : s.Picks (stored p.toList) id) (behind : isAfter cursor (keyOf id)) :
    id ∈ (s.gather (stored (entriesAfter p cursor))).1.map (·.2) := by
  obtain ⟨e, he, hid, selected⟩ := picked
  have whole : (s.gather (stored (entriesAfter p cursor))).2 = none :=
    Selection.gather_of_isReadable (readable_entriesAfter readable)
  refine Selection.mem_gather_of_isSelected whole ?_ selected hid
  obtain ⟨⟨key, text⟩, hmem, rfl⟩ := List.mem_map.mp he
  obtain rfl := (id?_stored_eq_some_iff key text id).mp hid
  rw [entriesAfter_eq_filter]
  exact List.mem_map_of_mem (List.mem_filter.mpr ⟨hmem, behind⟩)

/-- What has been passed comes before what is behind. -/
theorem compare_of_passed {id id' : RecordId} (passed : isAfter cursor (keyOf id) = false)
    (behind : isAfter cursor (keyOf id') = true) : compare id id' = .lt := by
  cases cursor with
  | none => cases passed
  | some last =>
    rw [← compare_keyOf]
    have first : (compare (keyOf id) last).isLE := by
      simpa only [isAfter, ← Ordering.not_isLE_eq_isGT, Bool.not_eq_false'] using passed
    have second : compare last (keyOf id') = .lt := by
      refine Std.OrientedCmp.lt_of_gt ?_
      simpa only [isAfter, Ordering.isGT_iff_eq_gt] using behind
    exact Std.TransCmp.lt_of_isLE_of_lt first second

/-! ## The next page -/

/-- What a reading has found by now: full pages of records that go up, up to its cursor. -/
structure KeyScan.Found (scan : KeyScan) (found : List Candidate) : Prop where
  ascending : RecordId.Ascending (found.map (·.2))
  full : scan.done = false → found.length = scan.pages * scan.pageSize
  passed : scan.done = false → ∀ c ∈ found, isAfter scan.cursor (keyOf c.2) = false

/-- A reading behind a page. -/
def KeyScan.behind (scan : KeyScan) (page : Page) : KeyScan :=
  { scan with cursor := page.last, pages := scan.pages + 1, done := page.exhausted }

variable {scan : KeyScan} {found more : List Candidate}

/-- What is found behind the cursor goes on upwards. -/
theorem KeyScan.Found.ascending_append (h : scan.Found found) (goesOn : scan.done = false)
    (up : RecordId.Ascending (more.map (·.2)))
    (behind : ∀ c ∈ more, isAfter scan.cursor (keyOf c.2)) :
    RecordId.Ascending ((found ++ more).map (·.2)) := by
  rw [List.map_append]
  refine List.pairwise_append.mpr ⟨h.ascending, up, fun id hid id' hid' => ?_⟩
  obtain ⟨c, hc, rfl⟩ := List.mem_map.mp hid
  obtain ⟨c', hc', rfl⟩ := List.mem_map.mp hid'
  exact compare_of_passed (h.passed goesOn c hc) (behind c' hc')

/-- **The next page** of readable entries, whatever the partition has become. -/
theorem KeyScan.Found.page (h : scan.Found found) (goesOn : scan.done = false)
    (readable : ∀ e ∈ stored p.toList, e.IsReadable scan.selection)
    {answer : Except StoreError Page}
    (read : PageRead scan.selection scan.pageSize (entriesAfter p scan.cursor) answer) :
    ∃ page, answer = .ok page ∧ (scan.behind page).Found (found ++ page.found) ∧
      page.found.length ≤ scan.pageSize ∧
      (page.exhausted = false → page.found.length = scan.pageSize) ∧
      ∀ id, scan.selection.Picks (stored p.toList) id → isAfter scan.cursor (keyOf id) →
        id ∈ page.found.map (·.2) ∨ page.exhausted = false ∧ isAfter page.last (keyOf id) := by
  have whole : (scan.selection.gather (stored (entriesAfter p scan.cursor))).2 = none :=
    Selection.gather_of_isReadable (readable_entriesAfter readable)
  have up := ascending_gather scan.selection (ordered_entriesAfter p scan.cursor)
  have behind : ∀ c ∈ (scan.selection.gather (stored (entriesAfter p scan.cursor))).1,
      isAfter scan.cursor (keyOf c.2) := fun c hc => isAfter_of_mem_gather hc
  have gathered : ∀ id, scan.selection.Picks (stored p.toList) id →
      isAfter scan.cursor (keyOf id) →
      id ∈ (scan.selection.gather (stored (entriesAfter p scan.cursor))).1.map (·.2) :=
    fun id picked hafter => mem_gather_of_isAfter readable picked hafter
  cases read with
  | stopped short stop =>
    rw [whole] at stop
    cases stop
  | @ended more last short all =>
    rw [all] at up behind gathered
    have done : (scan.behind ⟨more, last, true⟩).Found (found ++ more) :=
      ⟨h.ascending_append goesOn up behind, Bool.noConfusion, Bool.noConfusion⟩
    exact ⟨_, rfl, done, Nat.le_of_lt short, Bool.noConfusion,
      fun id picked hafter => .inl (gathered id picked hafter)⟩
  | @filled more front rest e full split all visited =>
    rw [all] at up behind gathered
    have up' : RecordId.Ascending (more.map (·.2)) :=
      up.sublist ((List.sublist_append_left _ _).map _)
    have behind' : ∀ c ∈ more, isAfter scan.cursor (keyOf c.2) :=
      fun c hc => behind c (List.mem_append_left _ hc)
    have next : (scan.behind ⟨more, some e.1, false⟩).Found (found ++ more) := by
      refine ⟨h.ascending_append goesOn up' behind', fun _ => ?_, fun _ c hc => ?_⟩
      · rw [List.length_append, h.full goesOn, full]
        exact (Nat.succ_mul _ _).symm
      · obtain before | here := List.mem_append.mp hc
        · have passed := h.passed goesOn c before
          rw [Bool.eq_false_iff] at passed ⊢
          exact fun hafter => passed (isAfter_of_last split hafter)
        · obtain ⟨e', he', hkey⟩ := visited c here
          rw [← hkey]
          exact isAfter_visited split he'
    refine ⟨_, rfl, next, Nat.le_of_eq full, fun _ => full, fun id picked hafter => ?_⟩
    have found_or_later := gathered id picked hafter
    rw [List.map_append, List.mem_append] at found_or_later
    refine found_or_later.imp_right fun later => ⟨rfl, ?_⟩
    obtain ⟨c, hc, rfl⟩ := List.mem_map.mp later
    rw [← entriesAfter_rest split] at hc
    exact isAfter_of_mem_gather hc

end KeyedStore

/-- Pages have room for a row and can be set aside, and they are those of a partition. -/
structure KeyedStore.KeyScan.Usable (scan : KeyedStore.KeyScan) (name : String) : Prop where
  positive : 0 < scan.pageSize
  fits : scan.pageSize ≤ KeyedStore.maxPageSize
  opens : KeyedStore.openName scan.ns = .ok name

/-! ## Readings -/

/-- How far a reading has come. -/
structure Scanning where
  scan : KeyedStore.KeyScan
  /-- The rows of its last page that have not been asked for. -/
  buffered : List Row
  /-- All candidates that it has found. -/
  found : List Candidate
  /-- The rows that it has delivered. -/
  taken : List Row

namespace Scanning

/-- The stream of rows that a reading is. -/
def stream (r : Scanning) : RowSource := .paged r.scan r.buffered

/-- The reading is asked again and again, with writes before each time. -/
def asks (r : Scanning) (site : Site) (writes : List (List Write)) : List Ask :=
  r.stream.asksAfter (r.taken.map .ok) site writes

/-- A reading that began at `start` has found what it should, and places all of it. -/
structure Sound (start : KeyedStore.KeyScan) (r : Scanning) : Prop where
  found : r.scan.Found r.found
  rows : r.taken ++ r.buffered = Row.placeAll start.pageSize r.found
  ns : r.scan.ns = start.ns
  selection : r.scan.selection = start.selection
  pageSize : r.scan.pageSize = start.pageSize

/-- Nothing is left to be read or to be delivered. -/
def HasEnded (r : Scanning) : Prop := r.scan.done = true ∧ r.buffered = []

/-- The key of the record is awaited still, or the record has been found. -/
def Accounts (r : Scanning) (name : String) (id : RecordId) : Prop :=
  r.stream.Awaits name (KeyedStore.keyOf id) ∨ id ∈ r.found.map (·.2)

/-- What holds of a later reading, if the collection has offered some records all the while. -/
structure Advance (start : KeyedStore.KeyScan) (name : String) (offered : RecordId → Prop)
    (r r' : Scanning) : Prop where
  sound : r'.Sound start
  hasEnded : r.HasEnded → r'.HasEnded
  accounts : ∀ id, offered id → r.Accounts name id → r'.Accounts name id

variable {start : KeyedStore.KeyScan} {name : String} {offered : RecordId → Prop}
  {r r' r'' : Scanning} {site : Site} {k : KeyedStore}

theorem Sound.hasRoom (h : r.Sound start) (usable : start.Usable name) : r.stream.HasRoom :=
  Nat.lt_of_lt_of_eq usable.positive h.pageSize.symm

theorem Sound.advance (h : r.Sound start) : Advance start name offered r r :=
  ⟨h, fun finished => finished, fun _ _ accounts => accounts⟩

theorem Advance.trans {now later : RecordId → Prop} (first : Advance start name now r r')
    (second : Advance start name later r' r'') (both : ∀ id, offered id → now id ∧ later id) :
    Advance start name offered r r'' :=
  ⟨second.sound, fun finished => second.hasEnded (first.hasEnded finished),
    fun id hid accounts =>
      second.accounts id (both id hid).2 (first.accounts id (both id hid).1 accounts)⟩

/-- A row that is at hand is delivered. -/
theorem Sound.advance_row {row : Row} {rest : List Row} (h : r.Sound start)
    (hrow : r.buffered = row :: rest) :
    Advance start name offered r { r with buffered := rest, taken := r.taken ++ [row] } := by
  refine ⟨⟨h.found, ?_, h.ns, h.selection, h.pageSize⟩, fun finished => ?_,
    fun _ _ accounts => accounts⟩
  · rw [← h.rows, hrow, List.append_assoc]
    rfl
  · have none_left := finished.2
    rw [hrow] at none_left
    cases none_left

/-- A page is read, and its first row is delivered if it has one. -/
theorem Sound.takePage (h : r.Sound start) (goesOn : r.scan.done = false)
    (none_left : r.buffered = []) (room : 0 < start.pageSize) {p : Partition}
    (readable : ∀ e ∈ KeyedStore.stored p.toList, e.IsReadable start.selection)
    {answer : Except StoreError KeyedStore.Page}
    (read : KeyedStore.PageRead start.selection start.pageSize
      (KeyedStore.entriesAfter p r.scan.cursor) answer) :
    ∃ r', (RowSource.takePage r.scan answer).2 = r'.stream ∧
      r'.taken.map .ok = r.taken.map .ok ++
        (RowSource.takePage r.scan answer).1.delivery?.toList ∧
      ((RowSource.takePage r.scan answer).1 = .ended → r'.HasEnded) ∧
      Advance start name (start.selection.Picks (KeyedStore.stored p.toList)) r r' := by
  rw [← h.selection, ← h.pageSize] at read
  rw [← h.selection] at readable ⊢
  obtain ⟨page, rfl, found, fits, whole, visits⟩ := h.found.page goesOn readable read
  have unfinished : ¬r.HasEnded := fun finished => Bool.noConfusion (goesOn.symm.trans finished.1)
  have placed := Supply.placeAll_append_page page.last page.exhausted (h.found.full goesOn) fits
  rw [h.pageSize, ← h.rows, none_left, List.append_nil] at placed
  simp only [RowSource.takePage]
  split
  · next hrows =>
    have empty : page.found = [] := by
      have length := congrArg List.length hrows
      simpa only [KeyedStore.Page.rows, List.length_mapIdx, List.length_nil,
        List.length_eq_zero_iff] using length
    have exhausted : page.exhausted = true := by
      refine Bool.of_not_eq_false fun goesOn' => ?_
      have full := whole goesOn'
      rw [empty, h.pageSize, List.length_nil] at full
      omega
    refine ⟨{ r with scan := { r.scan with cursor := page.last, done := true } }, ?_, ?_,
      fun _ => ⟨rfl, none_left⟩, ⟨⟨h.found.ascending, Bool.noConfusion, Bool.noConfusion⟩, h.rows,
        h.ns, h.selection, h.pageSize⟩, fun finished => absurd finished unfinished,
        fun id offered here => ?_⟩
    · rw [stream, none_left]
    · exact (List.append_nil _).symm
    · refine .inr (here.elim (fun awaited => ?_) fun before => before)
      obtain visited | ⟨goesOn', -⟩ := visits id offered awaited.2.2
      · rw [empty] at visited
        cases visited
      · rw [exhausted] at goesOn'
        cases goesOn'
  · next row rest hrows =>
    rw [hrows] at placed
    refine ⟨⟨r.scan.behind page, rest, r.found ++ page.found, r.taken ++ [row]⟩, rfl, ?_,
      fun hended => (by cases hended), ⟨found, ?_, h.ns, h.selection, h.pageSize⟩,
      fun finished => absurd finished unfinished, fun id offered here => ?_⟩
    · rw [List.map_append]
      rfl
    · rw [placed, List.append_assoc]
      rfl
    · unfold Accounts
      rw [List.map_append, List.mem_append]
      obtain ⟨-, opened, ahead⟩ | before := here
      · obtain visited | ⟨goesOn', later⟩ := visits id offered ahead
        · exact .inr (.inr visited)
        · exact .inl ⟨goesOn', opened, later⟩
      · exact .inr (.inl before)

/-- **Asking a reading for a row** while the records of the collection are readable. -/
theorem Sound.poll (h : r.Sound start) (hk : site.store = .keyed k) (usable : start.Usable name)
    (readable : site.store.IsReadable start.ns start.selection) :
    ∃ r', (r.stream.poll site).2.1 = r'.stream ∧
      r'.taken.map .ok = r.taken.map .ok ++ (r.stream.poll site).1.delivery?.toList ∧
      ((r.stream.poll site).1 = .ended → r'.HasEnded) ∧
      Advance start name (site.store.Offers start.ns start.selection) r r' := by
  have waits : r.taken.map Except.ok = r.taken.map .ok ++ ([] : List Delivery) :=
    (List.append_nil _).symm
  unfold stream
  cases hbuffered : r.buffered with
  | cons row rest =>
    refine ⟨_, rfl, ?_, fun hended => (by cases hended), h.advance_row hbuffered⟩
    rw [List.map_append]
    rfl
  | nil =>
    cases hdone : r.scan.done with
    | true =>
      rw [RowSource.poll_of_done hdone]
      exact ⟨r, by rw [hbuffered], waits, fun _ => ⟨hdone, hbuffered⟩, h.advance⟩
    | false =>
      cases free : site.store.admitsPages with
      | false =>
        rw [RowSource.poll_of_no_ticket hdone free]
        exact ⟨r, by rw [hbuffered], waits, fun hended => (by cases hended), h.advance⟩
      | true =>
        have prompt : RowSource.Prompt (.paged r.scan []) site.store := free
        have paged : RowSource.answer site.store.holdings (.paged r.scan []) =
            RowSource.takePage r.scan (KeyedStore.readPage start.selection start.pageSize none
              (KeyedStore.entriesAfter (k.partition name) r.scan.cursor)) := by
          have opens : KeyedStore.openName r.scan.ns = .ok name := by rw [h.ns, usable.opens]
          have fits : r.scan.pageSize ≤ KeyedStore.maxPageSize := by
            rw [h.pageSize]
            exact usable.fits
          simp only [RowSource.answer, hdone, Bool.false_eq_true, if_false, Holdings.page, hk,
            KeyedStore.reading_keyed opens fits, h.selection, h.pageSize]
        rw [prompt.said_eq, prompt.next_eq, paged]
        unfold Store.IsReadable Store.Offers at *
        rw [hk, KeyedStore.entries_of_openName usable.opens] at readable ⊢
        exact h.takePage hdone hbuffered usable.positive readable
          (KeyedStore.readPage_cases start.selection usable.positive none _)

/-! ## A whole reading -/

/-- The next row is taken, and the reading goes on from there. -/
theorem asks_cons {ws : List Write} {writes : List (List Write)}
    (next : (r.stream.poll (site.written ws)).2.1 = r'.stream)
    (taken : r'.taken.map .ok =
      r.taken.map .ok ++ (r.stream.poll (site.written ws)).1.delivery?.toList) :
    r.asks site (ws :: writes) =
      ⟨ws, r.taken.map .ok, r.stream, (site.written ws).store,
          (r.stream.poll (site.written ws)).1⟩ ::
        r'.asks (r.stream.poll (site.written ws)).2.2 writes := by
  rw [asks, RowSource.asksAfter, next, ← taken]
  rfl

/-- **Asking a reading again and again**, while the records of the collection are readable. -/
theorem Sound.asks (h : r.Sound start) (hk : site.store = .keyed k) (usable : start.Usable name)
    {writes : List (List Write)}
    (readable : ∀ a ∈ r.asks site writes, a.store.IsReadable start.ns start.selection) :
    ∃ r',
      r'.taken.map .ok = r.taken.map .ok ++ (r.asks site writes).filterMap (·.said.delivery?) ∧
      ((∃ a ∈ r.asks site writes, a.said = .ended) → r'.HasEnded) ∧
      Advance start name
        (fun id => ∀ a ∈ r.asks site writes, a.store.Offers start.ns start.selection id) r r' := by
  induction writes generalizing r site k with
  | nil =>
    refine ⟨r, (List.append_nil _).symm, fun ⟨a, ha, _⟩ => (by cases ha), h.advance⟩
  | cons ws writes ih =>
    obtain ⟨k₁, hk₁, -, -⟩ := RowSource.written_keyed hk ws
    have here := readable _ List.mem_cons_self
    obtain ⟨r₁, next, taken, ended, first⟩ := h.poll hk₁ usable here
    rw [asks_cons next taken] at readable ⊢
    obtain ⟨k₂, hk₂, -⟩ := RowSource.polled_keyed hk₁ (h.hasRoom usable)
    obtain ⟨r₂, taken₂, ended₂, rest⟩ :=
      ih first.sound hk₂ fun a ha => readable a (List.mem_cons_of_mem _ ha)
    refine ⟨r₂, ?_, ?_, first.trans rest fun id offered => List.forall_mem_cons.mp offered⟩
    · rw [taken₂, taken, List.append_assoc, List.filterMap_cons]
      cases (r.stream.poll (site.written ws)).1.delivery? <;> rfl
    · rintro ⟨a, ha, hended⟩
      obtain rfl | later := List.mem_cons.mp ha
      · exact rest.hasEnded (ended hended)
      · exact ended₂ ⟨a, later, hended⟩

/-- From each moment at which it is asked, a reading goes on from where it stands. -/
theorem Sound.of_split (h : r.Sound start) (hk : site.store = .keyed k)
    (usable : start.Usable name) {writes : List (List Write)}
    (readable : ∀ a ∈ r.asks site writes, a.store.IsReadable start.ns start.selection)
    {before later : List Ask} {a : Ask} (split : r.asks site writes = before ++ a :: later) :
    ∃ (r' : Scanning) (site' : Site) (k' : KeyedStore) (writes' : List (List Write)),
      r'.Sound start ∧ site'.store = .keyed k' ∧ a.stream = r'.stream ∧
      a.delivered = r'.taken.map .ok ∧ a :: later = r'.asks site' writes' := by
  induction writes generalizing r site k before with
  | nil => cases before <;> cases split
  | cons ws writes ih =>
    obtain ⟨k₁, hk₁, -, -⟩ := RowSource.written_keyed hk ws
    obtain ⟨r₁, next, taken, -, first⟩ := h.poll hk₁ usable (readable _ List.mem_cons_self)
    have asked : r.asks site (ws :: writes) = _ := asks_cons next taken
    cases before with
    | nil =>
      obtain ⟨rfl, -⟩ := List.cons.inj (asked.symm.trans split)
      exact ⟨r, site, k, ws :: writes, h, hk, rfl, rfl, split.symm⟩
    | cons b before =>
      rw [asked] at readable split
      obtain ⟨k₂, hk₂, -⟩ := RowSource.polled_keyed hk₁ (h.hasRoom usable)
      exact ih first.sound hk₂ (fun a ha => readable a (List.mem_cons_of_mem _ ha))
        (List.cons.inj split).2

/-! ## What a reading has delivered -/

theorem Sound.map_id_rows (h : r.Sound start) :
    (r.taken ++ r.buffered).map (·.id) = r.found.map (·.2) := by
  rw [h.rows, ← Supply.placed_zero, Supply.map_id_placed]

theorem Sound.ascending_taken (h : r.Sound start) : RecordId.Ascending (r.taken.map (·.id)) := by
  have all := h.found.ascending
  rw [← h.map_id_rows, List.map_append] at all
  exact all.sublist (List.sublist_append_left _ _)

/-- A reading awaits no record that it has delivered. -/
theorem Sound.not_awaits (h : r.Sound start) {row : Row}
    (delivered : (.ok row : Delivery) ∈ r.taken.map .ok) (name : String) :
    ¬r.stream.Awaits name (KeyedStore.keyOf row.id) := by
  rintro ⟨goesOn, -, ahead⟩
  obtain ⟨row', hrow, same⟩ := List.mem_map.mp delivered
  obtain rfl := Except.ok.inj same
  have found : row'.id ∈ r.found.map (·.2) := by
    rw [← h.map_id_rows]
    exact List.mem_map_of_mem (List.mem_append_left _ hrow)
  obtain ⟨c, hc, hid⟩ := List.mem_map.mp found
  rw [← hid, h.found.passed goesOn c hc] at ahead
  cases ahead

/-- A reading that has ended has delivered the records that it has found. -/
theorem Sound.taken_of_hasEnded (h : r.Sound start) (finished : r.HasEnded) :
    r.taken = Row.placeAll start.pageSize r.found := by
  rw [← h.rows, finished.2, List.append_nil]

/-- A reading that has ended has found the records that it accounts for. -/
theorem mem_of_hasEnded {id : RecordId} (finished : r.HasEnded) (accounts : r.Accounts name id) :
    id ∈ r.found.map (·.2) := by
  obtain ⟨goesOn, -⟩ | found := accounts
  · rw [finished.1] at goesOn
    cases goesOn
  · exact found

/-- **A record that is awaited is delivered**, if it is there from now on, and selected, until the
reading has ended. -/
theorem Sound.delivers (h : r.Sound start) (hk : site.store = .keyed k)
    (usable : start.Usable name) {writes : List (List Write)}
    (readable : ∀ a ∈ r.asks site writes, a.store.IsReadable start.ns start.selection)
    {id : RecordId} (awaited : r.stream.Awaits name (KeyedStore.keyOf id))
    (offered : ∀ a ∈ r.asks site writes, a.store.Offers start.ns start.selection id)
    (ended : ∃ a ∈ r.asks site writes, a.said = .ended) :
    ∃ a ∈ r.asks site writes, ∃ row, a.said = .ready (.ok row) ∧ row.id = id := by
  obtain ⟨r', taken, finished, advance⟩ := h.asks hk usable readable
  have found := mem_of_hasEnded (finished ended) (advance.accounts id offered (.inl awaited))
  rw [← advance.sound.map_id_rows, (finished ended).2, List.append_nil] at found
  obtain ⟨row, hrow, rfl⟩ := List.mem_map.mp found
  have delivered : Except.ok row ∈ r'.taken.map (Except.ok : Row → Delivery) :=
    List.mem_map_of_mem hrow
  rw [taken, List.mem_append] at delivered
  obtain before | since := delivered
  · exact absurd awaited (h.not_awaits before name)
  · obtain ⟨a, ha, said⟩ := List.mem_filterMap.mp since
    exact ⟨a, ha, row, Polled.eq_ready_of_delivery? said, rfl⟩

/-- The rows that have been delivered make buckets, and whole ones when the reading has ended. -/
theorem Sound.acceptAll (h : r.Sound start) (usable : start.Usable name) :
    ∃ buckets assembly,
      (Assembly.start start.pageSize).acceptAll r.taken = .ok (buckets, assembly) ∧
      (r.HasEnded → assembly.pending = none ∧ Bucket.Parts start.pageSize r.found buckets) := by
  obtain ⟨last, all, whole⟩ :=
    Assembly.acceptAll_cut usable.positive (Assembly.cut_start usable.positive r.found)
      (Nat.zero_le _)
  rw [List.drop_zero] at all
  have rows := all
  rw [← h.rows] at rows
  obtain ⟨buckets, assembly, accepted, -⟩ := Assembly.acceptAll_prefix rows
  refine ⟨buckets, assembly, accepted, fun finished => ?_⟩
  rw [h.taken_of_hasEnded finished, all] at accepted
  obtain ⟨rfl, rfl⟩ := Prod.mk.inj (Except.ok.inj accepted)
  exact ⟨whole, Bucket.parts_cut usable.positive r.found⟩

/-- A reading that is about to begin. -/
def fresh (start : KeyedStore.KeyScan) : Scanning := ⟨start, [], [], []⟩

theorem sound_fresh (ns : Namespace) (selection : Selection) (size : Nat) :
    (fresh (.start ns selection size)).Sound (.start ns selection size) where
  found := ⟨.nil, fun _ => (Nat.zero_mul _).symm, fun _ c hc => by cases hc⟩
  rows := rfl
  ns := rfl
  selection := rfl
  pageSize := rfl

/-- It awaits all keys. -/
theorem accounts_fresh {ns : Namespace} (hname : KeyedStore.openName ns = .ok name)
    (selection : Selection) (size : Nat) (id : RecordId) :
    (fresh (.start ns selection size)).Accounts name id :=
  .inl ⟨rfl, hname, rfl⟩

end Scanning

/-- Whether a write is about records only that the stream has delivered. -/
def Ask.IsPast (a : Ask) (w : Write) : Prop :=
  ∀ x ∈ w.addresses, ∃ row, .ok row ∈ a.delivered ∧ row.id = x.2

namespace KeyedStore

/-- **A collection is read while others write to it.**  A query whose rows go in the order of keys
opens a reading.  It is asked for its rows one after another, and before each time other clients may
add, replace and delete what they like, as long as the records of the collection remain readable.

The ids that it delivers go up.  Its rows stand in the places of candidates that are cut into
buckets, so that they can be assembled as far as they have come.  When it has ended, the buckets are
whole, and each record that has been there all the while, and selected, has been delivered once.
Writes to records that it has delivered make no difference to its rows.  If there is a ticket, it
never has to wait, and it comes to its end when the writes have ceased. -/
theorem scan_under_writes {site : Site} {k : KeyedStore} {ns : Namespace} {name : String}
    {query : Query} {c : Collation} (hk : site.store = .keyed k) (hname : openName ns = .ok name)
    (hc : Collation.parse query.collation = .ok c) (ordered : isKeyOrdered ⟨query.filter, c⟩)
    (fits : max 1 query.bucketSize ≤ maxPageSize) :
    let selection : Selection := ⟨query.filter, c⟩
    let size := max 1 query.bucketSize
    ∃ rows, (site.store.leave (.rows ns query)).1 = .ok rows ∧
      (∀ writes, (∀ a ∈ rows.asks site writes, a.store.IsReadable ns selection) →
        (∃ found taken buckets assembly,
          (rows.asks site writes).filterMap (·.said.delivery?) = taken.map .ok ∧
          RecordId.Ascending (taken.map (·.id)) ∧
          taken <+: Row.placeAll size found ∧
          (Assembly.start query.bucketSize).acceptAll taken = .ok (buckets, assembly) ∧
          ((∃ a ∈ rows.asks site writes, a.said = .ended) →
            taken = Row.placeAll size found ∧ assembly.pending = none ∧
            Bucket.Parts size found buckets ∧
            ∀ id, (∀ a ∈ rows.asks site writes, a.store.Offers ns selection id) →
              (taken.map (·.id)).count id = 1)) ∧
        ∀ fewer, List.Forall₂ (fun a ws => Write.Without a.IsPast a.writes ws)
            (rows.asks site writes) fewer →
          (rows.asks site writes).map (·.said) = (rows.asks site fewer).map (·.said)) ∧
      (k.readTickets.available → ∀ writes,
        (∀ a ∈ rows.asks site writes, ∀ time, a.said ≠ .later time) ∧
        ∃ n, ∃ a ∈ rows.asks site (writes ++ List.replicate n []), a.said = .ended) := by
  intro selection size
  have room := hasRoom_start ns selection query.bucketSize
  have usable : (KeyScan.start ns selection size).Usable name := ⟨room, fits, hname⟩
  have opened := answer_rows (k := k) hname hc
  rw [if_pos ordered, ← hk] at opened
  have sound := Scanning.sound_fresh ns selection size
  refine ⟨_, opened, fun writes readable => ⟨?_, fun fewer past => ?_⟩, fun free writes => ⟨?_, ?_⟩⟩
  · obtain ⟨r, taken, ended, advance⟩ := sound.asks hk usable readable
    obtain ⟨buckets, assembly, accepted, whole⟩ := advance.sound.acceptAll usable
    refine ⟨r.found, r.taken, buckets, assembly, taken.symm, advance.sound.ascending_taken,
      ⟨r.buffered, advance.sound.rows⟩, ?_, fun hended => ?_⟩
    · have limit : Assembly.start query.bucketSize = Assembly.start size := by
        simp only [Assembly.start, size, ← Nat.max_assoc, Nat.max_self]
      rw [limit]
      exact accepted
    · have finished := ended hended
      obtain ⟨none_left, parts⟩ := whole finished
      refine ⟨advance.sound.taken_of_hasEnded finished, none_left, parts, fun id offered => ?_⟩
      have delivered := Scanning.mem_of_hasEnded finished
        (advance.accounts id offered (Scanning.accounts_fresh hname selection size id))
      rw [← advance.sound.map_id_rows, finished.2, List.append_nil] at delivered
      exact List.count_eq_one_of_mem advance.sound.ascending_taken.nodup delivered
  · have beside := (List.forall₂_and_left _ _).mpr ⟨fun a (ha : a ∈ _) => ha, past⟩
    refine Store.said_opened opened (beside.imp fun a ws here name' key awaited text => ?_)
    obtain ⟨ha, without⟩ := here
    obtain ⟨before, later, split⟩ := List.append_of_mem ha
    obtain ⟨r, -, -, -, hr, -, stream, delivered, -⟩ :=
      sound.of_split hk usable readable split
    refine without.effects_eq fun w hw concerns => ?_
    obtain ⟨x, hx, -, rfl⟩ := concerns
    obtain ⟨row, hrow, hid⟩ := hw x hx
    rw [delivered] at hrow
    rw [stream, ← hid] at awaited
    exact hr.not_awaits hrow name' awaited
  · have prompt : site.store.admitsPages = true := by rw [hk]; exact free
    exact fun a ha time => RowSource.said_ne_later hk room prompt ha time
  · have prompt : site.store.admitsPages = true := by rw [hk]; exact free
    exact RowSource.exists_ended hk room prompt [] writes

/-- Two orders are read in buckets of one, and the first is deleted when it has been delivered: the
rows are those that come without the delete, and the other order is delivered once. -/
theorem scan_under_writes_orders :
    let ns : Namespace := ⟨"crm", "orders"⟩
    let query : Query := ⟨.matchAll, 1, none, none⟩
    let site : Site := { store := .keyed .twoOrders }
    let writes : List (List Write) := [[], [.delete ns [⟨"a"⟩] .majority], []]
    ∃ rows, (site.store.leave (.rows ns query)).1 = .ok rows ∧
      openName ns = .ok "crm__orders" ∧ isKeyOrdered ⟨query.filter, .simple⟩ ∧
      (∀ a ∈ rows.asks site writes, a.store.IsReadable ns ⟨query.filter, .simple⟩) ∧
      (∃ found taken buckets assembly,
        (rows.asks site writes).filterMap (·.said.delivery?) = taken.map .ok ∧
        (Assembly.start 1).acceptAll taken = .ok (buckets, assembly) ∧
        Bucket.Parts 1 found buckets ∧ (taken.map (·.id)).count ⟨"b"⟩ = 1) ∧
      (rows.asks site writes).map (·.said) = (rows.asks site [[], [], []]).map (·.said) ∧
      ∃ n, ∃ a ∈ rows.asks site (writes ++ List.replicate n []), a.said = .ended := by
  intro ns query site writes
  have hname : openName ns = .ok "crm__orders" := by decide
  have ordered : isKeyOrdered ⟨query.filter, .simple⟩ := rfl
  have simple : Collation.parse query.collation = .ok .simple := rfl
  have fits : max 1 query.bucketSize ≤ maxPageSize := by decide
  have hk : site.store = .keyed .twoOrders := rfl
  obtain ⟨rows, opened, meanwhile, prompt⟩ := scan_under_writes hk hname simple ordered fits
  obtain rfl : rows = .paged (.start ns ⟨.matchAll, .simple⟩ 1) [] := by
    simp only [site, ns, query] at opened ⊢
    exact (Except.ok.inj opened).symm
  let rows : RowSource := .paged (.start ns ⟨.matchAll, .simple⟩ 1) []
  let first : Entry := .stored (keyOf ⟨"a"⟩) (encode [])
  let second : Entry := .stored (keyOf ⟨"b"⟩) (encode [])
  have entries : (rows.asks site writes).map (·.store.holdings.entries ns) =
      [[first, second], [second], [second]] := by
    cbv
  have asked : (rows.asks site writes).map (·.said) = [.ready (.ok ⟨⟨"a"⟩, .null, 1, 1, 1⟩),
      .ready (.ok ⟨⟨"b"⟩, .null, 2, 1, 1⟩), .ended] := by
    cbv
  have delivered : (rows.poll (site.written [])).1.delivery?.toList =
      [.ok ⟨⟨"a"⟩, .null, 1, 1, 1⟩] := by
    cbv
  have held : ∀ a ∈ rows.asks site writes, second ∈ a.store.holdings.entries ns ∧
      ∀ e ∈ a.store.holdings.entries ns, e = first ∨ e = second := by
    intro a ha
    have here := List.mem_map_of_mem (f := fun a => a.store.holdings.entries ns) ha
    rw [entries] at here
    simp only [List.mem_cons, List.not_mem_nil, or_false] at here
    obtain same | same | same := here <;> simp [same]
  have readable : ∀ a ∈ rows.asks site writes, a.store.IsReadable ns ⟨query.filter, .simple⟩ := by
    intro a ha e he
    obtain rfl | rfl := (held a ha).2 e he
    · exact ⟨_, rfl, _, rfl⟩
    · exact ⟨_, rfl, _, rfl⟩
  have offered : ∀ a ∈ rows.asks site writes,
      a.store.Offers ns ⟨query.filter, .simple⟩ ⟨"b"⟩ := fun a ha =>
    ⟨second, (held a ha).1, rfl, rfl⟩
  have ended : ∃ a ∈ rows.asks site writes, a.said = .ended := by
    have last : Polled.ended ∈ (rows.asks site writes).map (·.said) := by
      rw [asked]
      simp
    exact List.mem_map.mp last
  have past : List.Forall₂ (fun a ws => Write.Without a.IsPast a.writes ws)
      (rows.asks site writes) [[], [], []] := by
    refine .cons .nil (.cons (.drop (fun x hx => ?_) .nil) (.cons .nil .nil))
    obtain rfl := List.mem_singleton.mp hx
    refine ⟨⟨⟨"a"⟩, .null, 1, 1, 1⟩, ?_, rfl⟩
    show _ ∈ [] ++ (rows.poll (site.written [])).1.delivery?.toList
    rw [delivered]
    exact List.mem_cons_self
  obtain ⟨⟨found, taken, buckets, assembly, rows_eq, -, -, accepted, whole⟩, undisturbed⟩ :=
    meanwhile writes readable
  obtain ⟨-, -, parts, once⟩ := whole ended
  exact ⟨rows, opened, hname, ordered, readable,
    ⟨found, taken, buckets, assembly, rows_eq, accepted, parts, once ⟨"b"⟩ offered⟩,
    undisturbed _ past, (prompt rfl writes).2⟩

end KeyedStore

end PacedPurge
