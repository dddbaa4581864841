import PacedPurge.Proofs.Store.Gathering

/-!
# Reading page by page

A page-by-page reading goes through the entries behind its cursor.  Since entries are ordered by
key, these are the ones with a greater key (`entriesAfter_eq_filter`), so that entries that are
taken away at the cursor or before it make no difference to what is still to be read
(`entriesAfter_erase`), and the entries behind the last one that a page visited are the rest of
those that it went through (`entriesAfter_rest`).

What one page finds is what a gathering would find, up to the number of records that make a page
(`readPage_cases`).
-/

namespace PacedPurge

namespace KeyedStore

/-! ## Entries behind a key -/

/-- Whether a key is still to be visited. -/
def isAfter (cursor : Option Key) (key : Key) : Bool :=
  match cursor with
  | none => true
  | some last => (compare key last).isGT

theorem dropWhile_eq_filter_of_ordered {entries : List (Key × String)}
    (ordered : entries.Pairwise fun a b => compare a.1 b.1 = .lt) (last : Key) :
    (entries.dropWhile fun e => (compare e.1 last).isLE) =
      entries.filter fun e => (compare e.1 last).isGT := by
  induction entries with
  | nil => rfl
  | cons e rest ih =>
    obtain ⟨hfirst, hrest⟩ := List.pairwise_cons.mp ordered
    by_cases hle : (compare e.1 last).isLE
    · have hgt : ¬(compare e.1 last).isGT := by
        rw [← Ordering.not_isLE_eq_isGT]
        simp [hle]
      simp only [List.dropWhile_cons, List.filter_cons, if_pos hle, if_neg hgt, ih hrest]
    · have hlt : compare last e.1 = .lt := Std.OrientedCmp.lt_of_not_isLE hle
      have all : ∀ e' ∈ e :: rest, (compare e'.1 last).isGT := by
        intro e' he'
        have hlt' : compare last e'.1 = .lt := by
          obtain rfl | hmem := List.mem_cons.mp he'
          · exact hlt
          · exact Std.TransCmp.lt_trans hlt (hfirst e' hmem)
        rw [Std.OrientedCmp.gt_of_lt hlt']
        rfl
      rw [List.filter_eq_self.mpr all]
      simp only [List.dropWhile_cons, if_neg hle]

/-- The entries behind a cursor are those whose keys are still to be visited. -/
theorem entriesAfter_eq_filter (p : Partition) (cursor : Option Key) :
    entriesAfter p cursor = p.toList.filter fun e => isAfter cursor e.1 := by
  cases cursor with
  | none => exact (List.filter_eq_self.mpr fun e _ => rfl).symm
  | some last => exact dropWhile_eq_filter_of_ordered Std.TreeMap.ordered_keys_toList last

/-- Entries that have been passed may go without a difference to what is still to be read. -/
theorem entriesAfter_erase (p : Partition) {cursor : Option Key} {keys : List Key}
    (passed : ∀ key ∈ keys, isAfter cursor key = false) :
    entriesAfter (keys.foldl (fun p key => p.erase key) p) cursor = entriesAfter p cursor := by
  rw [entriesAfter_eq_filter, entriesAfter_eq_filter, toList_foldl_erase, List.filter_filter]
  refine List.filter_congr fun e _ => ?_
  by_cases hkey : e.1 ∈ keys
  · rw [passed e.1 hkey, Bool.false_and]
  · simp [hkey]

section Visited

variable {p : Partition} {cursor : Option Key} {front rest : List (Key × String)} {e : Key × String}

/-- What is behind an entry that was visited is behind the cursor before. -/
theorem isAfter_of_last (h : entriesAfter p cursor = front ++ e :: rest) {key : Key}
    (hafter : isAfter (some e.1) key) : isAfter cursor key := by
  rw [entriesAfter_eq_filter] at h
  cases cursor with
  | none => rfl
  | some last =>
    have hmem : e ∈ p.toList.filter fun e => isAfter (some last) e.1 := by simp [h]
    have hgt : compare e.1 last = .gt := by simpa [isAfter] using (List.mem_filter.mp hmem).2
    have hgt' : compare key e.1 = .gt := by simpa [isAfter] using hafter
    simp only [isAfter, Std.TransCmp.gt_trans hgt' hgt]
    rfl

/-- The entries behind a cursor are ordered as well. -/
theorem ordered_entriesAfter (p : Partition) (cursor : Option Key) :
    (entriesAfter p cursor).Pairwise fun a b => compare a.1 b.1 = .lt := by
  rw [entriesAfter_eq_filter]
  exact Std.TreeMap.ordered_keys_toList.filter _

/-- An entry that was visited up to the last one is not behind it. -/
theorem isAfter_visited (h : entriesAfter p cursor = front ++ e :: rest) {e' : Key × String}
    (he' : e' ∈ front ++ [e]) : isAfter (some e.1) e'.1 = false := by
  have ordered := ordered_entriesAfter p cursor
  rw [h] at ordered
  obtain hfront | hlast := List.mem_append.mp he'
  · have hlt := (List.pairwise_append.mp ordered).2.2 e' hfront e List.mem_cons_self
    simp [isAfter, hlt]
  · obtain rfl := List.mem_singleton.mp hlast
    simp [isAfter, Std.ReflCmp.compare_self]

/-- The entries behind the last one that was visited. -/
theorem entriesAfter_rest (h : entriesAfter p cursor = front ++ e :: rest) :
    entriesAfter p (some e.1) = rest := by
  have ordered := ordered_entriesAfter p cursor
  rw [h, List.append_cons] at ordered
  have narrowed : entriesAfter p (some e.1) =
      (front ++ [e] ++ rest).filter fun e' => isAfter (some e.1) e'.1 := by
    rw [← List.append_cons, ← h, entriesAfter_eq_filter, entriesAfter_eq_filter, List.filter_filter]
    refine List.filter_congr fun e' _ => ?_
    cases hafter : isAfter (some e.1) e'.1 with
    | false => rfl
    | true => exact (isAfter_of_last h hafter).symm
  have none_before : (front ++ [e]).filter (fun e' => isAfter (some e.1) e'.1) = [] := by
    rw [List.filter_eq_nil_iff]
    intro e' he'
    simp [isAfter_visited h he']
  have all_behind : rest.filter (fun e' => isAfter (some e.1) e'.1) = rest := by
    refine List.filter_eq_self.mpr fun e' he' => ?_
    have hlt := (List.pairwise_append.mp ordered).2.2 e (by simp) e' he'
    simp [isAfter, Std.OrientedCmp.gt_of_lt hlt]
  rw [narrowed, List.filter_append, none_before, all_behind, List.nil_append]

end Visited

/-! ## One page -/

/-- The entries as a store keeps them. -/
def stored (entries : List (Key × String)) : List Entry := entries.map fun e => .stored e.1 e.2

/-- **What one page can come to.**  Something stops it before it is full; or the entries end before
it is full; or it is filled by the entries up to one of them, and the rest has not been touched. -/
inductive PageRead (s : Selection) (room : Nat) (entries : List (Key × String)) :
    Except StoreError Page → Prop where
  | stopped {fault : StoreError} (short : (s.gather (stored entries)).1.length < room)
      (stop : (s.gather (stored entries)).2 = some fault) : PageRead s room entries (.error fault)
  | ended {found : List Candidate} {last : Option Key} (short : found.length < room)
      (all : s.gather (stored entries) = (found, none)) :
      PageRead s room entries (.ok ⟨found, last, true⟩)
  | filled {found : List Candidate} {front rest : List (Key × String)} {e : Key × String}
      (full : found.length = room) (split : entries = front ++ e :: rest)
      (more : s.gather (stored entries) =
        (found ++ (s.gather (stored rest)).1, (s.gather (stored rest)).2))
      (visited : ∀ c ∈ found, ∃ e' ∈ front ++ [e], e'.1 = keyOf c.2) :
      PageRead s room entries (.ok ⟨found, some e.1, false⟩)

/-- An entry that is not selected comes before. -/
theorem PageRead.skip {s : Selection} {room : Nat} {e : Key × String} {rest : List (Key × String)}
    {answer : Except StoreError Page}
    (same : s.gather (stored (e :: rest)) = s.gather (stored rest))
    (h : PageRead s room rest answer) : PageRead s room (e :: rest) answer := by
  cases h with
  | stopped short stop => exact .stopped (by rw [same]; exact short) (by rw [same]; exact stop)
  | ended short all => exact .ended short (by rw [same]; exact all)
  | @filled found front behind e' full split more visited =>
    have split' : e :: rest = (e :: front) ++ e' :: behind := by
      rw [split]
      rfl
    refine .filled full split' (by rw [same]; exact more) fun c hc => ?_
    obtain ⟨e'', he'', key⟩ := visited c hc
    exact ⟨e'', List.mem_cons_of_mem e he'', key⟩

/-- A selected entry comes before, and there is room for it. -/
theorem PageRead.add {s : Selection} {room : Nat} {e : Key × String} {rest : List (Key × String)}
    {answer : Except StoreError Page} {c : Candidate} (key : e.1 = keyOf c.2)
    (one : s.gather (stored (e :: rest)) =
      (c :: (s.gather (stored rest)).1, (s.gather (stored rest)).2))
    (h : PageRead s room rest answer) :
    PageRead s (room + 1) (e :: rest)
      (answer.map fun page => { page with found := c :: page.found }) := by
  cases h with
  | stopped short stop =>
    refine .stopped ?_ (by rw [one]; exact stop)
    rw [one]
    exact Nat.succ_lt_succ short
  | ended short all =>
    refine .ended (Nat.succ_lt_succ short) ?_
    rw [one, all]
  | @filled found front behind e' full split more visited =>
    have split' : e :: rest = (e :: front) ++ e' :: behind := by
      rw [split]
      rfl
    refine .filled (congrArg (· + 1) full) split' ?_ fun c' hc' => ?_
    · rw [one, more]
      rfl
    · obtain rfl | hmem := List.mem_cons.mp hc'
      · exact ⟨e, by simp, key⟩
      · obtain ⟨e'', he'', key'⟩ := visited c' hmem
        exact ⟨e'', List.mem_cons_of_mem e he'', key'⟩

/-- Reading a page comes to one of the three. -/
theorem readPage_cases (s : Selection) {room : Nat} (positive : 0 < room) (last : Option Key)
    (entries : List (Key × String)) :
    PageRead s room entries (readPage s room last entries) := by
  induction entries generalizing room last with
  | nil => exact .ended positive rfl
  | cons e rest ih =>
    have stopped : ∀ {fault : StoreError}, s.gather (stored (e :: rest)) = ([], some fault) →
        PageRead s room (e :: rest) (.error fault) := fun stop =>
      .stopped (by rw [stop]; exact positive) (by rw [stop])
    unfold readPage
    cases hread : decode e with
    | error fault =>
      exact stopped (by simp only [stored, List.map_cons, Selection.gather, Entry.read, hread])
    | ok r =>
      obtain ⟨id, doc⟩ := r
      have hkey : e.1 = keyOf (s.candidate id doc).2 := by
        rw [Selection.id_candidate]
        exact (id?_stored_eq_some_iff e.1 e.2 id).mp (Entry.id?_of_read hread)
      simp only
      cases hchosen : s.selects id doc with
      | error fault =>
        exact stopped
          (by simp only [stored, List.map_cons, Selection.gather, Entry.read, hread, hchosen])
      | ok chosen =>
        have gathered : s.gather (stored (e :: rest)) =
            (if chosen then s.candidate id doc :: (s.gather (stored rest)).1
              else (s.gather (stored rest)).1, (s.gather (stored rest)).2) := by
          simp only [stored, List.map_cons, Selection.gather, Entry.read, hread, hchosen]
        cases chosen with
        | false => exact (ih positive (some e.1)).skip gathered
        | true =>
          simp only
          by_cases hone : room ≤ 1
          · obtain rfl : room = 1 := by omega
            rw [if_pos hone]
            have full : [s.candidate id doc].length = 1 := rfl
            have split : e :: rest = [] ++ e :: rest := rfl
            refine .filled full split gathered fun c hc => ?_
            obtain rfl := List.mem_singleton.mp hc
            exact ⟨e, by simp, hkey⟩
          · rw [if_neg hone]
            have left : 0 < room - 1 := by omega
            have added := (ih left (some e.1)).add hkey gathered
            rw [Nat.sub_add_cancel positive] at added
            cases hpage : readPage s (room - 1) (some e.1) rest with
            | error fault => simpa only [hpage, Except.map] using added
            | ok page => simpa only [hpage, Except.map] using added

end KeyedStore

end PacedPurge
