import Mathlib.Data.List.Nodup
import PacedPurge.Proofs.Document.Ordering
import PacedPurge.Proofs.Filter.Faults
import PacedPurge.Proofs.Store.Paging
import PacedPurge.Proofs.Text.OctetOrder

/-!
# The same records in both stores

A partition mirrors the records of a collection in memory if its entries decode to them
(`KeyedStore.Mirrors`).  As octets are ordered like texts, both stores then keep the records in the
same order (`KeyedStore.Mirrors.decode_toList`), and a selection finds the same in both, or is
stopped by the same record (`KeyedStore.Mirrors.gather_eq`).

What it finds are all selected records if nothing stops it (`Selection.gather_whole`), and nothing
at all if something does, for a filter that some record stops accepts none
(`Selection.gather_faulty`).  Where the order of keys is taken for the order of candidates, it is
(`KeyedStore.increasing_chosen`).
-/

namespace PacedPurge

/-- Ids that go up. -/
def RecordId.Ascending (ids : List RecordId) : Prop := ids.Pairwise fun a b => compare a b = .lt

theorem RecordId.Ascending.nodup {ids : List RecordId} (h : Ascending ids) : ids.Nodup := by
  refine h.imp fun {a b} hlt heq => ?_
  have self : compare a a = .eq := Std.ReflCmp.compare_self
  rw [← heq, self] at hlt
  cases hlt

namespace Selection

variable {s : Selection}

/-! ## What a selection finds -/

/-- A selection goes by what entries are read as. -/
theorem gather_congr {entries entries' : List Entry}
    (same : entries.map Entry.read = entries'.map Entry.read) :
    s.gather entries = s.gather entries' := by
  induction entries generalizing entries' with
  | nil =>
    obtain rfl : entries' = [] := List.map_eq_nil_iff.mp same.symm
    rfl
  | cons e rest ih =>
    obtain ⟨e', rest', rfl, hread, hrest⟩ := List.map_eq_cons_iff.mp same.symm
    simp only [gather, hread, ih hrest.symm]

/-- The records of a collection in memory, as its entries. -/
def entriesOf (records : List (RecordId × Document)) : List Entry :=
  records.map fun r => .record r.1 r.2

/-- The selected ones of records. -/
def chosen (s : Selection) (records : List (RecordId × Document)) : List Candidate :=
  (records.filter fun r => (Entry.record r.1 r.2).isSelected s).map fun r => s.candidate r.1 r.2

/-- A selection that no record stops finds the selected ones. -/
theorem gather_whole {records : List (RecordId × Document)}
    (evaluates : ∀ r ∈ records, ∃ b, s.selects r.1 r.2 = .ok b) :
    s.gather (entriesOf records) = (s.chosen records, none) := by
  induction records with
  | nil => rfl
  | cons r rest ih =>
    obtain ⟨b, hb⟩ := evaluates r List.mem_cons_self
    have later := ih fun r' hr' => evaluates r' (List.mem_cons_of_mem r hr')
    have first : (Entry.record r.1 r.2).isSelected s = b := by
      simp only [Entry.isSelected, Entry.read, hb]
    have step : s.gather (entriesOf (r :: rest)) =
        (if b then s.candidate r.1 r.2 :: (s.gather (entriesOf rest)).1
          else (s.gather (entriesOf rest)).1, (s.gather (entriesOf rest)).2) := by
      simp only [entriesOf, List.map_cons, gather, Entry.read, hb]
    rw [step, later]
    cases b with
    | true => simp only [chosen, List.filter_cons, first, if_true, List.map_cons]
    | false => simp only [chosen, List.filter_cons, first, Bool.false_eq_true, if_false]

/-- A selection that some record stops finds nothing before. -/
theorem gather_faulty {records : List (RecordId × Document)}
    (faulty : ∃ r ∈ records, ∃ e, s.selects r.1 r.2 = .error e) :
    ∃ r ∈ records, ∃ e, s.selects r.1 r.2 = .error e ∧
      s.gather (entriesOf records) = ([], some e) := by
  induction records with
  | nil =>
    obtain ⟨r, hr, -⟩ := faulty
    cases hr
  | cons r rest ih =>
    cases hone : s.selects r.1 r.2 with
    | error e =>
      refine ⟨r, List.mem_cons_self, e, hone, ?_⟩
      simp only [entriesOf, List.map_cons, gather, Entry.read, hone]
    | ok b =>
      obtain ⟨r', hr', e, he⟩ := faulty
      have refused : b = false := by
        cases b with
        | false => rfl
        | true =>
          obtain ⟨b', hb'⟩ := selects_ok_of_selects hone r'.1 r'.2
          rw [he] at hb'
          cases hb'
      subst refused
      have later : r' ∈ rest := by
        obtain rfl | hrest := List.mem_cons.mp hr'
        · rw [hone] at he
          cases he
        · exact hrest
      obtain ⟨r'', hr'', e', he', found⟩ := ih ⟨r', later, e, he⟩
      refine ⟨r'', List.mem_cons_of_mem r hr'', e', he', ?_⟩
      have step : s.gather (entriesOf (r :: rest)) = s.gather (entriesOf rest) := by
        simp only [entriesOf, List.map_cons, gather, Entry.read, hone, Bool.false_eq_true, if_false]
      rw [step, found]

end Selection

namespace KeyedStore

/-! ## Mirrors -/

/-- A partition holds the records of a collection in memory: its entries decode to them. -/
structure Mirrors (p : Partition) (records : Records) : Prop where
  decodes : ∀ e ∈ p.toList, ∃ r ∈ records.toList, decode e = .ok r
  kept : ∀ r ∈ records.toList, ∃ e ∈ p.toList, decode e = .ok r

/-- The key of an entry is that of the record that it decodes to. -/
theorem key_of_decode {e : Key × String} {r : RecordId × Document} (h : decode e = .ok r) :
    e.1 = keyOf r.1 :=
  (id?_stored_eq_some_iff e.1 e.2 r.1).mp (Entry.id?_of_read h)

/-- Records that go in the order of their ids. -/
def InOrder (records : List (RecordId × Document)) : Prop :=
  records.Pairwise fun r r' => compare r.1 r'.1 = .lt

theorem inOrder_toList (records : Records) : InOrder records.toList :=
  Std.TreeMap.ordered_keys_toList

theorem InOrder.nodup {records : List (RecordId × Document)} (h : InOrder records) :
    records.Nodup :=
  List.Nodup.of_map Prod.fst (RecordId.Ascending.nodup (List.pairwise_map.mpr h))

/-- **A mirror keeps the records in their order.** -/
theorem Mirrors.decode_toList {p : Partition} {records : Records} (h : Mirrors p records) :
    p.toList.map decode = records.toList.map .ok := by
  let decoded := p.toList.filterMap fun e => (decode e).toOption
  have whole : p.toList.map decode = decoded.map .ok := by
    simp only [decoded, List.map_filterMap]
    rw [← List.filterMap_eq_map]
    refine List.filterMap_congr fun e he => ?_
    obtain ⟨r, -, hr⟩ := h.decodes e he
    simp only [Function.comp_apply, hr]
    rfl
  have ordered : InOrder decoded := by
    have keys : p.toList.Pairwise fun e e' => compare e.1 e'.1 = .lt :=
      Std.TreeMap.ordered_keys_toList
    refine keys.filterMap _ fun e e' hlt r hr r' hr' => ?_
    have first : decode e = .ok r := by
      cases hd : decode e with
      | error fault => simp [hd, Except.toOption] at hr
      | ok x => simpa [hd, Except.toOption] using hr
    have second : decode e' = .ok r' := by
      cases hd : decode e' with
      | error fault => simp [hd, Except.toOption] at hr'
      | ok x => simpa [hd, Except.toOption] using hr'
    rwa [key_of_decode first, key_of_decode second, compare_keyOf] at hlt
  have members : ∀ r, r ∈ decoded ↔ r ∈ records.toList := by
    intro r
    simp only [decoded, List.mem_filterMap]
    constructor
    · rintro ⟨e, he, hr⟩
      obtain ⟨r', hr', hd⟩ := h.decodes e he
      rw [hd] at hr
      obtain rfl := Option.some.inj hr
      exact hr'
    · intro hr
      obtain ⟨e, he, hd⟩ := h.kept r hr
      exact ⟨e, he, by rw [hd]; rfl⟩
  have same : decoded = records.toList := by
    refine List.Perm.eq_of_pairwise (fun r r' _ _ hlt hgt => ?_) ordered (inOrder_toList records)
      ((List.perm_ext_iff_of_nodup ordered.nodup (inOrder_toList records).nodup).mpr members)
    rw [Std.OrientedCmp.gt_of_lt hlt] at hgt
    cases hgt
  rw [whole, same]

/-- A selection finds the same in a mirror. -/
theorem Mirrors.gather_eq {p : Partition} {records : Records} (h : Mirrors p records)
    (s : Selection) :
    s.gather (stored p.toList) = s.gather (Selection.entriesOf records.toList) := by
  refine Selection.gather_congr ?_
  simp only [stored, Selection.entriesOf, List.map_map]
  exact h.decode_toList

/-! ## The order of keys -/

/-- Where the order of keys is taken for the order of candidates, candidates compare as ids do. -/
theorem candidateOrder_of_isKeyOrdered {s : Selection} (h : isKeyOrdered s)
    (id id' : RecordId) (doc doc' : Document) :
    Row.candidateOrder s.collation (s.candidate id doc) (s.candidate id' doc') =
      compare id id' := by
  unfold isKeyOrdered at h
  unfold Selection.candidate
  cases hkey : s.filter.sortKey with
  | none => rfl
  | some key =>
    simp only [hkey, Bool.and_eq_true, decide_eq_true_eq] at h
    obtain ⟨rfl, simple⟩ := h
    simp only [Row.candidateOrder, Document.lookup, if_true, simple, Json.order, Collation.fold]
    rw [← RecordId.compare_eq]
    cases compare id id' <;> rfl

/-- There the selected records are in order as they are found. -/
theorem increasing_chosen {s : Selection} (h : isKeyOrdered s) (records : Records) :
    Row.Increasing s.collation (s.chosen records.toList) := by
  refine List.pairwise_map.mpr (((inOrder_toList records).filter _).imp fun {r r'} hlt => ?_)
  rw [candidateOrder_of_isKeyOrdered h]
  exact hlt

end KeyedStore

end PacedPurge
