import Mathlib.Data.List.Basic
import PacedPurge.Proofs.Text.Decoding
import PacedPurge.Store.Request

/-!
# What a store holds

The records of either kind of store, told in one way.  The *holdings* of a store are its collections
or its partitions, without tickets, counters and failures to come; a collection has *entries*, in
the order in which the store keeps them, and an entry has the id of the record that it holds.

Removing ids from a collection is a function on holdings, `Holdings.without`.  What it leaves is
told by `entries_without`: the entries that hold none of the ids, each as it was and in its place.
Ids of the entries of a collection are distinct (`nodup_ids`), for a key can be read in one way
only.
-/

namespace PacedPurge

/-- What is kept under one id: a document in memory, or the text under a key. -/
inductive Entry where
  | record (id : RecordId) (doc : Document)
  | stored (key : Key) (text : String)

namespace Entry

/-- The id of the record that the entry holds; none if its key is no text. -/
def id? : Entry → Option RecordId
  | .record id _ => some id
  | .stored key _ =>
    match Text.ofOctets key with
    | .ok text => some ⟨text⟩
    | .error _ => none

/-- The record that the entry holds, if it decodes. -/
def read : Entry → Except StoreError (RecordId × Document)
  | .record id doc => .ok (id, doc)
  | .stored key text => KeyedStore.decode (key, text)

/-- Whether the entry holds one of the records. -/
def isOneOf (ids : List RecordId) (e : Entry) : Bool :=
  match e.id? with
  | some id => ids.contains id
  | none => false

end Entry

/-- The records of a store: its collections, or its partitions. -/
inductive Holdings where
  | collections (m : Std.TreeMap Namespace Records)
  | partitions (p : Std.TreeMap String Partition)

/-- What the store holds. -/
def Store.holdings : Store → Holdings
  | .memory m => .collections m.collections
  | .keyed k => .partitions k.partitions

namespace Holdings

/-- The entries of a collection, in the order in which they are kept.  A collection whose partition
cannot be opened has none. -/
def entries (h : Holdings) (ns : Namespace) : List Entry :=
  match h with
  | .collections m => ((m[ns]?).getD ∅).toList.map fun r => .record r.1 r.2
  | .partitions p =>
    match KeyedStore.openName ns with
    | .error _ => []
    | .ok name => ((p[name]?).getD ∅).toList.map fun e => .stored e.1 e.2

/-- The ids of the records of a collection. -/
def ids (h : Holdings) (ns : Namespace) : List RecordId := (h.entries ns).filterMap Entry.id?

/-- The holdings without some records of a collection. -/
def without (h : Holdings) (ns : Namespace) (ids : List RecordId) : Holdings :=
  match h with
  | .collections m =>
    .collections (m.insert ns (ids.foldl (fun r id => r.erase id) ((m[ns]?).getD ∅)))
  | .partitions p =>
    match KeyedStore.openName ns with
    | .error _ => .partitions p
    | .ok name =>
      let part : Partition := (p[name]?).getD ∅
      .partitions (p.insert name
        ((KeyedStore.existing part ids).foldl (fun r id => r.erase (KeyedStore.keyOf id)) part))

end Holdings

/-! ## Keys and ids -/

/-- An entry holds the record of an id exactly if its key is the one of the id. -/
theorem id?_stored_eq_some_iff (key : Key) (text : String) (id : RecordId) :
    (Entry.stored key text).id? = some id ↔ key = KeyedStore.keyOf id := by
  constructor
  · intro h
    cases hread : Text.ofOctets key with
    | error fault => simp [Entry.id?, hread] at h
    | ok s =>
      simp only [Entry.id?, hread, Option.some.injEq] at h
      subst h
      exact (Text.octets_of_ofOctets hread).symm
  · rintro rfl
    simp [Entry.id?, KeyedStore.keyOf, Text.ofOctets_octets]

/-- An entry that decodes holds the record that it decodes to. -/
theorem Entry.id?_of_read {e : Entry} {id : RecordId} {doc : Document}
    (h : e.read = .ok (id, doc)) : e.id? = some id := by
  cases e with
  | record i d =>
    simp only [Entry.read, Except.ok.injEq, Prod.mk.injEq] at h
    exact congrArg some h.1
  | stored key text =>
    simp only [Entry.read, KeyedStore.decode] at h
    simp only [Entry.id?]
    split at h
    · cases h
    · next s hread =>
      rw [hread]
      split at h
      · simp only [Except.ok.injEq, Prod.mk.injEq] at h
        exact congrArg some h.1
      · cases h

theorem Entry.isOneOf_iff {ids : List RecordId} {e : Entry} :
    e.isOneOf ids ↔ ∃ id ∈ ids, e.id? = some id := by
  unfold Entry.isOneOf
  cases h : e.id? with
  | none => simp
  | some id => simp

/-! ## Erasing keys -/

section Erasing

variable {α β : Type} [Ord α] [Std.TransOrd α] [Std.LawfulEqOrd α] [BEq α] [LawfulBEq α]

theorem getElem?_foldl_erase (keys : List α) (t : Std.TreeMap α β) (k : α) :
    (keys.foldl (fun t key => t.erase key) t)[k]? = if k ∈ keys then none else t[k]? := by
  induction keys generalizing t with
  | nil => simp
  | cons key keys ih =>
    rw [List.foldl_cons, ih, Std.TreeMap.getElem?_erase]
    by_cases hk : k ∈ keys
    · simp [hk]
    · by_cases heq : key = k
      · subst heq
        simp
      · have : compare key k ≠ .eq := fun h => heq (Std.LawfulEqOrd.eq_of_compare h)
        simp [hk, this, Ne.symm heq]

/-- Erasing keys leaves the other entries as they are, and in their places. -/
theorem toList_foldl_erase (keys : List α) (t : Std.TreeMap α β) :
    (keys.foldl (fun t key => t.erase key) t).toList =
      t.toList.filter (fun e => !keys.contains e.1) := by
  have same : (keys.foldl (fun t key => t.erase key) t).Equiv
      (t.filter fun k _ => !keys.contains k) := by
    refine Std.TreeMap.Equiv.of_forall_constGet?_eq fun k => ?_
    rw [getElem?_foldl_erase, Std.TreeMap.getElem?_filter']
    by_cases hk : k ∈ keys
    · cases t[k]? <;> simp [hk]
    · cases t[k]? <;> simp [hk, Option.filter]
  rw [same.toList_eq, Std.TreeMap.toList_filter]

omit [BEq α] [LawfulBEq α] in
/-- The keys of a map are all different. -/
theorem nodup_keys (t : Std.TreeMap α β) : (t.toList.map (·.1)).Nodup := by
  rw [List.nodup_iff_pairwise_ne, List.pairwise_map]
  refine Std.TreeMap.distinct_keys_toList.imp fun hne heq => hne ?_
  rw [heq]
  exact Std.ReflCmp.compare_self

end Erasing

namespace Holdings

/-! ## Ids -/

/-- No two entries of a collection hold the same record. -/
theorem nodup_ids (h : Holdings) (ns : Namespace) : (h.ids ns).Nodup := by
  unfold ids entries
  cases h with
  | collections m =>
    rw [List.filterMap_map]
    have names : ((m[ns]?).getD ∅).toList.filterMap (Entry.id? ∘ fun r => Entry.record r.1 r.2) =
        ((m[ns]?).getD ∅).toList.map (·.1) := by
      rw [← List.filterMap_eq_map]
      rfl
    rw [names]
    exact nodup_keys _
  | partitions p =>
    cases KeyedStore.openName ns with
    | error e => exact List.nodup_nil
    | ok name =>
      simp only
      rw [List.filterMap_map]
      have keys := List.pairwise_map.mp (nodup_keys ((p[name]?).getD ∅))
      refine keys.filterMap _ fun e e' hne id hid id' hid' heq => hne ?_
      have hkey := (id?_stored_eq_some_iff e.1 e.2 id).mp hid
      have hkey' := (id?_stored_eq_some_iff e'.1 e'.2 id').mp hid'
      rw [hkey, hkey', heq]

/-- An entry of a collection is known by the id of the record that it holds. -/
theorem eq_of_id?_eq {h : Holdings} {ns : Namespace} {e e' : Entry} {id : RecordId}
    (he : e ∈ h.entries ns) (he' : e' ∈ h.entries ns) (hid : e.id? = some id)
    (hid' : e'.id? = some id) : e = e' := by
  have distinct : ((h.entries ns).filterMap Entry.id?).Nodup := h.nodup_ids ns
  generalize h.entries ns = entries at he he' distinct
  induction entries with
  | nil => cases he
  | cons first rest ih =>
    have away : ∀ other ∈ rest, first.id? = some id → other.id? ≠ some id := by
      intro other hother hfirst heq
      rw [List.filterMap_cons_some hfirst, List.nodup_cons] at distinct
      exact distinct.1 (List.mem_filterMap.mpr ⟨other, hother, heq⟩)
    have later : (rest.filterMap Entry.id?).Nodup :=
      distinct.sublist ((List.sublist_cons_self first rest).filterMap _)
    obtain rfl | hrest := List.mem_cons.mp he
    · obtain rfl | hrest' := List.mem_cons.mp he'
      · rfl
      · exact absurd hid' (away e' hrest' hid)
    · obtain rfl | hrest' := List.mem_cons.mp he'
      · exact absurd hid (away e hrest hid')
      · exact ih hrest hrest' later

/-- A partition has the key of a record exactly if it holds the record. -/
theorem contains_keyOf_iff (part : Partition) (id : RecordId) :
    part.contains (KeyedStore.keyOf id) ↔
      ∃ e ∈ part.toList, (Entry.stored e.1 e.2).id? = some id := by
  constructor
  · intro h
    obtain ⟨text, htext⟩ := Option.isSome_iff_exists.mp
      (Std.TreeMap.isSome_getElem?_eq_contains.trans h)
    exact ⟨(KeyedStore.keyOf id, text),
      Std.TreeMap.mem_toList_iff_getElem?_eq_some.mpr htext,
      (id?_stored_eq_some_iff _ _ _).mpr rfl⟩
  · rintro ⟨⟨key, text⟩, hmem, hid⟩
    rw [← (id?_stored_eq_some_iff _ _ _).mp hid, ← Std.TreeMap.isSome_getElem?_eq_contains,
      Std.TreeMap.mem_toList_iff_getElem?_eq_some.mp hmem]
    rfl

/-- The entries that hold listed records are as many as the listed ids that are there, if these are
given without repeats. -/
theorem countP_isOneOf_eq (h : Holdings) (ns : Namespace) {ids found : List RecordId}
    (distinct : found.Nodup) (same : ∀ id, id ∈ found ↔ id ∈ ids ∧ id ∈ h.ids ns) :
    (h.entries ns).countP (·.isOneOf ids) = found.length := by
  have listed : ((h.ids ns).filter (ids.contains ·)).Perm found := by
    rw [List.perm_ext_iff_of_nodup ((h.nodup_ids ns).filter _) distinct]
    intro id
    simp only [List.mem_filter, List.contains_iff_mem, same, and_comm]
  have counted : (h.entries ns).countP (·.isOneOf ids) = (h.ids ns).countP (ids.contains ·) := by
    rw [Holdings.ids, List.countP_filterMap]
    refine List.countP_congr fun e _ => ?_
    unfold Entry.isOneOf
    cases e.id? <;> simp
  rw [counted, List.countP_eq_length_filter, listed.length_eq]

/-- The entries that hold distinct records of a collection are as many as these records. -/
theorem countP_isOneOf (h : Holdings) (ns : Namespace) {ids : List RecordId} (distinct : ids.Nodup)
    (present : ∀ id ∈ ids, id ∈ h.ids ns) :
    (h.entries ns).countP (·.isOneOf ids) = ids.length :=
  h.countP_isOneOf_eq ns distinct fun id => ⟨fun listed => ⟨listed, present id listed⟩, And.left⟩

/-! ## Removing -/

theorem foldl_erase_keyOf (ids : List RecordId) (part : Partition) :
    ids.foldl (fun r id => r.erase (KeyedStore.keyOf id)) part =
      (ids.map KeyedStore.keyOf).foldl (fun r key => r.erase key) part :=
  List.foldl_map.symm

/-- **What removing leaves.**  The entries that hold none of the ids, each as it was and in its
place. -/
theorem entries_without (h : Holdings) (ns : Namespace) (ids : List RecordId) :
    (h.without ns ids).entries ns = (h.entries ns).filter (fun e => !e.isOneOf ids) := by
  cases h with
  | collections c =>
    simp only [without, entries]
    rw [Std.TreeMap.getElem?_insert_self, Option.getD_some, toList_foldl_erase, List.filter_map]
    rfl
  | partitions p =>
    cases hname : KeyedStore.openName ns with
    | error e => simp [without, entries, hname]
    | ok name =>
      simp only [without, entries, hname]
      rw [Std.TreeMap.getElem?_insert_self, Option.getD_some,
        foldl_erase_keyOf, toList_foldl_erase, List.filter_map]
      refine congrArg _ (List.filter_congr fun e he => congrArg _ ?_)
      rw [Bool.eq_iff_iff, List.contains_iff_mem, Entry.isOneOf_iff]
      simp only [List.mem_map, KeyedStore.existing, List.mem_filter]
      constructor
      · rintro ⟨id, ⟨hid, -⟩, hkey⟩
        exact ⟨id, hid, (id?_stored_eq_some_iff _ _ _).mpr hkey.symm⟩
      · rintro ⟨id, hid, hread⟩
        exact ⟨id, ⟨hid, (contains_keyOf_iff _ id).mpr ⟨e, he, hread⟩⟩,
          ((id?_stored_eq_some_iff _ _ _).mp hread).symm⟩

/-- The entries that are left and those that have gone are as many as there were. -/
theorem length_entries_without (h : Holdings) (ns : Namespace) (ids : List RecordId) :
    (h.entries ns).length =
      ((h.without ns ids).entries ns).length + (h.entries ns).countP (·.isOneOf ids) := by
  have others : (h.entries ns).countP (fun e => !e.isOneOf ids) =
      (h.entries ns).countP fun e => decide ¬e.isOneOf ids = true :=
    List.countP_congr fun e _ => by simp
  rw [entries_without, ← List.countP_eq_length_filter, others, Nat.add_comm]
  exact List.length_eq_countP_add_countP fun e : Entry => e.isOneOf ids

/-- The ids that are left. -/
theorem ids_without (h : Holdings) (ns : Namespace) (gone : List RecordId) :
    (h.without ns gone).ids ns = (h.ids ns).filter (fun id => !gone.contains id) := by
  rw [Holdings.ids, entries_without, Holdings.ids, List.filterMap_filter, List.filter_filterMap]
  refine List.filterMap_congr fun e _ => ?_
  unfold Entry.isOneOf
  cases e.id? with
  | none => simp
  | some id => by_cases hid : id ∈ gone <;> simp [hid, Option.filter]

end Holdings

end PacedPurge
