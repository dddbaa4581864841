import PacedPurge.Proofs.Bucket.Asking

/-!
# Writes

What clients write to a store besides a stream of rows that is being read: records that are added or
replaced, deletes, and transactions that are committed.

A write acts key by key.  What becomes of the text under a key depends on the write and on that text
alone (`Write.effect`), and nothing becomes of a key that the write does not address
(`Write.effect_of_apart`), so that for this key the write may be left out
(`Write.Without.effects_eq`).  `Write.perform_keyed` says all that later proofs use of writes to a
keyed store.
-/

namespace PacedPurge

/-- What a client writes. -/
inductive Write where
  /-- Records are added, each in place of the one that had its id. -/
  | insert (ns : Namespace) (docs : List (RecordId × Document))
  | delete (ns : Namespace) (ids : List RecordId) (concern : WriteConcern)
  | commit (txn : Transaction)

namespace Write

/-- The store after a write, which nothing disturbs; one that fails may leave it as it is. -/
def perform (w : Write) (s : Store) : Store :=
  match w with
  | .insert ns docs =>
    match s.insertAll ns docs with
    | .ok (_, after) => after
    | .error _ => s
  | .delete ns ids concern =>
    ((s.enter (.delete ns ids concern)).2.leave (.delete ns ids concern)).2
  | .commit txn => ((s.enter (.commit txn)).2.leave (.commit txn)).2

/-- The records that are put in a collection or taken out. -/
def addresses : Write → List (Namespace × RecordId)
  | .insert ns docs => docs.map fun d => (ns, d.1)
  | .delete ns ids _ => ids.map fun id => (ns, id)
  | .commit txn => txn.staged.flatMap fun entry => entry.2.map fun id => (entry.1, id)

end Write

namespace KeyedStore

/-! ## Key by key -/

/-- What becomes of the text under a key when records are added. -/
def replaced (docs : List (RecordId × Document)) (key : Key) (text : Option String) :
    Option String :=
  docs.foldl (fun text d => if keyOf d.1 = key then some (encode d.2) else text) text

/-- Whether a delete takes effect on a key of a partition. -/
def erases (ns : Namespace) (ids : List RecordId) (name : String) (key : Key) : Bool :=
  decide (openName ns = .ok name) && hasKeys ids && (ids.map keyOf).contains key

/-- Whether a commit takes effect on a key of a partition. -/
def commitErases (name : String) (key : Key) : List (Namespace × List RecordId) → Bool
  | [] => false
  | (ns, ids) :: rest =>
    erases ns ids name key || ((openName ns).toBool && hasKeys ids && commitErases name key rest)

theorem partition_setPartition (k : KeyedStore) (own : String) (p : Partition) (name : String) :
    (k.setPartition own p).partition name = if own = name then p else k.partition name := by
  simp only [partition, setPartition, Std.TreeMap.getElem?_insert,
    Std.LawfulEqCmp.compare_eq_iff_eq]
  split <;> rfl

theorem get_foldl_insert (docs : List (RecordId × Document)) (p : Partition) (key : Key) :
    (docs.foldl (fun p d => p.insert (keyOf d.1) (encode d.2)) p)[key]? =
      replaced docs key p[key]? := by
  induction docs generalizing p with
  | nil => rfl
  | cons d rest ih =>
    rw [List.foldl_cons, ih, Std.TreeMap.getElem?_insert]
    simp only [replaced, List.foldl_cons, Std.LawfulEqCmp.compare_eq_iff_eq]

theorem get_foldl_erase (p : Partition) (ids : List RecordId) (key : Key) :
    ((existing p ids).foldl (fun p id => p.erase (keyOf id)) p)[key]? =
      if (ids.map keyOf).contains key then none else p[key]? := by
  rw [Holdings.foldl_erase_keyOf, getElem?_foldl_erase]
  by_cases listed : (ids.map keyOf).contains key
  · rw [if_pos listed]
    by_cases held : p.contains key
    · have found : key ∈ (existing p ids).map keyOf := by
        obtain ⟨id, hid, rfl⟩ := List.mem_map.mp (List.contains_iff_mem.mp listed)
        exact List.mem_map_of_mem (List.mem_filter.mpr ⟨hid, held⟩)
      rw [if_pos found]
    · have absent : p[key]? = none :=
        Std.TreeMap.getElem?_eq_none_of_contains_eq_false (Bool.eq_false_iff.mpr held)
      rw [absent, ite_self]
  · have apart : key ∉ (existing p ids).map keyOf := by
      intro hkey
      obtain ⟨id, hid, rfl⟩ := List.mem_map.mp hkey
      exact listed (List.contains_iff_mem.mpr (List.mem_map_of_mem (List.mem_of_mem_filter hid)))
    rw [if_neg apart, if_neg listed]

theorem get_delete (k : KeyedStore) (ns : Namespace) (ids : List RecordId)
    (concern : WriteConcern) (name : String) (key : Key) :
    ((k.delete ns ids concern).2.partition name)[key]? =
      if erases ns ids name key then none else (k.partition name)[key]? := by
  unfold erases
  cases hname : openName ns with
  | error e => simp [delete_of_refused hname]
  | ok own =>
    rw [delete_of_openName hname]
    by_cases short : hasKeys ids
    · simp only [if_pos short, remove, partition_setPartition]
      by_cases same : own = name
      · subst same
        rw [if_pos rfl, get_foldl_erase]
        simp [short]
      · simp [same]
    · simp [short]

/-- Whether a delete succeeds does not depend on what is there. -/
theorem delete_ok_iff (k : KeyedStore) (ns : Namespace) (ids : List RecordId)
    (concern : WriteConcern) :
    (∃ n, (k.delete ns ids concern).1 = .ok n) ↔ (openName ns).toBool && hasKeys ids := by
  cases hname : openName ns with
  | error e => simp [delete_of_refused hname, Except.toBool]
  | ok own =>
    rw [delete_of_openName hname]
    by_cases short : hasKeys ids <;> simp [short, Except.toBool]

theorem get_removeStaged (k : KeyedStore) (concern : WriteConcern)
    (staged : List (Namespace × List RecordId)) (name : String) (key : Key) :
    ((k.removeStaged concern staged).2.partition name)[key]? =
      if commitErases name key staged then none else (k.partition name)[key]? := by
  induction staged generalizing k with
  | nil => rfl
  | cons entry rest ih =>
    obtain ⟨ns, ids⟩ := entry
    have first := get_delete k ns ids concern name key
    have goesOn := delete_ok_iff k ns ids concern
    unfold removeStaged commitErases
    generalize k.delete ns ids concern = r at first goesOn
    obtain ⟨answer, reached⟩ := r
    cases answer with
    | error e =>
      have stops : ((openName ns).toBool && hasKeys ids) = false := by simpa using goesOn
      simp only [stops, Bool.false_and, Bool.or_false]
      exact first
    | ok n =>
      have goes : ((openName ns).toBool && hasKeys ids) = true := by simpa using goesOn
      simp only [goes, Bool.true_and, ih, first]
      cases commitErases name key rest <;> cases erases ns ids name key <;> rfl

end KeyedStore

/-! ## Writes to a keyed store -/

namespace Write

/-- What becomes of the text under a key of a partition. -/
def effect (w : Write) (name : String) (key : Key) (text : Option String) : Option String :=
  match w with
  | .insert ns docs =>
    if KeyedStore.openName ns = .ok name ∧ KeyedStore.canKeep docs then
      KeyedStore.replaced docs key text
    else text
  | .delete ns ids _ => if KeyedStore.erases ns ids name key then none else text
  | .commit txn => if KeyedStore.commitErases name key txn.staged then none else text

/-- What becomes of the text under a key with some writes, one after another. -/
def effects (ws : List Write) (name : String) (key : Key) (text : Option String) : Option String :=
  ws.foldl (fun text w => w.effect name key text) text

theorem get_insertAll {k k' : KeyedStore} {ns : Namespace} {docs : List (RecordId × Document)}
    {n : Nat} (h : k.insertAll ns docs = .ok (n, k')) (name : String) (key : Key) :
    (k'.partition name)[key]? = effect (.insert ns docs) name key (k.partition name)[key]? := by
  obtain ⟨own, hname, keeps, -, rfl⟩ := KeyedStore.insertAll_eq_ok_iff.mp h
  simp only [effect, hname, Except.ok.injEq, keeps, and_true, KeyedStore.partition_setPartition]
  split
  · next same =>
    subst same
    exact KeyedStore.get_foldl_insert docs _ key
  · rfl

/-- **What a write to a keyed store does.**  It leaves the tickets as they are, and acts on each key
of each partition by itself. -/
theorem perform_keyed (w : Write) (k : KeyedStore) :
    ∃ k', w.perform (.keyed k) = .keyed k' ∧
      (Store.keyed k').admitsPages = (Store.keyed k).admitsPages ∧
      ∀ name key, (k'.partition name)[key]? = w.effect name key (k.partition name)[key]? := by
  cases w with
  | insert ns docs =>
    cases h : k.insertAll ns docs with
    | error e =>
      refine ⟨k, by simp [perform, Store.insertAll, h, Except.map], rfl, fun name key => ?_⟩
      have refused : ¬(KeyedStore.openName ns = .ok name ∧ KeyedStore.canKeep docs) := by
        rintro ⟨opens, keeps⟩
        have added := (KeyedStore.insertAll_eq_ok_iff (k := k)).mpr ⟨name, opens, keeps, rfl, rfl⟩
        rw [h] at added
        cases added
      rw [effect, if_neg refused]
    | ok r =>
      obtain ⟨n, k'⟩ := r
      refine ⟨k', by simp [perform, Store.insertAll, h, Except.map], ?_, get_insertAll h⟩
      obtain ⟨own, -, -, -, rfl⟩ := KeyedStore.insertAll_eq_ok_iff.mp h
      rfl
  | delete ns ids concern =>
    refine ⟨_, rfl, Store.admitsPages_serve (.keyed k) (.delete ns ids concern) (fun read => ?_),
      fun name key => KeyedStore.get_delete _ ns ids concern name key⟩
    cases read
  | commit txn =>
    refine ⟨_, rfl, Store.admitsPages_serve (.keyed k) (.commit txn) (fun read => ?_),
      fun name key => KeyedStore.get_removeStaged _ txn.concern txn.staged name key⟩
    cases read

/-- Writes to a keyed store, one after another. -/
theorem performAll_keyed (ws : List Write) (k : KeyedStore) :
    ∃ k', ws.foldl (fun s w => w.perform s) (.keyed k) = .keyed k' ∧
      (Store.keyed k').admitsPages = (Store.keyed k).admitsPages ∧
      ∀ name key, (k'.partition name)[key]? = effects ws name key (k.partition name)[key]? := by
  induction ws generalizing k with
  | nil => exact ⟨k, rfl, rfl, fun _ _ => rfl⟩
  | cons w rest ih =>
    obtain ⟨k₁, hone, tickets₁, get₁⟩ := w.perform_keyed k
    obtain ⟨k', hrest, tickets, get⟩ := ih k₁
    refine ⟨k', by rw [List.foldl_cons, hone, hrest], tickets.trans tickets₁, fun name key => ?_⟩
    rw [get, get₁]
    rfl

/-! ## Keys that are not addressed -/

section Apart

variable {w : Write} {name : String} {key : Key} {text : Option String}

/-- Whether a write puts a record under the key of a partition or takes it out. -/
def Concerns (w : Write) (name : String) (key : Key) : Prop :=
  ∃ a ∈ w.addresses, KeyedStore.openName a.1 = .ok name ∧ KeyedStore.keyOf a.2 = key

theorem erases_of_apart {ns : Namespace} {ids : List RecordId}
    (h : ∀ id ∈ ids, ¬(KeyedStore.openName ns = .ok name ∧ KeyedStore.keyOf id = key)) :
    KeyedStore.erases ns ids name key = false := by
  rw [Bool.eq_false_iff]
  intro hit
  simp only [KeyedStore.erases, Bool.and_eq_true, decide_eq_true_eq, List.contains_iff_mem,
    List.mem_map] at hit
  obtain ⟨⟨hname, -⟩, id, hid, hkey⟩ := hit
  exact h id hid ⟨hname, hkey⟩

/-- **A write does nothing to a key that it does not address.** -/
theorem effect_of_apart (apart : ¬w.Concerns name key) : w.effect name key text = text := by
  cases w with
  | insert ns docs =>
    simp only [effect]
    split
    · next opens =>
      have others : ∀ d ∈ docs, KeyedStore.keyOf d.1 ≠ key := fun d hd hkey =>
        apart ⟨(ns, d.1), List.mem_map_of_mem hd, opens.1, hkey⟩
      clear apart opens
      induction docs with
      | nil => rfl
      | cons d rest ih =>
        simp only [KeyedStore.replaced, List.foldl_cons, if_neg (others d List.mem_cons_self)]
        exact ih fun d hd => others d (List.mem_cons_of_mem _ hd)
    · rfl
  | delete ns ids concern =>
    have missed := erases_of_apart fun id hid hit =>
      apart ⟨(ns, id), List.mem_map_of_mem hid, hit.1, hit.2⟩
    simp [effect, missed]
  | commit txn =>
    have missed : KeyedStore.commitErases name key txn.staged = false := by
      have others : ∀ entry ∈ txn.staged, ∀ id ∈ entry.2,
          ¬(KeyedStore.openName entry.1 = .ok name ∧ KeyedStore.keyOf id = key) :=
        fun entry hentry id hid hit => apart ⟨(entry.1, id),
          List.mem_flatMap.mpr ⟨entry, hentry, List.mem_map_of_mem hid⟩, hit.1, hit.2⟩
      clear apart
      generalize txn.staged = staged at others
      induction staged with
      | nil => rfl
      | cons entry rest ih =>
        have later := ih fun entry hentry => others entry (List.mem_cons_of_mem _ hentry)
        have here := erases_of_apart (others entry List.mem_cons_self)
        simp only [KeyedStore.commitErases, later, here, Bool.and_false, Bool.or_false]
    simp [effect, missed]

theorem effects_of_apart {ws : List Write} (apart : ∀ w ∈ ws, ¬w.Concerns name key) :
    effects ws name key text = text := by
  induction ws generalizing text with
  | nil => rfl
  | cons w rest ih =>
    have here : w.effect name key text = text := effect_of_apart (apart w List.mem_cons_self)
    simp only [effects, List.foldl_cons, here]
    exact ih fun w hw => apart w (List.mem_cons_of_mem _ hw)

/-- The same writes, but for some that are left out. -/
inductive Without (dropped : Write → Prop) : List Write → List Write → Prop
  | nil : Without dropped [] []
  | keep {w : Write} {ws ws' : List Write} (rest : Without dropped ws ws') :
      Without dropped (w :: ws) (w :: ws')
  | drop {w : Write} {ws ws' : List Write} (out : dropped w) (rest : Without dropped ws ws') :
      Without dropped (w :: ws) ws'

/-- Writes that do not address a key may be left out. -/
theorem Without.effects_eq {dropped : Write → Prop} {ws ws' : List Write}
    (h : Without dropped ws ws') (apart : ∀ w, dropped w → ¬w.Concerns name key) :
    effects ws name key text = effects ws' name key text := by
  induction h generalizing text with
  | nil => rfl
  | keep rest ih => exact ih
  | @drop w ws ws' out rest ih =>
    have here : w.effect name key text = text := effect_of_apart (apart w out)
    simp only [effects, List.foldl_cons, here]
    exact ih

end Apart

end Write

namespace KeyedStore

/-- Partitions that hold the same behind a cursor show the same there. -/
theorem entriesAfter_congr {p p' : Partition} {cursor : Option Key}
    (same : ∀ key, isAfter cursor key = true → p[key]? = p'[key]?) :
    entriesAfter p cursor = entriesAfter p' cursor := by
  have alike : (p.filter fun key _ => isAfter cursor key).Equiv
      (p'.filter fun key _ => isAfter cursor key) := by
    refine Std.TreeMap.Equiv.of_forall_constGet?_eq fun key => ?_
    rw [Std.TreeMap.getElem?_filter', Std.TreeMap.getElem?_filter']
    cases hkey : isAfter cursor key with
    | true => rw [same key hkey]
    | false => cases p[key]? <;> cases p'[key]? <;> simp [Option.filter]
  rw [entriesAfter_eq_filter, entriesAfter_eq_filter]
  have listed := alike.toList_eq
  rwa [Std.TreeMap.toList_filter, Std.TreeMap.toList_filter] at listed

end KeyedStore

end PacedPurge
