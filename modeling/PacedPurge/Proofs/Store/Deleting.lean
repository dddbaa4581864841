import Mathlib
import PacedPurge.Proofs.Store.Service
import PacedPurge.Proofs.Store.Staging

/-!
# What a delete removes, and what it says

A delete is a call as others are, which goes on at some moments until it is answered.  Nothing
happens to the records before the answer, and nothing if it is an error.  If it is a number, the
collection has lost the listed records, each once however often it is listed, and everything else
is as it was (`Holdings.Loses`).

The number is not the same in both stores.  A store in memory takes one record away after another
and counts those that were there when their turn came, so that a record is counted once.  A keyed
store counts the listed ids of which it finds a record, before it removes anything, and an id that
is listed twice is found twice.  The number is right in either store if no id of a record that is
there is listed twice, and in a keyed store only then (`Call.delete_removes_and_reports`).

A keyed store syncs its journal behind a delete if a majority is to know of it.  Calls take it for
granted that this succeeds.  Where it does not, the records have gone all the same, but the answer
is the error of the sync unless there was nothing to remove (`KeyedStore.loses_unsynced`).
-/

namespace PacedPurge

variable {α : Type}

namespace Holdings

/-! ## What is lost -/

/-- A collection has lost the listed records, and nothing else has changed. -/
structure Loses (h : Holdings) (ns : Namespace) (ids : List RecordId) (h' : Holdings) : Prop where
  /-- The entries of other records are as they were, and in their places. -/
  spared : h'.entries ns = (h.entries ns).filter fun e => !e.isOneOf ids
  /-- So is everything that the collection has no share in. -/
  others : ∀ other, h.Apart ns other → h'.entries other = h.entries other

theorem loses_without (h : Holdings) (ns : Namespace) (ids : List RecordId) :
    h.Loses ns ids (h.without ns ids) where
  spared := entries_without h ns ids
  others _ apart := entries_without_of_apart apart ids

/-- Collections that are not apart have the same entries. -/
theorem entries_eq_of_not_apart {h : Holdings} {ns other : Namespace} (joint : ¬h.Apart ns other)
    (ids : List RecordId) : h.entries other = h.entries ns ∧
      (h.without ns ids).entries other = (h.without ns ids).entries ns := by
  cases h with
  | collections c =>
    obtain rfl : ns = other := not_not.mp joint
    exact ⟨rfl, rfl⟩
  | partitions p =>
    simp only [Apart, not_forall, not_not] at joint
    obtain ⟨name, opens, shared⟩ := joint
    simp only [entries, without, opens, shared, and_self]

/-- Removing records that are not there leaves everything as it is. -/
theorem entries_without_of_absent {h : Holdings} {ns : Namespace} {ids : List RecordId}
    (absent : ∀ e ∈ h.entries ns, e.isOneOf ids = false) (other : Namespace) :
    (h.without ns ids).entries other = h.entries other := by
  by_cases apart : h.Apart ns other
  · exact entries_without_of_apart apart ids
  · obtain ⟨before, after⟩ := entries_eq_of_not_apart apart ids
    rw [after, before, entries_without, List.filter_eq_self]
    intro e he
    rw [absent e he]
    rfl

/-- What has been removed is not there. -/
theorem absent_of_without {h : Holdings} {ns : Namespace} {ids : List RecordId} {e : Entry}
    (he : e ∈ (h.without ns ids).entries ns) : e.isOneOf ids = false := by
  rw [entries_without, List.mem_filter] at he
  simpa using he.2

end Holdings

namespace Store

/-! ## What is counted -/

/-- The entries that hold listed records are as many as the listed ids that are there, each counted
once. -/
theorem countP_isOneOf_eq_dedup (s : Store) (ns : Namespace) (ids : List RecordId) :
    (s.holdings.entries ns).countP (·.isOneOf ids) = (s.present ns ids).dedup.length := by
  apply Holdings.countP_isOneOf_eq _ ns (List.nodup_dedup _)
  intro id
  rw [List.mem_dedup, mem_present]

/-- No listed id is there once the records have been removed. -/
theorem present_eq_nil {s : Store} {ns : Namespace} {ids : List RecordId}
    (absent : ∀ e ∈ s.holdings.entries ns, e.isOneOf ids = false) : s.present ns ids = [] := by
  rw [List.eq_nil_iff_forall_not_mem]
  intro id hid
  obtain ⟨listed, there⟩ := mem_present.mp hid
  obtain ⟨e, he, read⟩ := List.mem_filterMap.mp there
  have hit : e.isOneOf ids = true := Entry.isOneOf_iff.mpr ⟨id, listed, read⟩
  rw [absent e he] at hit
  cases hit

variable {s : Store} {ns : Namespace} {ids : List RecordId} {concern : WriteConcern} {n : Nat}

/-- A delete that succeeds says how many of the listed ids are there.  A keyed store counts repeated
ids as often as they are listed. -/
theorem count_leave_delete_present (h : (s.leave (.delete ns ids concern)).1 = .ok n) :
    n = (if s.isKeyed then s.present ns ids else (s.present ns ids).dedup).length := by
  rw [count_leave_delete_eq h, countP_isOneOf_eq_dedup]
  split <;> rfl

/-- Each record that goes is counted once, unless it is one of a keyed store and listed twice. -/
theorem count_exact_iff (h : (s.leave (.delete ns ids concern)).1 = .ok n) :
    n = (s.present ns ids).dedup.length ↔ (s.isKeyed → (s.present ns ids).Nodup) := by
  rw [count_leave_delete_present h]
  cases s.isKeyed with
  | false => simp
  | true =>
    rw [if_pos rfl, eq_comm, (List.dedup_sublist _).length_eq, List.dedup_eq_self]
    exact ⟨fun nodup _ => nodup, fun nodup => nodup rfl⟩

/-- Records that are not there are not counted. -/
theorem count_leave_delete_absent (h : (s.leave (.delete ns ids concern)).1 = .ok n)
    (absent : ∀ e ∈ s.holdings.entries ns, e.isOneOf ids = false) : n = 0 := by
  rw [count_leave_delete_present h, present_eq_nil absent]
  simp

/-! ## When a delete succeeds -/

theorem canRemove_of_delete (h : (s.leave (.delete ns ids concern)).1 = .ok n) :
    s.CanRemove ns ids := by
  cases s with
  | memory m => exact fun keyed => by cases keyed
  | keyed k =>
    have able := (KeyedStore.delete_ok_iff k ns ids concern).mp ⟨n, h⟩
    exact fun _ => by simpa using able

/-- Whether records can be removed depends on the kind of the store. -/
theorem CanRemove.of_without {s' : Store} (can : s.CanRemove ns ids)
    (left : s'.holdings = s.holdings.without ns ids) : s'.CanRemove ns ids := by
  refine fun keyed => can ?_
  cases s with
  | keyed k => rfl
  | memory m =>
    cases s' with
    | memory m' => cases keyed
    | keyed k' => cases left

end Store

/-! ## The journal -/

namespace KeyedStore

variable (k : KeyedStore) {ns : Namespace} {ids : List RecordId} {concern : WriteConcern}

theorem holdings_delete : (Store.keyed (k.delete ns ids concern).2).holdings =
    match (k.delete ns ids concern).1 with
    | .ok _ => (Store.keyed k).holdings.without ns ids
    | .error _ => (Store.keyed k).holdings := by
  have left := Store.holdings_leave_delete (.keyed k) ns ids concern
  simp only [Store.leave, leave, perform, Store.holdings, Store.partitions_release] at left
  exact left

/-- A delete that is refused does not come to a sync. -/
theorem refused_unsynced {e refused : StoreError}
    (h : (k.delete ns ids concern).1 = .error refused) :
    (k.deleteSyncing (.error e) ns ids concern).1 = .error refused ∧
      (Store.keyed (k.deleteSyncing (.error e) ns ids concern).2).holdings =
        (Store.keyed k).holdings := by
  rw [deleteSyncing_eq, holdings_delete, h]
  exact ⟨rfl, rfl⟩

/-- **A delete whose sync fails** has taken effect, and says so only if nobody had to know or there
was nothing to remove. -/
theorem loses_unsynced {e : StoreError} {n : Nat} (h : (k.delete ns ids concern).1 = .ok n) :
    (Store.keyed k).holdings.Loses ns ids
        (Store.keyed (k.deleteSyncing (.error e) ns ids concern).2).holdings ∧
      (k.deleteSyncing (.error e) ns ids concern).1 =
        if n ≠ 0 ∧ concern = .majority then .error e else .ok n := by
  rw [deleteSyncing_eq, holdings_delete, h]
  exact ⟨Holdings.loses_without _ ns ids, rfl⟩

end KeyedStore

namespace Call

/-- A delete of records that are not there changes nothing, and reports none. -/
theorem delete_of_absent {c : Call Nat} {site : Site} {ns : Namespace} {ids : List RecordId}
    {concern : WriteConcern} (request : c.request = .delete ns ids concern)
    (absent : ∀ e ∈ site.store.holdings.entries ns, e.isOneOf ids = false) :
    (∀ other, (c.advance site).2.store.holdings.entries other =
      site.store.holdings.entries other) ∧
    ∀ m, (c.advance site).1 = .answered (.ok m) → m = 0 := by
  have step := c.step_advance site
  generalize (c.advance site).1 = outcome at step
  cases step with
  | goesOn same kept => exact ⟨fun other => by rw [kept], nofun⟩
  | turnedAway kept => exact ⟨fun other => by rw [kept], nofun⟩
  | served left =>
    rw [request] at left ⊢
    refine ⟨fun other => ?_, fun m answered => ?_⟩
    · rw [left, Store.holdings_leave_delete]
      split
      · exact Holdings.entries_without_of_absent absent other
      · rfl
    · exact Store.count_leave_delete_absent (Outcome.answered.inj answered) absent

/-- **What a delete removes and reports.**  Up to the answer the records are left as they are, and
so they are if the answer is an error.  If it is a number, the collection has lost the listed
records and nothing else has changed.  It has shrunk by the listed ids that were there, each counted
once; the number counts them so in memory, and as often as they are listed in a keyed store, where
it is what the collection has shrunk by exactly if no id that was there is listed twice.

The same delete made again, with the records as they have been left, changes nothing.  If it
succeeds, it says that it removed nothing, and a store in which nothing goes wrong lets it
succeed.

All this takes it for granted that a keyed store can sync its journal.  If the sync fails with some
error, a delete that would be refused is refused as before, and nothing changes; and a delete that
would succeed makes the collection lose the listed records as before, but it is answered with that
error exactly if it would report a record and a majority is to know of it. -/
theorem delete_removes_and_reports (ns : Namespace) (ids : List RecordId) (concern : WriteConcern)
    (moments : List Site) :
    (∀ x ∈ (Call.start (.delete ns ids concern)).stages moments,
      let before := x.2.store
      let after := (x.1.advance x.2).2.store
      match (x.1.advance x.2).1 with
      | .waiting _ => after.holdings = before.holdings
      | .answered (.error _) => after.holdings = before.holdings
      | .answered (.ok n) =>
        before.holdings.Loses ns ids after.holdings ∧
        (before.holdings.entries ns).length =
          (after.holdings.entries ns).length + (before.present ns ids).dedup.length ∧
        n = (if before.isKeyed then before.present ns ids
          else (before.present ns ids).dedup).length ∧
        (n + (after.holdings.entries ns).length = (before.holdings.entries ns).length ↔
          (before.isKeyed → (before.present ns ids).Nodup)) ∧
        ∀ again, ∀ y ∈ (Call.start (.delete ns ids concern)).stages again,
          y.2.store.holdings = after.holdings →
            (∀ other, (y.1.advance y.2).2.store.holdings.entries other =
              after.holdings.entries other) ∧
            (∀ m, (y.1.advance y.2).1 = .answered (.ok m) → m = 0) ∧
            (y.2.store.Faultless → (y.2.store.leave y.1.request).1 = .ok 0)) ∧
    ∀ (k : KeyedStore) (e : StoreError),
      let synced := k.delete ns ids concern
      let unsynced := k.deleteSyncing (.error e) ns ids concern
      (∀ refused, synced.1 = .error refused → unsynced.1 = .error refused ∧
        (Store.keyed unsynced.2).holdings = (Store.keyed k).holdings) ∧
      ∀ n, synced.1 = .ok n →
        (Store.keyed k).holdings.Loses ns ids (Store.keyed unsynced.2).holdings ∧
        unsynced.1 = if n ≠ 0 ∧ concern = .majority then .error e else .ok n := by
  refine ⟨?_, fun k e => ⟨fun _ => k.refused_unsynced, fun _ => k.loses_unsynced⟩⟩
  intro x hx before after
  have request : x.1.request = .delete ns ids concern := request_of_mem_stages hx
  have step := x.1.step_advance x.2
  generalize outcome : (x.1.advance x.2).1 = reached at step
  cases step with
  | goesOn same kept => exact kept
  | turnedAway kept => exact kept
  | served left =>
    rw [request] at left outcome ⊢
    have removed := before.holdings_leave_delete ns ids concern
    cases answered : (before.leave (.delete ns ids concern)).1 with
    | error e =>
      rw [answered, ← left] at removed
      exact removed
    | ok n =>
      rw [answered, ← left] at removed
      have shrunk : (before.holdings.entries ns).length =
          (after.holdings.entries ns).length + (before.present ns ids).dedup.length := by
        rw [removed, ← Store.countP_isOneOf_eq_dedup]
        exact Holdings.length_entries_without _ ns ids
      have exact_iff :
          n + (after.holdings.entries ns).length = (before.holdings.entries ns).length ↔
            (before.isKeyed → (before.present ns ids).Nodup) := by
        rw [shrunk, Nat.add_comm, Nat.add_left_cancel_iff]
        exact Store.count_exact_iff answered
      refine ⟨removed ▸ Holdings.loses_without _ ns ids, shrunk,
        Store.count_leave_delete_present answered, exact_iff, ?_⟩
      intro again y hy same
      have request' : y.1.request = .delete ns ids concern := request_of_mem_stages hy
      have absent : ∀ e ∈ y.2.store.holdings.entries ns, e.isOneOf ids = false := by
        rw [same, removed]
        exact fun e he => Holdings.absent_of_without he
      obtain ⟨kept, none⟩ := delete_of_absent request' absent
      refine ⟨fun other => by rw [kept, same], none, fun faultless => ?_⟩
      have can : y.2.store.CanRemove ns ids :=
        (Store.canRemove_of_delete answered).of_without (same.trans removed)
      obtain ⟨m, hm⟩ := Store.answer_delete_of_canRemove faultless can concern
      rw [request', hm, Store.count_leave_delete_absent hm absent]

/-- Of two orders one is listed twice, and an order that is not there is listed too.  The order
goes, the other stays, and the keyed store says that it removed two. -/
theorem delete_removes_and_reports_orders :
    let ns : Namespace := ⟨"crm", "orders"⟩
    let site : Site := { store := .keyed .twoOrders }
    let moments : List Site := [site, site, site, site]
    let ids : List RecordId := [⟨"a"⟩, ⟨"z"⟩, ⟨"a"⟩]
    ∃ x ∈ (Call.start (.delete ns ids .majority)).stages moments, x.2 = site ∧
      (x.1.advance x.2).1 = .answered (.ok 2) ∧
      (x.1.advance x.2).2.store.holdings.ids ns = [⟨"b"⟩] ∧
      ((x.1.advance x.2).2.store.holdings.entries ns).length + 1 =
        (site.store.holdings.entries ns).length := by
  intro ns site moments ids
  let last : Call Nat × Site := (⟨.delete ns ids .majority, .inside none⟩, site)
  have mem : last ∈ (Call.start (.delete ns ids .majority)).stages moments := by
    have all : (Call.start (.delete ns ids .majority)).stages moments =
        [(⟨.delete ns ids .majority, .arriving⟩, site),
          (⟨.delete ns ids .majority, .knocking⟩, site),
          (⟨.delete ns ids .majority, .ticketed⟩, site), last] := rfl
    rw [all]
    simp
  have outcome : (last.1.advance last.2).1 = .answered (.ok 2) := by
    cbv
  have left := (delete_removes_and_reports ns ids .majority moments).1 last mem
  rw [outcome] at left
  obtain ⟨lost, shrunk, -⟩ := left
  refine ⟨last, mem, rfl, outcome, ?_, ?_⟩
  · rw [Holdings.ids, lost.spared]
    cbv
  · rw [shrunk]
    cbv

/-- **A keyed store counts an order that is listed twice as two.**  The collection shrinks by one,
and a store in memory says so. -/
theorem keyed_delete_counts_repeats :
    let ns : Namespace := ⟨"crm", "orders"⟩
    let keyed : Store := .keyed .twoOrders
    let memory : Store := .memory .twoOrders
    let twice : Request Nat := .delete ns [⟨"a"⟩, ⟨"a"⟩] .majority
    (keyed.holdings.entries ns).length = 2 ∧
      (keyed.leave twice).1 = .ok 2 ∧
      ((keyed.leave twice).2.holdings.entries ns).length = 1 ∧
      (memory.holdings.entries ns).length = 2 ∧
      (memory.leave twice).1 = .ok 1 ∧
      ((memory.leave twice).2.holdings.entries ns).length = 1 := by
  refine ⟨?_, ?_, ?_, ?_, ?_, ?_⟩
  · cbv
  · cbv
  · cbv
  · cbv
  · cbv
  · cbv

end Call

end PacedPurge
