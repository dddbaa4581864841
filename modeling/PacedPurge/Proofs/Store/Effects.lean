import PacedPurge.Proofs.Store.Holdings
import PacedPurge.Site

/-!
# What requests do to the records

Only two requests take records out of a store: a delete and a commit (`Request.removes`).  All
others leave the holdings as they are (`holdings_leave`), and so does every stage of a call up to
the one at which it is answered.  A delete that succeeds leaves the holdings without its ids, and
one that fails leaves them as they are (`holdings_leave_delete`).  A statement of a transaction
stages the listed ids of records that are there (`leave_stage_ok`).

What a stage of a call can come to is said once, by `CallStep`, and everything that is known of
calls is read off its cases.
-/

namespace PacedPurge

variable {α : Type}

/-- Whether the request may take records out of the store when it is served. -/
def Request.removes : Request α → Bool
  | .delete .. | .commit _ => true
  | _ => false

namespace Store

/-! ## Entering and leaving -/

@[simp] theorem holdings_enter (s : Store) (r : Request α) :
    (s.enter r).2.holdings = s.holdings := by
  cases s with
  | memory m =>
    simp only [enter, MemoryStore.enter]
    split <;> rfl
  | keyed k =>
    simp only [enter, KeyedStore.enter]
    split
    · rfl
    · next kind _ => cases kind <;> rfl

@[simp] theorem partitions_release (k : KeyedStore) (r : Request α) :
    (k.release r).partitions = k.partitions := by
  unfold KeyedStore.release
  split
  · rfl
  · next kind _ => cases kind <;> rfl

theorem collections_report (m : MemoryStore) : m.report.2.collections = m.collections := by
  unfold MemoryStore.report
  split
  · rfl
  · split <;> rfl

theorem partitions_report (k : KeyedStore) : k.report.2.partitions = k.partitions := by
  unfold KeyedStore.report
  split <;> rfl

theorem collections_takeFailure {m failed : MemoryStore} (h : m.takeFailure? = some failed) :
    failed.collections = m.collections := by
  unfold MemoryStore.takeFailure? at h
  split at h
  · cases h
  · cases h
    rfl

/-- A request that is neither a delete nor a commit leaves the records as they are. -/
theorem holdings_leave (s : Store) (r : Request α) (h : r.removes = false) :
    (s.leave r).2.holdings = s.holdings := by
  cases s with
  | memory m =>
    cases r with
    | delete ns ids concern => cases h
    | commit txn => cases h
    | status => exact congrArg Holdings.collections (collections_report m)
    | stage txn ns ids =>
      simp only [leave, MemoryStore.leave, MemoryStore.leaveWith]
      split
      · next failed hfail =>
        simp only [holdings, MemoryStore.leaveDelete, collections_takeFailure hfail]
      · rfl
    | _ => rfl
  | keyed k =>
    simp only [leave, KeyedStore.leave, holdings, partitions_release, Holdings.partitions.injEq]
    cases r with
    | delete ns ids concern => cases h
    | commit txn => cases h
    | status => exact partitions_report k
    | _ => rfl

/-! ## What is there -/

/-- Either store finds an id exactly if it has a record with it. -/
theorem contains_iff_mem_ids (m : MemoryStore) (ns : Namespace) (id : RecordId) :
    m.contains ns id = true ↔ id ∈ (holdings (.memory m)).ids ns := by
  have found : id ∈ (holdings (.memory m)).ids ns ↔ ∃ r ∈ (m.records ns).toList, r.1 = id := by
    simp only [Holdings.ids, Holdings.entries, holdings, List.mem_filterMap, List.mem_map]
    constructor
    · rintro ⟨e, ⟨r, hr, rfl⟩, hid⟩
      exact ⟨r, hr, Option.some.inj hid⟩
    · rintro ⟨r, hr, rfl⟩
      exact ⟨_, ⟨r, hr, rfl⟩, rfl⟩
  rw [found, MemoryStore.contains, ← Std.TreeMap.isSome_getElem?_eq_contains,
    Option.isSome_iff_exists]
  constructor
  · rintro ⟨doc, hdoc⟩
    exact ⟨(id, doc), Std.TreeMap.mem_toList_iff_getElem?_eq_some.mpr hdoc, rfl⟩
  · rintro ⟨⟨_, doc⟩, hr, rfl⟩
    exact ⟨doc, Std.TreeMap.mem_toList_iff_getElem?_eq_some.mp hr⟩

theorem contains_keyOf_iff_mem_ids {k : KeyedStore} {ns : Namespace} {name : String}
    (hname : KeyedStore.openName ns = .ok name) (id : RecordId) :
    (k.partition name).contains (KeyedStore.keyOf id) = true ↔
      id ∈ (holdings (.keyed k)).ids ns := by
  rw [Holdings.contains_keyOf_iff]
  simp only [Holdings.ids, Holdings.entries, holdings, hname, List.mem_filterMap, List.mem_map]
  constructor
  · rintro ⟨e, he, hid⟩
    exact ⟨_, ⟨e, he, rfl⟩, hid⟩
  · rintro ⟨_, ⟨e, he, rfl⟩, hid⟩
    exact ⟨e, he, hid⟩

/-- The listed ids of records that are there. -/
def present (s : Store) (ns : Namespace) (ids : List RecordId) : List RecordId :=
  ids.filter fun id => decide (id ∈ s.holdings.ids ns)

theorem mem_present {s : Store} {ns : Namespace} {ids : List RecordId} {id : RecordId} :
    id ∈ s.present ns ids ↔ id ∈ ids ∧ id ∈ s.holdings.ids ns := by
  simp [present]

theorem present_of_all {s : Store} {ns : Namespace} {ids : List RecordId}
    (all : ∀ id ∈ ids, id ∈ s.holdings.ids ns) : s.present ns ids = ids :=
  List.filter_eq_self.mpr fun id hid => decide_eq_true (all id hid)

/-- Either store picks the listed ids that are there. -/
theorem existing_memory (m : MemoryStore) (ns : Namespace) (ids : List RecordId) :
    m.existing ns ids = present (.memory m) ns ids :=
  List.filter_congr fun id _ => by
    rw [Bool.eq_iff_iff, decide_eq_true_eq, contains_iff_mem_ids]

theorem existing_keyed {k : KeyedStore} {ns : Namespace} {name : String}
    (hname : KeyedStore.openName ns = .ok name) (ids : List RecordId) :
    KeyedStore.existing (k.partition name) ids = present (.keyed k) ns ids :=
  List.filter_congr fun id _ => by
    rw [Bool.eq_iff_iff, decide_eq_true_eq, contains_keyOf_iff_mem_ids hname]

/-! ## Deletes -/

/-- A delete that succeeds leaves the holdings without its ids; one that fails leaves them as they
are. -/
theorem holdings_leave_delete (s : Store) (ns : Namespace) (ids : List RecordId)
    (concern : WriteConcern) :
    (s.leave (.delete ns ids concern)).2.holdings =
      match (s.leave (.delete ns ids concern)).1 with
      | .ok _ => s.holdings.without ns ids
      | .error _ => s.holdings := by
  cases s with
  | memory m =>
    simp only [leave, MemoryStore.leave, MemoryStore.leaveWith]
    split
    · next failed hfail =>
      simp only [holdings, MemoryStore.leaveDelete, collections_takeFailure hfail]
    · simp only [MemoryStore.remove_snd]
      rfl
  | keyed k =>
    simp only [leave, KeyedStore.leave, KeyedStore.perform, holdings, partitions_release,
      Holdings.without]
    cases hname : KeyedStore.openName ns with
    | error e => rw [KeyedStore.delete_of_refused hname]
    | ok name =>
      rw [KeyedStore.delete_of_openName hname]
      by_cases short : KeyedStore.hasKeys ids = true
      · rw [if_pos short]
        rfl
      · rw [if_neg short]

/-- A store in memory counts the records that it removes. -/
theorem count_remove_memory (m : MemoryStore) (ns : Namespace) (ids : List RecordId) :
    (m.remove ns ids).1 = ((holdings (.memory m)).entries ns).countP (·.isOneOf ids) := by
  have sizes : ∀ r : Records, r.size = (r.toList.map fun e => Entry.record e.1 e.2).length := by
    intro r
    rw [List.length_map, Std.TreeMap.length_toList]
  have before : (m.records ns).size = ((holdings (.memory m)).entries ns).length := sizes _
  have after : (MemoryStore.takeAway (m.records ns) ids).2.size =
      (((holdings (.memory m)).without ns ids).entries ns).length := by
    rw [MemoryStore.takeAway_snd]
    simp only [holdings, Holdings.without, Holdings.entries, Std.TreeMap.getElem?_insert_self,
      Option.getD_some]
    exact sizes _
  have parted := (holdings (.memory m)).length_entries_without ns ids
  have counted := MemoryStore.takeAway_fst_add_size (m.records ns) ids
  show (MemoryStore.takeAway (m.records ns) ids).1 = _
  omega

/-- Whether a store keeps its records under keys. -/
def isKeyed : Store → Bool
  | .memory _ => false
  | .keyed _ => true

/-- **How many records a delete says that it removed.**  A store in memory counts the records, a
keyed store the listed ids that were there. -/
theorem count_leave_delete_eq {s : Store} {ns : Namespace} {ids : List RecordId}
    {concern : WriteConcern} {n : Nat} (h : (s.leave (.delete ns ids concern)).1 = .ok n) :
    n = if s.isKeyed then (s.present ns ids).length
      else (s.holdings.entries ns).countP (·.isOneOf ids) := by
  cases s with
  | memory m =>
    simp only [leave, MemoryStore.leave, MemoryStore.leaveWith] at h
    split at h
    · cases h
    · exact (Except.ok.inj h).symm.trans (count_remove_memory m ns ids)
  | keyed k =>
    simp only [leave, KeyedStore.leave, KeyedStore.perform] at h
    cases hname : KeyedStore.openName ns with
    | error e =>
      rw [KeyedStore.delete_of_refused hname] at h
      cases h
    | ok name =>
      rw [KeyedStore.delete_of_openName hname] at h
      split at h
      · have counted : n = (KeyedStore.existing (k.partition name) ids).length :=
          (Except.ok.inj h).symm
        exact counted.trans (congrArg List.length (existing_keyed hname ids))
      · cases h

/-- How many records a delete says that it removed, if its ids are distinct and all there. -/
theorem count_leave_delete {s : Store} {ns : Namespace} {ids : List RecordId}
    {concern : WriteConcern} {n : Nat} (h : (s.leave (.delete ns ids concern)).1 = .ok n)
    (distinct : ids.Nodup) (present : ∀ id ∈ ids, id ∈ s.holdings.ids ns) : n = ids.length := by
  rw [count_leave_delete_eq h]
  cases s with
  | memory m => exact Holdings.countP_isOneOf _ ns distinct present
  | keyed k => exact congrArg List.length (present_of_all present)

/-! ## Staging -/

/-- Whether a store can remove records of a collection by their ids. -/
def CanRemove (s : Store) (ns : Namespace) (ids : List RecordId) : Prop :=
  s.isKeyed = true → (KeyedStore.openName ns).toBool = true ∧ KeyedStore.hasKeys ids = true

/-- **A statement that succeeds** stages the listed ids that are there. -/
theorem leave_stage_ok {s : Store} {txn : Transaction} {ns : Namespace} {ids : List RecordId}
    {answer : Nat × Transaction} (h : (s.leave (.stage txn ns ids)).1 = .ok answer) :
    answer = txn.stage ns (s.present ns ids) ∧ s.CanRemove ns ids := by
  cases s with
  | memory m =>
    simp only [leave, MemoryStore.leave, MemoryStore.leaveWith] at h
    split at h
    · cases h
    · rw [existing_memory] at h
      exact ⟨(Except.ok.inj h).symm, fun keyed => by cases keyed⟩
  | keyed k =>
    simp only [leave, KeyedStore.leave, KeyedStore.perform, KeyedStore.existingIn] at h
    cases hname : KeyedStore.openName ns with
    | error e => simp [hname, Except.map] at h
    | ok name =>
      simp only [hname] at h
      split at h
      · next short =>
        rw [existing_keyed hname] at h
        exact ⟨(Except.ok.inj h).symm, fun _ => ⟨by rw [hname]; rfl, short⟩⟩
      · cases h

/-- Distinct ids of which none is known are all fresh. -/
theorem fresh_of_nodup {ids : List RecordId} (distinct : ids.Nodup) {known : List RecordId}
    (new : ∀ id ∈ ids, id ∉ known) : Transaction.fresh known ids = ids := by
  induction ids generalizing known with
  | nil => rfl
  | cons id rest ih =>
    obtain ⟨hnot, hrest⟩ := List.nodup_cons.mp distinct
    have unknown : known.contains id = false := by
      simpa using new id List.mem_cons_self
    rw [Transaction.fresh, unknown, if_neg (by simp)]
    refine congrArg _ (ih hrest fun other hmem => ?_)
    rw [List.mem_cons, not_or]
    exact ⟨fun heq => hnot (heq ▸ hmem), new other (List.mem_cons_of_mem _ hmem)⟩

/-- How many records are newly staged in a transaction that has just begun, if the ids are distinct
and all there. -/
theorem count_leave_stage {s : Store} {concern : WriteConcern} {ns : Namespace}
    {ids : List RecordId} {n : Nat} {txn : Transaction}
    (h : (s.leave (.stage (.start concern) ns ids)).1 = .ok (n, txn))
    (distinct : ids.Nodup) (present : ∀ id ∈ ids, id ∈ s.holdings.ids ns) : n = ids.length := by
  obtain ⟨counted, -⟩ := leave_stage_ok h
  rw [present_of_all present] at counted
  have new : n = (Transaction.fresh [] ids).length := congrArg Prod.fst counted
  rw [new, fresh_of_nodup distinct (by simp)]

end Store

/-! ## Calls -/

/-- **What a stage of a call can come to.**  The call goes on and the store keeps its records; or it
is turned away at the gate, and the store keeps them as well; or the store takes its request up and
answers it, and all that happens to the records happens there. -/
inductive CallStep (c : Call α) (site : Site) : Outcome α → Site → Prop where
  | goesOn {c' : Call α} {site' : Site} (same : c'.request = c.request)
      (kept : site'.store.holdings = site.store.holdings) : CallStep c site (.waiting c') site'
  | turnedAway {e : StoreError} {site' : Site}
      (kept : site'.store.holdings = site.store.holdings) :
      CallStep c site (.answered (.error e)) site'
  | served {site' : Site} (left : site'.store = (site.store.leave c.request).2) :
      CallStep c site (.answered (site.store.leave c.request).1) site'

namespace Site

@[simp] theorem store_newRound (site : Site) : site.newRound.store = site.store := rfl

@[simp] theorem store_endWait (site : Site) : site.endWait.store = site.store := rfl

@[simp] theorem store_report (site : Site) (events : List Event) :
    (site.report events).store = site.store := rfl

@[simp] theorem store_waitUntil (site : Site) (time : Nat) :
    (site.waitUntil time).store = site.store := by
  unfold waitUntil
  split <;> rfl

@[simp] theorem store_await (site : Site) (time : Nat) : (site.await time).store = site.store := by
  unfold await
  simp only
  split <;> simp

@[simp] theorem store_sitOut (site : Site) (time : Nat) :
    (site.sitOut time).store = site.store := by
  rw [sitOut, store_endWait, store_await]

@[simp] theorem store_waitOut (site : Site) (hindrance : Option Hindrance) :
    (site.waitOut hindrance).store = site.store := by
  cases hindrance with
  | none => rfl
  | some hindrance =>
    cases hindrance with
    | moment time => exact site.store_await time
    | ticket => rfl
    | round => rfl
    | worker => rfl

@[simp] theorem store_heldBy (site : Site) (d : Disturbance) :
    (site.heldBy d).store = site.store := by
  unfold heldBy
  split <;> simp

@[simp] theorem store_enter (site : Site) (r : Request α) :
    (site.enter r).2.store = (site.store.enter r).2 := rfl

theorem answer_leave (site : Site) (r : Request α) :
    (site.leave r).1 = (site.store.leave r).1 := rfl

theorem store_leave (site : Site) (r : Request α) :
    (site.leave r).2.store = (site.store.leave r).2 := by
  unfold leave
  simp only
  split <;> rfl

/-- A wait can end that has been waited for. -/
theorem mayEnd_await (site : Site) (time : Nat) : (site.await time).mayEnd time = true := by
  have reached : time ≤ (site.waitUntil time).clock := by
    unfold waitUntil
    split
    · exact Nat.le_refl time
    · omega
  unfold await
  simp only [mayEnd, Bool.and_eq_true, decide_eq_true_eq]
  split
  · exact ⟨reached, (by decide : 0 < Clock.waitsPerRound)⟩
  · exact ⟨reached, by omega⟩

end Site

namespace Call

theorem step_letGo (c : Call α) (error : Option StoreError) {site site' : Site}
    (kept : site'.store.holdings = site.store.holdings) :
    CallStep c site (c.letGo error) site' := by
  cases error with
  | none => exact .goesOn rfl kept
  | some e => exact .turnedAway kept

theorem step_arrive (c : Call α) (site : Site) :
    CallStep c site (c.arrive site).1 (c.arrive site).2 := by
  unfold arrive
  split
  · exact step_letGo c none rfl
  · next error _ _ => exact step_letGo c error rfl
  · exact .goesOn rfl rfl

theorem step_knock (c : Call α) (site : Site) :
    CallStep c site (.waiting (c.knock site).1) (c.knock site).2 := by
  unfold knock
  split
  · exact .goesOn rfl (by simp)
  · exact .goesOn rfl rfl

/-- Every stage of a call comes to one of the three. -/
theorem step_advance (c : Call α) (site : Site) :
    CallStep c site (c.advance site).1 (c.advance site).2 := by
  unfold advance
  split
  · exact step_arrive c site
  · next error _ =>
    split
    · exact step_letGo c error rfl
    · exact .goesOn rfl rfl
  · exact step_knock c site
  · split
    · exact .goesOn rfl rfl
    · exact .goesOn rfl rfl
  · split
    · exact .served (Site.store_leave site.endWait c.request)
    · exact .goesOn rfl rfl
  · exact .served (Site.store_leave site c.request)

/-- A request that removes nothing leaves the records as they are at each stage of its call. -/
theorem holdings_advance (c : Call α) (site : Site) (keeps : c.request.removes = false) :
    (c.advance site).2.store.holdings = site.store.holdings := by
  have step := c.step_advance site
  generalize (c.advance site).1 = outcome at step
  cases step with
  | goesOn same kept => exact kept
  | turnedAway kept => exact kept
  | served left => rw [left, Store.holdings_leave site.store c.request keeps]

end Call

/-- **A call made when nobody else is about.**  Either it comes to an error and the store keeps its
records, or it is answered by a store that has the same records. -/
theorem Site.call_cases (site : Site) (r : Request α) :
    (∃ e, (site.call r).1 = .error e ∧ (site.call r).2.store.holdings = site.store.holdings) ∨
      ∃ s : Store, s.holdings = site.store.holdings ∧ (site.call r).1 = (s.leave r).1 ∧
        (site.call r).2.store = (s.leave r).2 := by
  have served : ∀ start : Site, start.store = site.store →
      ∃ s : Store, s.holdings = site.store.holdings ∧ (start.serve r).1 = (s.leave r).1 ∧
        (start.serve r).2.store = (s.leave r).2 := by
    intro start hstart
    refine ⟨(start.store.enter r).2, by rw [Store.holdings_enter, hstart], ?_⟩
    unfold serve
    split
    · next entered heq =>
      have hentered : entered = (start.enter r).2 := by rw [heq]
      rw [Site.answer_leave, Site.store_leave, hentered]
      exact ⟨rfl, rfl⟩
    · next time entered heq =>
      have hentered : entered = (start.enter r).2 := by rw [heq]
      rw [Site.answer_leave, Site.store_leave, Site.store_sitOut, hentered]
      exact ⟨rfl, rfl⟩
  unfold call
  split
  · exact .inr (served _ rfl)
  · next d gate _ =>
    simp only
    split
    · next e _ => exact .inl ⟨e, rfl, by simp⟩
    · exact .inr (served _ (by simp))

/-- A call that can remove nothing leaves the records as they are. -/
theorem Site.holdings_call (site : Site) (r : Request α) (h : r.removes = false) :
    (site.call r).2.store.holdings = site.store.holdings := by
  obtain ⟨e, -, kept⟩ | ⟨s, same, -, left⟩ := site.call_cases r
  · exact kept
  · rw [left, Store.holdings_leave s r h, same]

end PacedPurge
