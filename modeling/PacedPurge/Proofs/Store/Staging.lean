import Mathlib
import PacedPurge.Proofs.Bucket.Agreement
import PacedPurge.Proofs.Store.Writing
import PacedPurge.Scenario.Perform

/-!
# What transactions stage and remove

A transaction is used by statements, one after another, and then committed, aborted or let go.  Each
statement is a call, which goes on at some moments (`Call.stages`) until it is answered, if it ever
is (`Call.settle`).  The moments may be any: between two of them other clients may have written to
the store, and calls may have been told to fail.

A statement that is answered without an error stages the listed ids that are there at that moment
(`Attempt.staged`), and any other stages nothing.  So the transaction always holds what its
statements have staged (`Transaction.Holds`), each id once, and how many ids are new to it is what
the statement answers.

Up to its answer a commit leaves the records as they are, and if it succeeds it takes out what has
been staged, collection by collection (`Store.holdings_leave_commit`).
-/

namespace PacedPurge

variable {α : Type}

/-! ## Calls that go on at some moments -/

namespace Call

/-- The stages of a call that is asked to go on at some moments, up to its answer: the call as it is
before, and the moment. -/
def stages (c : Call α) : List Site → List (Call α × Site)
  | [] => []
  | moment :: later =>
    (c, moment) ::
      match (c.advance moment).1 with
      | .waiting c' => c'.stages later
      | .answered _ => []

/-- The answer of a call that is asked to go on at some moments, and the moment of the answer; none
if it is dropped before. -/
def settle (c : Call α) : List Site → Option (Except StoreError α × Site)
  | [] => none
  | moment :: later =>
    match (c.advance moment).1 with
    | .waiting c' => c'.settle later
    | .answered answer => some (answer, moment)

variable {c : Call α} {moments : List Site}

theorem request_of_waiting {site : Site} {c' : Call α}
    (waits : (c.advance site).1 = .waiting c') : c'.request = c.request := by
  have step := c.step_advance site
  rw [waits] at step
  cases step with
  | goesOn same kept => exact same

/-- A call that is answered without an error has been answered by the store. -/
theorem leave_of_answered {site : Site} {value : α}
    (answered : (c.advance site).1 = .answered (.ok value)) :
    (site.store.leave c.request).1 = .ok value ∧
      (c.advance site).2.store = (site.store.leave c.request).2 := by
  have step := c.step_advance site
  generalize (c.advance site).1 = outcome at step answered
  cases step with
  | goesOn same kept => cases answered
  | turnedAway kept => cases answered
  | served left => exact ⟨Outcome.answered.inj answered, left⟩

/-- A call makes one request at all its stages. -/
theorem request_of_mem_stages {x : Call α × Site} (h : x ∈ c.stages moments) :
    x.1.request = c.request := by
  induction moments generalizing c with
  | nil => cases h
  | cons moment later ih =>
    obtain rfl | h := List.mem_cons.mp h
    · rfl
    · split at h
      · next c' waits => exact (ih h).trans (request_of_waiting waits)
      · cases h

/-- A call that has succeeded was answered by the store of that moment. -/
theorem leave_of_settle {value : α} {moment : Site}
    (settled : c.settle moments = some (.ok value, moment)) :
    moment ∈ moments ∧ (moment.store.leave c.request).1 = .ok value := by
  induction moments generalizing c with
  | nil => cases settled
  | cons first later ih =>
    rw [settle] at settled
    split at settled
    · next c' waits =>
      obtain ⟨hmem, left⟩ := ih settled
      rw [request_of_waiting waits] at left
      exact ⟨List.mem_cons_of_mem first hmem, left⟩
    · next answer answered =>
      obtain ⟨rfl, rfl⟩ := Prod.mk.inj (Option.some.inj settled)
      exact ⟨List.mem_cons_self, (leave_of_answered answered).1⟩

end Call

/-! ## The staged ids -/

namespace Transaction

theorem mem_fresh {known ids : List RecordId} {id : RecordId} :
    id ∈ fresh known ids ↔ id ∈ ids ∧ id ∉ known := by
  induction ids generalizing known with
  | nil => simp [fresh]
  | cons first rest ih =>
    unfold fresh
    by_cases hfirst : first ∈ known
    · have : id = first → id ∈ known := fun heq => heq ▸ hfirst
      simp only [List.contains_iff_mem, hfirst, if_true, ih, List.mem_cons]
      tauto
    · simp only [List.contains_iff_mem, hfirst, if_false, List.mem_cons, ih]
      by_cases heq : id = first
      · simp [heq, hfirst]
      · simp [heq]

theorem nodup_fresh (known ids : List RecordId) : (fresh known ids).Nodup := by
  induction ids generalizing known with
  | nil => exact List.nodup_nil
  | cons first rest ih =>
    unfold fresh
    split
    · exact ih known
    · exact List.nodup_cons.mpr
        ⟨fun hmem => (mem_fresh.mp hmem).2 List.mem_cons_self, ih (first :: known)⟩

variable {staged : List (Namespace × List RecordId)} {ns : Namespace} {ids : List RecordId}

theorem find?_setStaged (staged : List (Namespace × List RecordId)) (ns : Namespace)
    (ids : List RecordId) (other : Namespace) :
    (setStaged staged ns ids).find? (·.1 == other) =
      if ns = other then some (ns, ids) else staged.find? (·.1 == other) := by
  induction staged with
  | nil =>
    simp only [setStaged, List.find?_cons, List.find?_nil]
    split
    · next same => rw [if_pos (by simpa using same)]
    · next differ => rw [if_neg (by simpa using differ)]
  | cons entry rest ih =>
    unfold setStaged
    by_cases own : entry.1 = ns
    · subst own
      by_cases same : entry.1 = other
      · simp [same]
      · simp [same]
    · simp only [beq_iff_eq, own, if_false, List.find?_cons, ih]
      by_cases same : ns = other
      · subst same
        simp only [beq_eq_false_iff_ne.mpr own, if_true]
      · simp only [same, if_false]

/-- A statement adds to what is staged in its own collection. -/
theorem stagedIn_stage (t : Transaction) (ns : Namespace) (ids : List RecordId)
    (other : Namespace) :
    (t.stage ns ids).2.stagedIn other =
      if ns = other then t.stagedIn ns ++ fresh (t.stagedIn ns) ids else t.stagedIn other := by
  have found := find?_setStaged t.staged ns (t.stagedIn ns ++ fresh (t.stagedIn ns) ids) other
  unfold stagedIn at found ⊢
  simp only [stage]
  unfold stagedIn
  rw [found]
  split <;> rfl

theorem mem_keys_setStaged {key : Namespace} :
    key ∈ (setStaged staged ns ids).map (·.1) ↔ key = ns ∨ key ∈ staged.map (·.1) := by
  induction staged with
  | nil => simp [setStaged]
  | cons entry rest ih =>
    unfold setStaged
    by_cases own : entry.1 = ns
    · simp [own]
    · simp only [beq_iff_eq, own, if_false, List.map_cons, List.mem_cons, ih]
      tauto

theorem nodup_keys_setStaged (distinct : (staged.map (·.1)).Nodup) :
    ((setStaged staged ns ids).map (·.1)).Nodup := by
  induction staged with
  | nil => simp [setStaged]
  | cons entry rest ih =>
    rw [List.map_cons, List.nodup_cons] at distinct
    unfold setStaged
    by_cases own : entry.1 = ns
    · simp only [beq_iff_eq, own, if_true, List.map_cons, List.nodup_cons]
      exact ⟨own ▸ distinct.1, distinct.2⟩
    · simp only [beq_iff_eq, own, if_false, List.map_cons, List.nodup_cons]
      refine ⟨fun hmem => ?_, ih distinct.2⟩
      exact (mem_keys_setStaged.mp hmem).elim own distinct.1

/-- What is staged in a collection is all that is staged under its name. -/
theorem mem_stagedIn_iff {t : Transaction} (distinct : (t.staged.map (·.1)).Nodup)
    {id : RecordId} : id ∈ t.stagedIn ns ↔ ∃ entry ∈ t.staged, entry.1 = ns ∧ id ∈ entry.2 := by
  unfold stagedIn
  generalize t.staged = staged at distinct
  induction staged with
  | nil => simp
  | cons entry rest ih =>
    rw [List.map_cons, List.nodup_cons] at distinct
    simp only [List.find?_cons, List.exists_mem_cons_iff]
    by_cases own : entry.1 = ns
    · have others : ∀ e ∈ rest, e.1 ≠ ns := fun e he heq =>
        distinct.1 (own ▸ heq ▸ List.mem_map_of_mem he)
      simp only [own, beq_self_eq_true, Option.map_some, Option.getD_some, true_and]
      exact ⟨.inl, fun h => h.resolve_right fun ⟨e, he, heq, _⟩ => others e he heq⟩
    · simp only [own, beq_eq_false_iff_ne.mpr own, false_and, false_or]
      exact ih distinct.2

end Transaction

/-! ## Committing -/

namespace Holdings

/-- Whether two collections have nothing in common. -/
def Apart (h : Holdings) (ns other : Namespace) : Prop :=
  match h with
  | .collections _ => ns ≠ other
  | .partitions _ =>
    ∀ name, KeyedStore.openName ns = .ok name → KeyedStore.openName other ≠ .ok name

/-- Removing records of one collection leaves those of another as they are. -/
theorem entries_without_of_apart {h : Holdings} {ns other : Namespace} (apart : h.Apart ns other)
    (ids : List RecordId) : (h.without ns ids).entries other = h.entries other := by
  cases h with
  | collections c =>
    have differ : ns ≠ other := apart
    simp only [without, entries, Std.TreeMap.getElem?_insert, Std.LawfulEqCmp.compare_eq_iff_eq,
      differ, if_false]
  | partitions p =>
    simp only [without]
    cases hname : KeyedStore.openName ns with
    | error e => rfl
    | ok name =>
      simp only [entries]
      cases hother : KeyedStore.openName other with
      | error e => rfl
      | ok name' =>
        have differ : name ≠ name' := by
          rintro rfl
          exact apart name hname hother
        simp only [Std.TreeMap.getElem?_insert, Std.LawfulEqCmp.compare_eq_iff_eq, differ, if_false]

theorem apart_without {h : Holdings} {ns other : Namespace} (own : Namespace)
    (ids : List RecordId) : (h.without own ids).Apart ns other ↔ h.Apart ns other := by
  cases h with
  | collections c => exact Iff.rfl
  | partitions p =>
    unfold without
    split
    · next he => cases he
    · next heq =>
      cases heq
      cases KeyedStore.openName own <;> exact Iff.rfl

/-- Removing what is listed for several collections leaves of each what is not listed for it. -/
theorem entries_foldl_without (h : Holdings) (staged : List (Namespace × List RecordId))
    (ns : Namespace) (apart : ∀ entry ∈ staged, entry.1 ≠ ns → h.Apart entry.1 ns) :
    (staged.foldl (fun h entry => h.without entry.1 entry.2) h).entries ns =
      (h.entries ns).filter fun e =>
        staged.all fun entry => !(entry.1 == ns && e.isOneOf entry.2) := by
  induction staged generalizing h with
  | nil => simp
  | cons entry rest ih =>
    have apart' : ∀ other ∈ rest, other.1 ≠ ns →
        (h.without entry.1 entry.2).Apart other.1 ns := fun other hother differ =>
      (apart_without entry.1 entry.2).mpr (apart other (List.mem_cons_of_mem entry hother) differ)
    rw [List.foldl_cons, ih _ apart']
    by_cases own : entry.1 = ns
    · subst own
      rw [entries_without, List.filter_filter]
      refine List.filter_congr fun e _ => ?_
      simp [Bool.and_comm]
    · rw [entries_without_of_apart (apart entry List.mem_cons_self own)]
      refine List.filter_congr fun e _ => ?_
      simp [own]

end Holdings

namespace Store

/-- **What a commit does.**  One that succeeds takes out what is staged, collection by collection.
-/
theorem holdings_leave_commit {s : Store} {txn : Transaction}
    (h : (s.leave (.commit txn)).1 = .ok ()) :
    (s.leave (.commit txn)).2.holdings =
      txn.staged.foldl (fun h entry => h.without entry.1 entry.2) s.holdings := by
  cases s with
  | memory m =>
    clear h
    simp only [leave, MemoryStore.leave, MemoryStore.removeStaged]
    generalize txn.staged = staged
    induction staged generalizing m with
    | nil => rfl
    | cons entry rest ih =>
      have one : (memory (m.remove entry.1 entry.2).2).holdings =
          (memory m).holdings.without entry.1 entry.2 :=
        congrArg holdings (congrArg memory (m.remove_snd entry.1 entry.2))
      rw [List.foldl_cons, List.foldl_cons, ih, one]
  | keyed k =>
    simp only [leave, KeyedStore.leave, KeyedStore.perform] at h
    simp only [leave, KeyedStore.leave, KeyedStore.perform, holdings, partitions_release]
    generalize txn.staged = staged at h ⊢
    induction staged generalizing k with
    | nil => rfl
    | cons entry rest ih =>
      obtain ⟨ns, ids⟩ := entry
      have one := holdings_leave_delete (.keyed k) ns ids txn.concern
      simp only [leave, KeyedStore.leave, KeyedStore.perform, holdings, partitions_release] at one
      unfold KeyedStore.removeStaged at h ⊢
      generalize k.delete ns ids txn.concern = result at h one
      obtain ⟨answer, reached⟩ := result
      cases answer with
      | error e => cases h
      | ok n =>
        simp only at h one ⊢
        rw [ih reached h, List.foldl_cons, ← one]

/-- A commit succeeds if the store can remove what is staged. -/
theorem answer_leave_commit {s : Store} {txn : Transaction}
    (can : ∀ entry ∈ txn.staged, s.CanRemove entry.1 entry.2) :
    (s.leave (.commit txn)).1 = .ok () := by
  cases s with
  | memory m => rfl
  | keyed k =>
    simp only [leave, KeyedStore.leave, KeyedStore.perform]
    generalize txn.staged = staged at can
    induction staged generalizing k with
    | nil => rfl
    | cons entry rest ih =>
      obtain ⟨ns, ids⟩ := entry
      obtain ⟨opens, short⟩ := can (ns, ids) List.mem_cons_self rfl
      obtain ⟨n, removed⟩ :=
        (KeyedStore.delete_ok_iff k ns ids txn.concern).mpr (by simp [opens, short])
      unfold KeyedStore.removeStaged
      generalize k.delete ns ids txn.concern = result at removed
      obtain ⟨answer, reached⟩ := result
      obtain rfl := removed
      exact ih reached fun other hother => can other (List.mem_cons_of_mem _ hother)

end Store

/-! ## Statements one after another -/

/-- A statement of a transaction: what it is to remove, and the moments at which its call goes on.
-/
structure Statement where
  ns : Namespace
  ids : List RecordId
  moments : List Site

/-- A statement, with the transaction as it finds it. -/
structure Attempt extends Statement where
  before : Transaction

namespace Attempt

/-- The call that is made. -/
def call (a : Attempt) : Call (Nat × Transaction) := .start (.stage a.before a.ns a.ids)

/-- What the statement is answered, and at which moment, if it is answered. -/
def settled (a : Attempt) : Option (Except StoreError (Nat × Transaction) × Site) :=
  a.call.settle a.moments

/-- The transaction afterwards.  It is as before unless the statement has succeeded. -/
def after (a : Attempt) : Transaction :=
  match a.settled with
  | some (.ok (_, txn), _) => txn
  | _ => a.before

/-- What a successful statement has staged in a collection: the listed ids that were there. -/
def staged (a : Attempt) (ns : Namespace) : List RecordId :=
  match a.settled with
  | some (.ok _, moment) => if a.ns = ns then moment.store.present ns a.ids else []
  | _ => []

end Attempt

namespace Transaction

/-- The statements of a transaction, one after another. -/
def attempts (t : Transaction) : List Statement → List Attempt
  | [] => []
  | s :: later => ⟨s, t⟩ :: (Attempt.after ⟨s, t⟩).attempts later

/-- The transaction after some statements. -/
def afterAll (t : Transaction) : List Statement → Transaction
  | [] => t
  | s :: later => (Attempt.after ⟨s, t⟩).afterAll later

/-- **What a transaction holds** after some statements: what they have staged, and no more. -/
structure Holds (t : Transaction) (made : List Attempt) : Prop where
  distinct : (t.staged.map (·.1)).Nodup
  addressed : ∀ ns ∈ t.staged.map (·.1), ∃ a ∈ made, a.ns = ns
  ids : ∀ ns id, id ∈ t.stagedIn ns ↔ id ∈ made.flatMap (·.staged ns)

theorem holds_start (concern : WriteConcern) : (start concern).Holds [] where
  distinct := List.nodup_nil
  addressed := nofun
  ids ns id := by simp [start, stagedIn]

/-- **One statement more.** -/
theorem Holds.after {made : List Attempt} {a : Attempt} (h : a.before.Holds made) :
    a.after.Holds (made ++ [a]) := by
  have unchanged : (∀ ns, a.staged ns = []) → a.after = a.before → a.after.Holds (made ++ [a]) := by
    intro nothing same
    rw [same]
    refine ⟨h.distinct, fun ns hns => ?_, fun ns id => by simp [h.ids, nothing]⟩
    obtain ⟨b, hb, own⟩ := h.addressed ns hns
    exact ⟨b, List.mem_append_left _ hb, own⟩
  cases hsettled : a.settled with
  | none =>
    refine unchanged (fun ns => ?_) ?_
    · simp only [Attempt.staged, hsettled]
    · simp only [Attempt.after, hsettled]
  | some settled =>
    obtain ⟨answer, moment⟩ := settled
    cases answer with
    | error e =>
      refine unchanged (fun ns => ?_) ?_
      · simp only [Attempt.staged, hsettled]
      · simp only [Attempt.after, hsettled]
    | ok value =>
      obtain ⟨-, left⟩ := Call.leave_of_settle hsettled
      obtain ⟨rfl, -⟩ := Store.leave_stage_ok left
      simp only [Attempt.after, hsettled]
      refine ⟨nodup_keys_setStaged h.distinct, fun ns hns => ?_, fun ns id => ?_⟩
      · obtain rfl | hns := mem_keys_setStaged.mp hns
        · exact ⟨a, by simp, rfl⟩
        · obtain ⟨b, hb, own⟩ := h.addressed ns hns
          exact ⟨b, List.mem_append_left _ hb, own⟩
      rw [stagedIn_stage, List.flatMap_append, List.flatMap_singleton, List.mem_append, ← h.ids]
      simp only [Attempt.staged, hsettled]
      by_cases own : a.ns = ns
      · subst own
        simp only [if_true, List.mem_append, mem_fresh]
        tauto
      · simp [own]

/-- **What holds before each statement and after the last.** -/
theorem Holds.attempts {t : Transaction} {prior : List Attempt} (h : t.Holds prior)
    (statements : List Statement) :
    (∀ earlier a later, t.attempts statements = earlier ++ a :: later →
      a.before.Holds (prior ++ earlier)) ∧
    (t.afterAll statements).Holds (prior ++ t.attempts statements) := by
  induction statements generalizing t prior with
  | nil => exact ⟨fun earlier a later split => by simp [Transaction.attempts] at split, by
      rw [Transaction.attempts, List.append_nil]
      exact h⟩
  | cons s later ih =>
    have next : (Attempt.after ⟨s, t⟩).Holds (prior ++ [⟨s, t⟩]) := Holds.after (a := ⟨s, t⟩) h
    obtain ⟨each, last⟩ := ih next
    refine ⟨fun earlier a rest split => ?_, ?_⟩
    · rw [Transaction.attempts] at split
      cases earlier with
      | nil =>
        obtain ⟨rfl, -⟩ := List.cons.inj split
        rw [List.append_nil]
        exact h
      | cons first earlier =>
        rw [List.cons_append] at split
        obtain ⟨rfl, onwards⟩ := List.cons.inj split
        have reached := each earlier a rest onwards
        rwa [List.append_assoc] at reached
    · rw [List.append_assoc] at last
      exact last

/-- A statement answers how many ids it adds: those that are listed and there, each once, and that
no statement has staged before. -/
theorem Holds.count {a : Attempt} {earlier : List Attempt} (h : a.before.Holds earlier) {n : Nat}
    {txn : Transaction} {moment : Site} (settled : a.settled = some (.ok (n, txn), moment)) :
    n = (a.ids.toFinset.filter fun id => id ∈ moment.store.holdings.ids a.ns ∧
      id ∉ earlier.flatMap (·.staged a.ns)).card := by
  obtain ⟨-, left⟩ := Call.leave_of_settle settled
  obtain ⟨counted, -⟩ := Store.leave_stage_ok left
  have new : n = (fresh (a.before.stagedIn a.ns) (moment.store.present a.ns a.ids)).length :=
    congrArg Prod.fst counted
  rw [new, ← List.toFinset_card_of_nodup (nodup_fresh _ _)]
  refine congrArg Finset.card (Finset.ext fun id => ?_)
  simp only [List.mem_toFinset, Finset.mem_filter, mem_fresh, Store.mem_present, h.ids, and_assoc]

/-! ## The end of a transaction -/

theorem mem_setStaged {staged : List (Namespace × List RecordId)} {ns : Namespace}
    {ids : List RecordId} {entry : Namespace × List RecordId}
    (h : entry ∈ setStaged staged ns ids) : entry = (ns, ids) ∨ entry ∈ staged := by
  induction staged with
  | nil => exact .inl (List.mem_singleton.mp h)
  | cons first rest ih =>
    unfold setStaged at h
    split at h
    · exact (List.mem_cons.mp h).imp_right (List.mem_cons_of_mem first)
    · obtain rfl | h := List.mem_cons.mp h
      · exact .inr List.mem_cons_self
      · exact (ih h).imp_right (List.mem_cons_of_mem first)

/-- What is staged in a store of one kind can be removed in one of that kind. -/
def Removable (t : Transaction) (s : Store) : Prop :=
  ∀ ns ids, (ns, ids) ∈ t.staged → s.CanRemove ns ids

theorem Removable.stage {t : Transaction} {s : Store} (h : t.Removable s) {ns : Namespace}
    {ids : List RecordId} (can : s.CanRemove ns ids) : (t.stage ns ids).2.Removable s := by
  intro own listed hmem keyed
  obtain same | old := mem_setStaged hmem
  · obtain ⟨rfl, rfl⟩ := Prod.mk.inj same
    refine ⟨(can keyed).1, ?_⟩
    have before : KeyedStore.hasKeys (t.stagedIn own) = true := by
      unfold stagedIn
      cases hfind : t.staged.find? (·.1 == own) with
      | none => rfl
      | some entry => exact (h entry.1 entry.2 (List.mem_of_find?_eq_some hfind) keyed).2
    have new : KeyedStore.hasKeys (fresh (t.stagedIn own) ids) = true :=
      List.all_eq_true.mpr fun id hid =>
        List.all_eq_true.mp (can keyed).2 id (mem_fresh.mp hid).1
    unfold KeyedStore.hasKeys at before new ⊢
    rw [List.all_append, before, new]
    rfl
  · exact h own listed old keyed

theorem Removable.afterAll {t : Transaction} {s : Store} (h : t.Removable s)
    (statements : List Statement)
    (alike : ∀ a ∈ t.attempts statements, ∀ moment ∈ a.moments,
      moment.store.isKeyed = s.isKeyed) : (t.afterAll statements).Removable s := by
  induction statements generalizing t with
  | nil => exact h
  | cons first later ih =>
    refine ih ?_ fun a ha => alike a (List.mem_cons_of_mem _ ha)
    have here := alike ⟨first, t⟩ List.mem_cons_self
    unfold Attempt.after
    split
    · next n txn moment hsettled =>
      obtain ⟨hmoment, left⟩ := Call.leave_of_settle hsettled
      obtain ⟨staged, can⟩ := Store.leave_stage_ok left
      have kind : moment.store.isKeyed = s.isKeyed := here moment hmoment
      have same : txn = (t.stage first.ns (moment.store.present first.ns first.ids)).2 :=
        congrArg Prod.snd staged
      rw [same]
      refine h.stage fun keyed => ?_
      obtain ⟨opens, short⟩ := can (kind.trans keyed)
      exact ⟨opens, List.all_eq_true.mpr fun id hid =>
        List.all_eq_true.mp short id (Store.mem_present.mp hid).1⟩
    · exact h

/-- What a successful commit leaves of a collection that has nothing in common with the others. -/
theorem Holds.entries_commit {t : Transaction} {made : List Attempt} (h : t.Holds made) {s : Store}
    (done : (s.leave (.commit t)).1 = .ok ()) {ns : Namespace}
    (apart : ∀ a ∈ made, a.ns ≠ ns → s.holdings.Apart a.ns ns) :
    (s.leave (.commit t)).2.holdings.entries ns =
      (s.holdings.entries ns).filter fun e => !e.isOneOf (made.flatMap (·.staged ns)) := by
  rw [Store.holdings_leave_commit done, Holdings.entries_foldl_without]
  · refine List.filter_congr fun e _ => ?_
    rw [Bool.eq_iff_iff, List.all_eq_true, Bool.not_eq_true', Bool.eq_false_iff, ne_eq,
      Entry.isOneOf_iff]
    constructor
    · rintro spared ⟨id, hid, read⟩
      obtain ⟨entry, hentry, own, listed⟩ :=
        (mem_stagedIn_iff h.distinct).mp ((h.ids ns id).mpr hid)
      have hit : e.isOneOf entry.2 = true := Entry.isOneOf_iff.mpr ⟨id, listed, read⟩
      simpa [own, hit] using spared entry hentry
    · intro spared entry hentry
      rw [Bool.not_eq_true', Bool.eq_false_iff, ne_eq, Bool.and_eq_true, beq_iff_eq,
        Entry.isOneOf_iff]
      rintro ⟨own, id, listed, read⟩
      exact spared ⟨id, (h.ids ns id).mp
        ((mem_stagedIn_iff h.distinct).mpr ⟨entry, hentry, own, listed⟩), read⟩
  · intro entry hentry differ
    obtain ⟨a, ha, own⟩ := h.addressed entry.1 (List.mem_map_of_mem hentry)
    rw [← own] at differ ⊢
    exact apart a ha differ

/-- **What a transaction does.**  No stage of a statement changes the records.  A statement that
succeeds answers how many of the listed ids are there at that moment and have not been staged
before, each counted once; any other leaves the transaction as it is.  No stage of an abort changes
the records, and letting the transaction go does nothing to the store.

A commit changes no records before it is answered.  If it succeeds, each collection that has nothing
in common with the others loses the records that successful statements have staged for it and that
are still there, and keeps all others as they are.  A store of the kind to which the statements were
made does not refuse it, and if it is turned away at the gate of one, no records have been
changed. -/
theorem stages_and_removes (concern : WriteConcern) (statements : List Statement) :
    let made := (start concern).attempts statements
    let txn := (start concern).afterAll statements
    let staged := fun ns => made.flatMap (·.staged ns)
    let alike := fun s : Store =>
      ∀ a ∈ made, ∀ moment ∈ a.moments, moment.store.isKeyed = s.isKeyed
    (∀ a ∈ made, ∀ x ∈ a.call.stages a.moments,
      (x.1.advance x.2).2.store.holdings = x.2.store.holdings) ∧
    (∀ earlier a later, made = earlier ++ a :: later →
      (∀ n next moment, a.settled = some (.ok (n, next), moment) →
        n = (a.ids.toFinset.filter fun id => id ∈ moment.store.holdings.ids a.ns ∧
          id ∉ earlier.flatMap (·.staged a.ns)).card) ∧
      ((∀ value moment, a.settled ≠ some (.ok value, moment)) → a.after = a.before)) ∧
    (∀ ns id, id ∈ txn.stagedIn ns ↔ id ∈ staged ns) ∧
    (∀ moments, ∀ x ∈ (Call.start (.abort txn)).stages moments,
      (x.1.advance x.2).2.store.holdings = x.2.store.holdings) ∧
    (∀ fuel (state : Scenario.State) name,
      (state.perform fuel (.forget name)).2.site.store = state.site.store) ∧
    (∀ s, alike s → (s.leave (.commit txn)).1 = .ok ()) ∧
    ∀ moments, ∀ x ∈ (Call.start (.commit txn)).stages moments,
      match (x.1.advance x.2).1 with
      | .waiting _ => (x.1.advance x.2).2.store.holdings = x.2.store.holdings
      | .answered (.error _) =>
        alike x.2.store → (x.1.advance x.2).2.store.holdings = x.2.store.holdings
      | .answered (.ok ()) =>
        ∀ ns, (∀ a ∈ made, a.ns ≠ ns → x.2.store.holdings.Apart a.ns ns) →
          (x.1.advance x.2).2.store.holdings.entries ns =
            (x.2.store.holdings.entries ns).filter fun e => !e.isOneOf (staged ns) := by
  intro made txn staged alike
  obtain ⟨each, holds⟩ := (holds_start concern).attempts statements
  rw [List.nil_append] at holds
  have succeeds : ∀ s, alike s → (s.leave (.commit txn)).1 = .ok () := fun s same =>
    Store.answer_leave_commit fun entry hentry =>
      Removable.afterAll (t := start concern) nofun statements same entry.1 entry.2 hentry
  refine ⟨fun a ha x hx => ?_, fun earlier a later split => ⟨fun n next moment settled => ?_,
    fun failed => ?_⟩, holds.ids, fun moments x hx => ?_, fun _ _ _ => rfl, succeeds,
    fun moments x hx => ?_⟩
  · have request := Call.request_of_mem_stages hx
    exact Call.holdings_advance x.1 x.2 (by rw [request]; rfl)
  · exact (each earlier a later split).count settled
  · unfold Attempt.after
    split
    · next n next moment settled => exact absurd settled (failed (n, next) moment)
    · rfl
  · have request := Call.request_of_mem_stages hx
    exact Call.holdings_advance x.1 x.2 (by rw [request]; rfl)
  · have request : x.1.request = .commit txn := Call.request_of_mem_stages hx
    have step := x.1.step_advance x.2
    generalize (x.1.advance x.2).1 = outcome at step
    cases step with
    | goesOn same kept => exact kept
    | turnedAway kept => exact fun _ => kept
    | served left =>
      rw [request] at left ⊢
      cases answered : (x.2.store.leave (.commit txn)).1 with
      | error e =>
        intro same
        rw [succeeds x.2.store same] at answered
        cases answered
      | ok value =>
        intro ns apart
        rw [left]
        exact holds.entries_commit answered apart

/-- Of two orders one is staged, by a statement that lists it twice and one that is not there, and
again by another, and a statement for the other order is turned away at the gate.  The commit takes
the one out and leaves the other. -/
theorem stages_and_removes_orders :
    let ns : Namespace := ⟨"crm", "orders"⟩
    let site : Site := { store := .keyed .twoOrders }
    let conflict : Disturbance := ⟨none, some (.transient "conflict")⟩
    let turned : Site := { site with gate := [(.stagedDelete, conflict)] }
    let moments : List Site := [site, site, site, site]
    let statements : List Statement :=
      [⟨ns, [⟨"a"⟩, ⟨"a"⟩, ⟨"z"⟩], moments⟩, ⟨ns, [⟨"b"⟩], [turned]⟩, ⟨ns, [⟨"a"⟩], moments⟩]
    let made := (start .majority).attempts statements
    let txn := (start .majority).afterAll statements
    made.map (fun a => a.settled.map fun s => s.1.map (·.1)) =
        [some (.ok 1), some (.error (.transient "conflict")), some (.ok 0)] ∧
      site.store.holdings.ids ns = [⟨"a"⟩, ⟨"b"⟩] ∧
      ∃ x ∈ (Call.start (.commit txn)).stages moments, x.2 = site ∧
        (x.1.advance x.2).1 = .answered (.ok ()) ∧
        (x.1.advance x.2).2.store.holdings.ids ns = [⟨"b"⟩] := by
  intro ns site conflict turned moments statements made txn
  have answers : made.map (fun a => a.settled.map fun s => s.1.map (·.1)) =
      [some (.ok 1), some (.error (.transient "conflict")), some (.ok 0)] := by
    cbv
  have staged : made.flatMap (·.staged ns) = [⟨"a"⟩, ⟨"a"⟩, ⟨"a"⟩] := by
    cbv
  have own : made.all (·.ns == ns) = true := rfl
  have keyed : (made.flatMap (·.moments)).all (·.store.isKeyed) = true := rfl
  obtain ⟨-, -, -, -, -, succeeds, removed⟩ := stages_and_removes .majority statements
  have answered : (site.store.leave (.commit txn)).1 = .ok () :=
    succeeds site.store fun a ha moment hmoment =>
      List.all_eq_true.mp keyed moment (List.mem_flatMap.mpr ⟨a, ha, hmoment⟩)
  let last : Call Unit × Site := (⟨.commit txn, .inside none⟩, site)
  have mem : last ∈ (Call.start (.commit txn)).stages moments := by
    have all : (Call.start (.commit txn)).stages moments =
        [(⟨.commit txn, .arriving⟩, site), (⟨.commit txn, .knocking⟩, site),
          (⟨.commit txn, .ticketed⟩, site), last] := rfl
    rw [all]
    simp
  have outcome : (last.1.advance last.2).1 = .answered (.ok ()) := congrArg _ answered
  have left := removed moments last mem
  rw [outcome] at left
  have entries : (last.1.advance last.2).2.store.holdings.entries ns =
      (site.store.holdings.entries ns).filter fun e => !e.isOneOf (made.flatMap (·.staged ns)) :=
    left ns fun a ha differ => absurd (eq_of_beq (List.all_eq_true.mp own a ha)) differ
  refine ⟨answers, by cbv, last, mem, rfl, outcome, ?_⟩
  rw [Holdings.ids, entries, staged]
  cbv

end Transaction

end PacedPurge
