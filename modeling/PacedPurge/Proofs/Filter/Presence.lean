import PacedPurge.Proofs.Filter.Clauses
import PacedPurge.Proofs.Store.Gathering

/-!
# What is there and what is null

A path is followed twice, once for the value that it leads to and once for whether it leads
anywhere.  Both go the same way: where nothing is, null is found, and where something is, it is what
is found (`Document.presence_agrees`).  Null may be found where something is, so a filter for
what is missing is narrower than one for null, and a filter for what is not null is narrower than
one for what is there.

A selection that is narrower than another (`Selection.Narrows`) finds no more than that, in any
collection of either store, and is stopped by the same entry (`Store.foundAmong_candidates`).
-/

namespace PacedPurge

/-! ## Narrower selections -/

/-- One selection selects no records but those that another one selects too, by the same sort key,
and neither makes no sense for any record. -/
structure Selection.Narrows (s t : Selection) : Prop where
  sortKey : s.filter.sortKey = t.filter.sortKey
  selects : ∀ id doc, ∃ b b', s.selects id doc = .ok b ∧ t.selects id doc = .ok b' ∧
    (b = true → b' = true)

/-- What one search finds another one finds as well, in the same order, or the same error stops
both. -/
def FoundAmong : Except StoreError (List Candidate) → Except StoreError (List Candidate) → Prop
  | .ok found, .ok more => found.Sublist more
  | .error e, .error e' => e = e'
  | _, _ => False

/-- What a search through a collection of either store finds. -/
def Store.candidates (s : Store) (ns : Namespace) (selection : Selection) :
    Except StoreError (List Candidate) :=
  match s with
  | .memory m => m.candidates ns selection
  | .keyed k => k.candidates ns selection

namespace Selection.Narrows

variable {s t : Selection}

theorem candidate_eq (h : s.Narrows t) (id : RecordId) (doc : Document) :
    s.candidate id doc = t.candidate id doc := by
  unfold candidate
  rw [h.sortKey]

/-- A narrower selection gathers no more, and is stopped by the same entry. -/
theorem gather (h : s.Narrows t) (entries : List Entry) :
    (s.gather entries).1.Sublist (t.gather entries).1 ∧
      (s.gather entries).2 = (t.gather entries).2 := by
  induction entries with
  | nil => exact ⟨List.Sublist.slnil, rfl⟩
  | cons e rest ih =>
    rcases hread : e.read with fault | ⟨id, doc⟩
    · simp [Selection.gather, hread]
    · obtain ⟨b, b', first, second, implied⟩ := h.selects id doc
      simp only [Selection.gather, hread, first, second]
      refine ⟨?_, ih.2⟩
      by_cases chosen : b = true
      · rw [if_pos chosen, if_pos (implied chosen), h.candidate_eq]
        exact ih.1.cons_cons _
      · rw [if_neg chosen]
        by_cases also : b' = true
        · rw [if_pos also]
          exact ih.1.cons _
        · rw [if_neg also]
          exact ih.1

theorem foundAmong_search (h : s.Narrows t) (entries : List Entry) :
    FoundAmong (s.search entries) (t.search entries) := by
  obtain ⟨fewer, stopped⟩ := h.gather entries
  unfold search
  rw [stopped]
  rcases (t.gather entries).2 with _ | fault
  · exact fewer
  · exact rfl

end Selection.Narrows

/-- **A narrower selection finds no more** in a collection of either store. -/
theorem Store.foundAmong_candidates {selection wider : Selection} (h : selection.Narrows wider)
    (s : Store) (ns : Namespace) :
    FoundAmong (s.candidates ns selection) (s.candidates ns wider) := by
  rcases s with m | k
  · simp only [candidates, MemoryStore.candidates_eq]
    exact h.foundAmong_search _
  · rcases hname : KeyedStore.openName ns with e | name
    · simp only [candidates, KeyedStore.candidates, hname]
      exact rfl
    · simp only [candidates, KeyedStore.candidates_of_openName hname]
      exact h.foundAmong_search _

/-! ## Filters for what is there -/

/-- Only null compares equal to null. -/
theorem Json.alike_null {c : Collation} {v : Json} : Json.alike c v .null = true ↔ v = .null := by
  unfold alike
  constructor
  · intro h
    rcases v with _ | _ | _ | _ | _ | _
    · rfl
    all_goals exact absurd (Nat.compare_eq_eq.mp (eq_of_beq h)) (by simp [rank])
  · rintro rfl
    unfold order
    decide

namespace Filter

/-- The filter for records that have something at a path, or that have nothing there. -/
def ofPresence (path : String) (wanted : Bool) : Filter :=
  ⟨[(path, .object [("$exists", .bool wanted)])]⟩

/-- The filter for records in which a path reads as null. -/
def ofNull (path : String) : Filter := ⟨[(path, .null)]⟩

/-- The filter for records in which a path reads as anything but null. -/
def ofNonNull (path : String) : Filter := ⟨[(path, .object [("$ne", .null)])]⟩

section Single

variable {path : String} (unmarked : ¬IsMarked path) (c : Collation) (id : RecordId)
  (doc : Document)

include unmarked

theorem accepts_ofPresence (wanted : Bool) :
    (ofPresence path wanted).accepts c id doc = .ok (doc.hasField path == wanted) :=
  accepts_applying unmarked .present (.bool wanted) c id doc

theorem accepts_ofNonNull :
    (ofNonNull path).accepts c id doc = .ok (!Json.alike c (doc.lookup id path) .null) :=
  accepts_applying unmarked .ne .null c id doc

theorem accepts_ofNull :
    (ofNull path).accepts c id doc = .ok (Json.alike c (doc.lookup id path) .null) := by
  have plain : ¬∃ operators, Json.null = .object operators ∧ Members.AreOperators operators := by
    rintro ⟨operators, same, -⟩
    cases same
  have own : (ofNull path).clauses = [.equals path .null] := by
    simp [clauses, ofNull, Clause.ofField_of_plain unmarked plain]
  rw [accepts_eq_examine, own, Subject.examine_singleton]
  rfl

end Single

/-- A filter that asks for one field sorts by it. -/
theorem sortKey_single {path : String} (unmarked : ¬IsMarked path) (condition : Json) :
    sortKey ⟨[(path, condition)]⟩ = some path := by
  have plain : isOperatorName path = false := by
    rw [← Bool.not_eq_true, isOperatorName_iff]
    exact unmarked
  simp [sortKey, Members.keys, plain]

variable {path : String}

/-- What is missing reads as null. -/
theorem narrows_missing (unmarked : ¬IsMarked path) (c : Collation) :
    Selection.Narrows ⟨ofPresence path false, c⟩ ⟨ofNull path, c⟩ where
  sortKey := (sortKey_single unmarked _).trans (sortKey_single unmarked _).symm
  selects id doc := by
    refine ⟨_, _, by rw [Selection.selects, accepts_ofPresence unmarked],
      by rw [Selection.selects, accepts_ofNull unmarked], fun missing => ?_⟩
    apply Json.alike_null.mpr
    apply Document.lookup_of_not_hasField
    exact eq_of_beq missing

/-- What does not read as null is there. -/
theorem narrows_nonNull (unmarked : ¬IsMarked path) (c : Collation) :
    Selection.Narrows ⟨ofNonNull path, c⟩ ⟨ofPresence path true, c⟩ where
  sortKey := (sortKey_single unmarked _).trans (sortKey_single unmarked _).symm
  selects id doc := by
    refine ⟨_, _, by rw [Selection.selects, accepts_ofNonNull unmarked],
      by rw [Selection.selects, accepts_ofPresence unmarked], fun differs => ?_⟩
    rw [beq_iff_eq]
    by_contra missing
    have null : doc.lookup id path = .null :=
      Document.lookup_of_not_hasField (eq_false_of_ne_true missing)
    rw [Json.alike_null.mpr null] at differs
    cases differs

end Filter

/-! ## The two walks -/

/-- **What is at a path and whether anything is there go together.**  Where nothing is, null is
found; what is found and is not null is there; and where something is, what is found is the value at
the path, and it alone.  So for a path that is no operator, the records in which nothing is there
are among those in which it reads as null, and those in which it reads as anything but null are
among those in which something is there, whichever collection of either store is searched. -/
theorem Document.presence_agrees (id : RecordId) (doc : Document) (path : String) :
    (doc.hasField path = false → doc.lookup id path = .null) ∧
    (doc.lookup id path ≠ .null → doc.hasField path = true) ∧
    (doc.hasField path = true → ∀ v, doc.Has id path v ↔ v = doc.lookup id path) ∧
    (¬IsMarked path → ∀ c : Collation,
      ((Filter.ofPresence path false).accepts c id doc = .ok true →
        (Filter.ofNull path).accepts c id doc = .ok true) ∧
      ((Filter.ofNonNull path).accepts c id doc = .ok true →
        (Filter.ofPresence path true).accepts c id doc = .ok true) ∧
      ∀ (s : Store) (ns : Namespace),
        FoundAmong (s.candidates ns ⟨Filter.ofPresence path false, c⟩)
          (s.candidates ns ⟨Filter.ofNull path, c⟩) ∧
        FoundAmong (s.candidates ns ⟨Filter.ofNonNull path, c⟩)
          (s.candidates ns ⟨Filter.ofPresence path true, c⟩)) := by
  have missing_null : doc.hasField path = false → doc.lookup id path = .null :=
    lookup_of_not_hasField
  have found_there : doc.lookup id path ≠ .null → doc.hasField path = true := fun differs =>
    eq_true_of_ne_false (mt missing_null differs)
  refine ⟨missing_null, found_there, fun there v => ?_,
    fun unmarked c => ⟨?_, ?_, fun s ns => ⟨?_, ?_⟩⟩⟩
  · obtain ⟨w, held⟩ := hasField_iff.mp there
    constructor
    · exact Has.eq_lookup
    · rintro rfl
      exact held.eq_lookup ▸ held
  · rw [Filter.accepts_ofPresence unmarked, Filter.accepts_ofNull unmarked, Except.ok.injEq,
      Except.ok.injEq, beq_iff_eq, Json.alike_null]
    exact missing_null
  · rw [Filter.accepts_ofNonNull unmarked, Filter.accepts_ofPresence unmarked, Except.ok.injEq,
      Except.ok.injEq, beq_iff_eq, Bool.not_eq_true', ← Bool.not_eq_true, Json.alike_null]
    exact found_there
  · exact s.foundAmong_candidates (Filter.narrows_missing unmarked c) ns
  · exact s.foundAmong_candidates (Filter.narrows_nonNull unmarked c) ns

/-- The payment of an order is there, and null; a place beyond its list of tags is not; and its id
is found whatever it holds.  So of two orders a filter for an unpaid one finds more than a filter
for one without a payment. -/
theorem Document.presence_agrees_orders :
    let doc : Document := [("paid", .object [("on", .null)]), ("tags", .array [.string "x"]),
      ("_id", .null)]
    let other : Document := [("paid", .string "cash")]
    let records : Records := Std.TreeMap.ofList [(RecordId.mk "a", doc), (RecordId.mk "b", other)]
    let ns : Namespace := ⟨"crm", "orders"⟩
    let store : Store := .memory { collections := Std.TreeMap.ofList [(ns, records)] }
    doc.hasField "tags.0" = false ∧ doc.lookup ⟨"a"⟩ "tags.0" = .null ∧
      doc.lookup ⟨"a"⟩ "_id" ≠ .null ∧ doc.hasField "_id" = true ∧
      doc.hasField "paid.on" = true ∧ doc.Has ⟨"a"⟩ "paid.on" .null ∧
      ¬IsMarked "paid.on" ∧
      (∃ found more, store.candidates ns ⟨Filter.ofPresence "paid.on" false, .simple⟩ = .ok found ∧
        store.candidates ns ⟨Filter.ofNull "paid.on", .simple⟩ = .ok more ∧
        found.Sublist more ∧ found.length = 1 ∧ more.length = 2) := by
  intro doc other records ns store
  obtain ⟨missing, -⟩ := presence_agrees ⟨"a"⟩ doc "tags.0"
  obtain ⟨-, there, -⟩ := presence_agrees ⟨"a"⟩ doc "_id"
  obtain ⟨-, -, held, narrower⟩ := presence_agrees ⟨"a"⟩ doc "paid.on"
  have absent : doc.hasField "tags.0" = false := by decide +kernel
  have named : doc.lookup ⟨"a"⟩ "_id" ≠ .null := by
    intro null
    cases null
  have present : doc.hasField "paid.on" = true := by decide +kernel
  have null : Json.null = doc.lookup ⟨"a"⟩ "paid.on" := by rfl
  have unmarked : ¬IsMarked "paid.on" := by decide
  obtain ⟨-, -, among⟩ := narrower unmarked .simple
  obtain ⟨fewer, -⟩ := among store ns
  let orders : MemoryStore := { collections := Std.TreeMap.ofList [(ns, records)] }
  have listed : (orders.records ns).toList = [(⟨"a"⟩, doc), (⟨"b"⟩, other)] := by cbv
  have first : store.candidates ns ⟨Filter.ofPresence "paid.on" false, .simple⟩ =
      .ok [(.null, ⟨"b"⟩)] := by
    show Selection.candidates _ (orders.records ns).toList = _
    rw [listed]
    rfl
  have second : store.candidates ns ⟨Filter.ofNull "paid.on", .simple⟩ =
      .ok [(.null, ⟨"a"⟩), (.null, ⟨"b"⟩)] := by
    show Selection.candidates _ (orders.records ns).toList = _
    rw [listed]
    rfl
  rw [first, second] at fewer
  exact ⟨absent, missing absent, named, there named, present, (held present _).mpr null, unmarked,
    _, _, first, second, fewer, rfl, rfl⟩

end PacedPurge
