import PacedPurge.Store.Keyed

/-!
# The names of partitions

A keyed store keeps a collection in the partition whose name is that of its database, two
underscores and the name of the collection.  Underscores may stand in both names as well, so the
name of a partition can be cut in more ways than one, and two collections can share a partition.
They do exactly if the two cuts lie apart by one underscore, or by two and what stands between them:
one database is then named like the other with the difference behind it, and the collections the
other way round (`partitionName_eq_iff`).
-/

namespace PacedPurge

/-- The name of a partition is cut for `b` at a later place than for `a`. -/
def Namespace.CutBefore (a b : Namespace) : Prop :=
  (b.database = a.database ++ "_" ∧ a.collection = "_" ++ b.collection) ∨
    ∃ middle, b.database = a.database ++ "__" ++ middle ∧
      a.collection = middle ++ "__" ++ b.collection

/-- Where a later separator can stand. -/
theorem separator_eq_append_iff {rest rest' more : List Char} :
    '_' :: '_' :: rest = more ++ '_' :: '_' :: rest' ↔
      (more = [] ∧ rest = rest') ∨ (more = ['_'] ∧ rest = '_' :: rest') ∨
        ∃ middle, more = '_' :: '_' :: middle ∧ rest = middle ++ '_' :: '_' :: rest' := by
  cases more with
  | nil => simp
  | cons first more =>
    cases more with
    | nil => simp [eq_comm]
    | cons second middle =>
      simp only [List.cons_append, List.cons.injEq, reduceCtorEq, false_and, and_false, false_or]
      constructor
      · rintro ⟨rfl, rfl, hrest⟩
        exact ⟨middle, ⟨rfl, rfl, rfl⟩, hrest⟩
      · rintro ⟨m, ⟨rfl, rfl, rfl⟩, hrest⟩
        exact ⟨rfl, rfl, hrest⟩

namespace Namespace

/-- The second cut is not before the first. -/
theorem cut_after_iff (a b : Namespace) :
    (∃ more, b.database.toList = a.database.toList ++ more ∧
      '_' :: '_' :: a.collection.toList = more ++ '_' :: '_' :: b.collection.toList) ↔
        a = b ∨ a.CutBefore b := by
  obtain ⟨database, collection⟩ := a
  obtain ⟨database', collection'⟩ := b
  simp only [separator_eq_append_iff, CutBefore, mk.injEq, ← String.toList_inj,
    String.toList_append]
  constructor
  · rintro ⟨more, hdb, ⟨rfl, hcoll⟩ | ⟨rfl, hcoll⟩ | ⟨middle, rfl, hcoll⟩⟩
    · exact .inl ⟨by simpa using hdb.symm, hcoll⟩
    · exact .inr (.inl ⟨hdb, hcoll⟩)
    · refine .inr (.inr ⟨String.ofList middle, ?_, ?_⟩)
      · simpa using hdb
      · simpa using hcoll
  · rintro (⟨hdb, hcoll⟩ | ⟨hdb, hcoll⟩ | ⟨middle, hdb, hcoll⟩)
    · exact ⟨[], by simpa using hdb.symm, .inl ⟨rfl, hcoll⟩⟩
    · exact ⟨['_'], hdb, .inr (.inl ⟨rfl, hcoll⟩)⟩
    · refine ⟨'_' :: '_' :: middle.toList, ?_, .inr (.inr ⟨middle.toList, rfl, ?_⟩)⟩
      · simpa using hdb
      · simpa using hcoll

end Namespace

namespace KeyedStore

theorem partitionName_eq_ok {ns : Namespace} {name : String} (h : partitionName ns = .ok name) :
    name = ns.database ++ "__" ++ ns.collection := by
  unfold partitionName at h
  split at h
  · exact (Except.ok.inj h).symm
  · cases h

/-- **Which collections share a partition.**  Those whose names are different cuts of its name. -/
theorem partitionName_eq_iff {a b : Namespace} {name name' : String}
    (ha : partitionName a = .ok name) (hb : partitionName b = .ok name') :
    name = name' ↔ a = b ∨ a.CutBefore b ∨ b.CutBefore a := by
  have written : ∀ ns : Namespace, (ns.database ++ "__" ++ ns.collection).toList =
      ns.database.toList ++ '_' :: '_' :: ns.collection.toList := by
    intro ns
    simp
  rw [partitionName_eq_ok ha, partitionName_eq_ok hb, ← String.toList_inj, written, written,
    List.append_eq_append_iff]
  constructor
  · rintro (later | ⟨more, hdb, hrest⟩)
    · rcases (Namespace.cut_after_iff a b).mp later with same | before
      · exact .inl same
      · exact .inr (.inl before)
    · rcases (Namespace.cut_after_iff b a).mp ⟨more, hdb, hrest⟩ with same | before
      · exact .inl same.symm
      · exact .inr (.inr before)
  · rintro (same | before | after)
    · exact .inl ((Namespace.cut_after_iff a b).mpr (.inl same))
    · exact .inl ((Namespace.cut_after_iff a b).mpr (.inr before))
    · exact .inr ((Namespace.cut_after_iff b a).mpr (.inr after))

/-- A partition can be opened if its name is not too long. -/
theorem openName_eq_ok_iff {ns : Namespace} {name : String} :
    openName ns = .ok name ↔ partitionName ns = .ok name ∧ name.length ≤ maxNameLength := by
  unfold openName
  cases partitionName ns with
  | error e => simp
  | ok whole =>
    by_cases long : maxNameLength < whole.length
    · simp only [if_pos long, reduceCtorEq, Except.ok.injEq, false_iff, not_and]
      rintro rfl
      omega
    · simp only [if_neg long, Except.ok.injEq]
      constructor
      · rintro rfl
        exact ⟨rfl, by omega⟩
      · exact fun h => h.1

end KeyedStore

end PacedPurge
