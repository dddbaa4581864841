import PacedPurge.Document.Path

/-!
# Places in a document

A path is a list of keys, none of which has a point in it, written one behind the other with points
in between.  It is read as the list that it writes, of which there is one only (`segments_eq_iff`).

What is at a place is said here without a search: a value is reached through nested objects key by
key (`Json.Reaches`), and the path `_id` leads to the id of the record (`Document.Has`).  At most
one value is at a path (`Document.Has.eq_lookup`), a field is there exactly if a value is
(`Document.hasField_iff`), and a path to nothing reads as null (`Document.reads_iff`).
-/

namespace PacedPurge

/-! ## Paths and the keys that they write -/

/-- A path writes these keys, one behind the other with points in between. -/
def Writes (path : String) (keys : List String) : Prop :=
  keys ≠ [] ∧ (∀ key ∈ keys, '.' ∉ key.toList) ∧
    path.toList = ['.'].intercalate (keys.map String.toList)

theorem splitAtPoints_eq (cs : List Char) : splitAtPoints cs = cs.splitOn '.' := by
  induction cs with
  | nil => rfl
  | cons c rest ih =>
    rw [splitAtPoints, ih, List.splitOn, List.splitOn, List.splitOnP_cons_eq_if_modifyHead]
    rcases h : rest.splitOnP (· == '.') with _ | ⟨piece, pieces⟩
    · exact absurd h (List.splitOnP_ne_nil _ _)
    · by_cases point : c = '.'
      · simp [point]
      · simp [point]

/-- The pieces between points have no points in them. -/
theorem not_mem_splitAtPoints {cs piece : List Char} (h : piece ∈ splitAtPoints cs) :
    '.' ∉ piece := by
  induction cs generalizing piece with
  | nil =>
    rw [splitAtPoints, List.mem_singleton] at h
    simp [h]
  | cons c rest ih =>
    rw [splitAtPoints] at h
    rcases split : splitAtPoints rest with _ | ⟨first, pieces⟩
    · rw [splitAtPoints_eq] at split
      exact absurd split (List.splitOnP_ne_nil _ _)
    · rw [split] at ih h
      simp only at h
      by_cases point : c = '.'
      · rw [if_pos point] at h
        rcases List.mem_cons.mp h with rfl | later
        · exact List.not_mem_nil
        · exact ih later
      · rw [if_neg point] at h
        rcases List.mem_cons.mp h with rfl | later
        · rw [List.mem_cons, not_or]
          exact ⟨Ne.symm point, ih List.mem_cons_self⟩
        · exact ih (List.mem_cons_of_mem first later)

/-- **The segments of a path** are the keys that it writes. -/
theorem segments_eq_iff {path : String} {keys : List String} :
    segments path = keys ↔ Writes path keys := by
  have pieces : (segments path).map String.toList = path.toList.splitOn '.' := by
    rw [segments, List.map_map, ← splitAtPoints_eq]
    exact (List.map_congr_left fun piece _ => String.toList_ofList).trans (List.map_id _)
  constructor
  · rintro rfl
    refine ⟨fun none => ?_, fun key hkey => ?_, ?_⟩
    · rw [none] at pieces
      exact List.splitOnP_ne_nil _ _ pieces.symm
    · rw [segments] at hkey
      obtain ⟨piece, hpiece, rfl⟩ := List.mem_map.mp hkey
      rw [String.toList_ofList]
      exact not_mem_splitAtPoints hpiece
    · rw [pieces, List.intercalate_splitOn]
  · rintro ⟨some_key, apart, written⟩
    have points : ∀ piece ∈ keys.map String.toList, '.' ∉ piece := by
      intro piece hpiece
      obtain ⟨key, hkey, rfl⟩ := List.mem_map.mp hpiece
      exact apart key hkey
    rw [written, List.splitOn_intercalate '.' points (by simpa using some_key)] at pieces
    exact (List.map_inj_right fun _ _ => String.toList_inj.mp).mp pieces

/-! ## What is at a place -/

/-- A value is reached through nested objects, key by key. -/
inductive Json.Reaches : Json → List String → Json → Prop
  | here (v : Json) : Reaches v [] v
  | through {members : Members} {key : String} {keys : List String} {inner v : Json}
      (found : members.get? key = some inner) (onward : Reaches inner keys v) :
      Reaches (.object members) (key :: keys) v

namespace Json

theorem Reaches.walk_eq {value v : Json} {keys : List String} (h : value.Reaches keys v) :
    value.walk keys = v := by
  induction h with
  | here v => rw [walk]
  | through found onward ih =>
    rw [walk, get?, found]
    exact ih

theorem leads_iff {value : Json} {keys : List String} :
    value.leads keys = true ↔ ∃ v, value.Reaches keys v := by
  constructor
  · intro h
    induction keys generalizing value with
    | nil => exact ⟨value, .here value⟩
    | cons key keys ih =>
      rw [leads] at h
      cases value with
      | object members =>
        rcases found : Members.get? members key with _ | inner
        · simp only [get?, found, reduceCtorEq] at h
        · simp only [get?, found] at h
          obtain ⟨v, onward⟩ := ih h
          exact ⟨v, .through found onward⟩
      | _ => cases h
  · rintro ⟨v, h⟩
    induction h with
    | here v => rw [leads]
    | through found onward ih =>
      rw [leads, get?, found]
      exact ih

/-- A way that breaks off leads to null. -/
theorem walk_of_not_leads {value : Json} {keys : List String} (h : value.leads keys = false) :
    value.walk keys = .null := by
  induction keys generalizing value with
  | nil => cases h
  | cons key keys ih =>
    rw [leads] at h
    rw [walk]
    rcases found : value.get? key with _ | inner
    · rfl
    · rw [found] at h
      exact ih h

end Json

namespace Document

/-- A value is at a path of a record: its id at the path `_id`, and else what is reached in the
document by the keys that the path writes. -/
def Has (doc : Document) (id : RecordId) (path : String) (v : Json) : Prop :=
  if path = idPath then v = .string id.text
  else ∃ keys, Writes path keys ∧ (Json.object doc).Reaches keys v

/-- What a path of a record reads as: the value at the path, and null if there is none. -/
def Reads (doc : Document) (id : RecordId) (path : String) (v : Json) : Prop :=
  doc.Has id path v ∨ (¬∃ w, doc.Has id path w) ∧ v = .null

variable {doc : Document} {id : RecordId} {path : String} {v : Json}

theorem has_iff_reaches (h : path ≠ idPath) :
    doc.Has id path v ↔ (Json.object doc).Reaches (segments path) v := by
  rw [Has, if_neg h]
  constructor
  · rintro ⟨keys, writes, reached⟩
    rwa [segments_eq_iff.mpr writes]
  · exact fun reached => ⟨segments path, segments_eq_iff.mp rfl, reached⟩

/-- What is at a path is found there. -/
theorem Has.eq_lookup (h : doc.Has id path v) : v = doc.lookup id path := by
  by_cases own : path = idPath
  · rw [Has, if_pos own] at h
    rw [lookup, if_pos own, h]
  · rw [lookup, if_neg own, ((has_iff_reaches own).mp h).walk_eq]

/-- A field is there exactly if there is a value at its path. -/
theorem hasField_iff : doc.hasField path = true ↔ ∃ v, doc.Has id path v := by
  by_cases own : path = idPath
  · simp only [hasField, own, decide_true, Bool.true_or, true_iff]
    exact ⟨.string id.text, by rw [Has, if_pos rfl]⟩
  · simp only [hasField, own, decide_false, Bool.false_or, Json.leads_iff, has_iff_reaches own]

/-- Where nothing is, null is found. -/
theorem lookup_of_not_hasField (h : doc.hasField path = false) : doc.lookup id path = .null := by
  rw [hasField, Bool.or_eq_false_iff, decide_eq_false_iff_not] at h
  rw [lookup, if_neg h.1]
  exact Json.walk_of_not_leads h.2

/-- **What a path reads as** is what is found there. -/
theorem reads_iff : doc.Reads id path v ↔ v = doc.lookup id path := by
  constructor
  · rintro (there | ⟨missing, rfl⟩)
    · exact there.eq_lookup
    · rw [← hasField_iff, Bool.not_eq_true] at missing
      exact (lookup_of_not_hasField missing).symm
  · rintro rfl
    by_cases there : ∃ w, doc.Has id path w
    · obtain ⟨w, hw⟩ := there
      exact .inl (hw.eq_lookup ▸ hw)
    · have missing : ¬doc.hasField path = true := mt hasField_iff.mp there
      exact .inr ⟨there, lookup_of_not_hasField (eq_false_of_ne_true missing)⟩

end Document

end PacedPurge
