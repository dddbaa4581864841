import PacedPurge.Store.Selection

/-!
# Faults of a filter

Whether a condition makes sense has nothing to do with the record: an operator faults on every
record or on none (`Subject.satisfies_error_iff`).  But conditions are examined up to the first that
fails, so a fault can stay hidden behind one that fails.  It cannot stay hidden from a record that
the filter accepts, which meets all conditions: a filter that accepts some record faults on none
(`Filter.accepts_ok_of_accepts`).
-/

namespace PacedPurge

namespace Subject

variable {s : Subject} {field : String}

/-- Whether an operator faults is decided by its operand. -/
theorem satisfies_error_iff (s s' : Subject) (field : String) (op : Operator) (operand : Json)
    (fault : FilterFault) :
    s.satisfies field op operand = .error fault ↔ s'.satisfies field op operand = .error fault := by
  cases op with
  | isIn | notIn | present => cases operand <;> simp [satisfies]
  | _ => simp [satisfies]

/-- An operator that does not fault on one record faults on none. -/
theorem satisfies_ok (s' : Subject) {op : Operator} {operand : Json} {b : Bool}
    (h : s.satisfies field op operand = .ok b) : ∃ b', s'.satisfies field op operand = .ok b' := by
  cases h' : s'.satisfies field op operand with
  | ok b' => exact ⟨b', rfl⟩
  | error fault =>
    rw [(satisfies_error_iff s' s field op operand fault).mp h'] at h
    cases h

theorem satisfiesAll_ok (s' : Subject) {operators : Members}
    (h : s.satisfiesAll field operators = .ok true) :
    ∃ b, s'.satisfiesAll field operators = .ok b := by
  induction operators with
  | nil => exact ⟨true, rfl⟩
  | cons entry rest ih =>
    obtain ⟨name, operand⟩ := entry
    unfold satisfiesAll at h ⊢
    cases hop : Operator.ofName? name with
    | none => simp [hop] at h
    | some op =>
      simp only [hop] at h ⊢
      split at h
      · cases h
      · cases h
      · next hone =>
        obtain ⟨b, hb⟩ := satisfies_ok s' hone
        rw [hb]
        cases b with
        | false => exact ⟨false, rfl⟩
        | true => exact ih h

theorem meets_ok (s' : Subject) {condition : Json} (h : s.meets field condition = .ok true) :
    ∃ b, s'.meets field condition = .ok b := by
  unfold meets at h ⊢
  split at h
  · cases h
  · next named =>
    rw [if_neg named]
    split at h
    · exact satisfiesAll_ok s' h
    · exact ⟨_, rfl⟩

theorem meetsAll_ok (s' : Subject) {fields : Members} (h : s.meetsAll fields = .ok true) :
    ∃ b, s'.meetsAll fields = .ok b := by
  induction fields with
  | nil => exact ⟨true, rfl⟩
  | cons entry rest ih =>
    obtain ⟨field, condition⟩ := entry
    unfold meetsAll at h ⊢
    split at h
    · cases h
    · cases h
    · next hone =>
      obtain ⟨b, hb⟩ := meets_ok s' hone
      rw [hb]
      cases b with
      | false => exact ⟨false, rfl⟩
      | true => exact ih h

end Subject

/-- **A filter that accepts some record faults on none.** -/
theorem Filter.accepts_ok_of_accepts {f : Filter} {c : Collation} {id : RecordId} {doc : Document}
    (h : f.accepts c id doc = .ok true) (id' : RecordId) (doc' : Document) :
    ∃ b, f.accepts c id' doc' = .ok b :=
  Subject.meetsAll_ok ⟨id', doc', c⟩ h

/-- A selection that selects some record is stopped by none. -/
theorem Selection.selects_ok_of_selects {s : Selection} {id : RecordId} {doc : Document}
    (h : s.selects id doc = .ok true) (id' : RecordId) (doc' : Document) :
    ∃ b, s.selects id' doc' = .ok b := by
  unfold selects at h ⊢
  split at h
  · next b haccepts =>
    obtain rfl := Except.ok.inj h
    obtain ⟨b', hb'⟩ := Filter.accepts_ok_of_accepts haccepts id' doc'
    exact ⟨b', by rw [hb']⟩
  · cases h

end PacedPurge
