import Mathlib.Data.List.Basic
import PacedPurge.Filter.Matching
import PacedPurge.Proofs.Document.Places

/-!
# What a filter asks for

A filter is read as a conjunction of elementary conditions, its clauses (`Filter.clauses`), in
written order: one for a field with a plain value, and one for each operator where the condition
consists of operators.  Whether a clause makes sense is a question of its text alone
(`Clause.WellFormed`).  Whether it holds is said of the value that its path reads as
(`Clause.Holds`).

Matching examines the clauses one by one and stops at the first that is ill-formed or does not hold
(`Filter.accepts_eq_examine`, `Subject.examine_eq_iff`).  The three answers are told by what stands
there and what comes before it (`Filter.accepts_tells`).  In particular a record is accepted exactly
if all clauses are well-formed and hold, in whatever order they are written; and a filter with a
clause that is ill-formed accepts nothing, wherever the examination stops
(`Filter.IllFormed.accepts_ne_true`).
-/

namespace PacedPurge

/-! ## Clauses -/

/-- A name that begins as those of operators do. -/
def IsMarked (name : String) : Prop := name.toList.head? = some '$'

instance (name : String) : Decidable (IsMarked name) :=
  inferInstanceAs (Decidable (name.toList.head? = some '$'))

/-- The members of an object consist of operators, and there are some. -/
def Members.AreOperators (members : Members) : Prop :=
  members ≠ [] ∧ ∀ m ∈ members, IsMarked m.1

instance (members : Members) : Decidable (Members.AreOperators members) :=
  inferInstanceAs (Decidable (members ≠ [] ∧ ∀ m ∈ members, IsMarked m.1))

/-- An elementary condition. -/
inductive Clause where
  /-- An operator stands where a field belongs. -/
  | misplaced (operator : String)
  /-- The value of a field compares equal to the one wanted. -/
  | equals (field : String) (wanted : Json)
  /-- An operator is applied to a field. -/
  | applies (field operator : String) (operand : Json)

/-- The clauses of a field and its condition. -/
def Clause.ofField (field : String) (condition : Json) : List Clause :=
  if IsMarked field then [.misplaced field]
  else
    match condition with
    | .object members =>
      if Members.AreOperators members then members.map fun m => .applies field m.1 m.2
      else [.equals field condition]
    | _ => [.equals field condition]

/-- The clauses of a filter, in written order. -/
def Filter.clauses (f : Filter) : List Clause :=
  f.fields.flatMap fun m => Clause.ofField m.1 m.2

/-! ## Their meaning -/

namespace Operator

/-- The operator can be used with the operand. -/
def Takes (op : Operator) (operand : Json) : Prop :=
  match op with
  | .isIn | .notIn => ∃ candidates, operand = .array candidates
  | .present => ∃ wanted, operand = .bool wanted
  | _ => True

/-- What the operator asks of a field that reads as `v`; `there` says that something is at its
path. -/
def Asks (c : Collation) (there : Prop) (v : Json) (op : Operator) (operand : Json) : Prop :=
  match op with
  | .eq => Json.order c v operand = .eq
  | .ne => ¬Json.order c v operand = .eq
  | .gt => v.rank = operand.rank ∧ Json.order c v operand = .gt
  | .gte => v.rank = operand.rank ∧ Json.order c v operand ≠ .lt
  | .lt => v.rank = operand.rank ∧ Json.order c v operand = .lt
  | .lte => v.rank = operand.rank ∧ Json.order c v operand ≠ .gt
  | .isIn => ∃ candidates, operand = .array candidates ∧ ∃ x ∈ candidates, Json.order c v x = .eq
  | .notIn => ¬∃ candidates, operand = .array candidates ∧ ∃ x ∈ candidates, Json.order c v x = .eq
  | .present => operand = .bool true ↔ there

end Operator

namespace Clause

/-- The clause makes sense. -/
def WellFormed : Clause → Prop
  | .misplaced _ => False
  | .equals _ _ => True
  | .applies _ operator operand => ∃ op : Operator, op.name = operator ∧ op.Takes operand

/-- The clause holds of a record. -/
def Holds (s : Subject) : Clause → Prop
  | .misplaced _ => False
  | .equals field wanted =>
    ∃ v, s.doc.Reads s.id field v ∧ Json.order s.collation v wanted = .eq
  | .applies field operator operand =>
    ∃ op : Operator, op.name = operator ∧ ∃ v, s.doc.Reads s.id field v ∧
      op.Asks s.collation (∃ w, s.doc.Has s.id field w) v operand

end Clause

/-! ## Names of operators -/

theorem isOperatorName_iff {name : String} : isOperatorName name = true ↔ IsMarked name := by
  unfold isOperatorName IsMarked
  rcases name.toList with _ | ⟨c, rest⟩
  · simp
  · by_cases marked : c = '$'
    · simp [marked]
    · simp [marked]

theorem operators?_eq_some_iff {condition : Json} {members : Members} :
    operators? condition = some members ↔
      condition = .object members ∧ Members.AreOperators members := by
  cases condition with
  | object own =>
    have same : (!own.isEmpty && (Members.keys own).all isOperatorName) = true ↔
        Members.AreOperators own := by
      simp only [Members.keys, Bool.and_eq_true, Bool.not_eq_true', List.isEmpty_eq_false_iff,
        List.all_map, List.all_eq_true, Function.comp_apply, isOperatorName_iff,
        Members.AreOperators]
    simp only [operators?, same, Option.ite_none_right_eq_some, Option.some.injEq,
      Json.object.injEq]
    constructor
    · rintro ⟨operators, rfl⟩
      exact ⟨rfl, operators⟩
    · rintro ⟨rfl, operators⟩
      exact ⟨operators, rfl⟩
  | _ => simp [operators?]

namespace Operator

/-- Different operators have different names. -/
theorem name_injective {op op' : Operator} (h : op.name = op'.name) : op = op' := by
  revert h
  cases op <;> cases op' <;> decide

theorem ofName?_name (op : Operator) : ofName? op.name = some op := by
  cases op <;> decide

theorem isMarked_name (op : Operator) : IsMarked op.name := by
  cases op <;> decide

theorem ofName?_eq_some_iff {name : String} {op : Operator} :
    ofName? name = some op ↔ op.name = name := by
  constructor
  · intro h
    have found := List.find?_some h
    exact eq_of_beq found
  · rintro rfl
    exact ofName?_name op

theorem ofName?_eq_none_iff {name : String} :
    ofName? name = none ↔ ∀ op : Operator, op.name ≠ name := by
  rw [Option.eq_none_iff_forall_ne_some]
  exact forall_congr' fun op => not_congr ofName?_eq_some_iff

end Operator

/-! ## Clauses of a field -/

namespace Clause

variable {field : String}

theorem ofField_of_marked (marked : IsMarked field) (condition : Json) :
    ofField field condition = [.misplaced field] :=
  if_pos marked

theorem ofField_of_operators (unmarked : ¬IsMarked field) {operators : Members}
    (given : Members.AreOperators operators) :
    ofField field (.object operators) = operators.map fun m => .applies field m.1 m.2 := by
  simp only [ofField, if_neg unmarked, if_pos given]

theorem ofField_of_plain (unmarked : ¬IsMarked field) {condition : Json}
    (plain : ¬∃ operators, condition = .object operators ∧ Members.AreOperators operators) :
    ofField field condition = [.equals field condition] := by
  cases condition with
  | object operators =>
    have others : ¬Members.AreOperators operators := fun given => plain ⟨operators, rfl, given⟩
    simp only [ofField, if_neg unmarked, if_neg others]
  | _ => simp only [ofField, if_neg unmarked]

/-- The clauses of a field to which more operators are applied. -/
theorem ofField_subset {operators others : Members} (given : Members.AreOperators operators)
    (given' : Members.AreOperators others) (h : operators ⊆ others) (field : String) :
    ofField field (.object operators) ⊆ ofField field (.object others) := by
  by_cases marked : IsMarked field
  · rw [ofField_of_marked marked, ofField_of_marked marked]
    exact List.Subset.refl _
  · rw [ofField_of_operators marked given, ofField_of_operators marked given']
    exact List.map_subset _ h

end Clause

/-! ## One clause -/

namespace Subject

variable (s : Subject)

/-- What the examination of one clause comes to. -/
def answer : Clause → Except FilterFault Bool
  | .misplaced operator => .error (.topLevelOperator operator)
  | .equals field wanted => .ok (Json.alike s.collation (s.value field) wanted)
  | .applies field operator operand =>
    match Operator.ofName? operator with
    | none => .error (.unknownOperator operator field)
    | some op => s.satisfies field op operand

theorem alike_iff {c : Collation} {v w : Json} : Json.alike c v w = true ↔ Json.order c v w = .eq :=
  beq_iff_eq

theorem inOrder_iff {field : String} {operand : Json} {wanted : Ordering → Bool} :
    s.inOrder field operand wanted = true ↔ (s.value field).rank = operand.rank ∧
      wanted (Json.order s.collation (s.value field) operand) = true := by
  rw [inOrder, Bool.and_eq_true, beq_iff_eq]

/-- An operator answers with what it asks for, if it takes the operand. -/
theorem satisfies_of_takes (field : String) {op : Operator} {operand : Json}
    (takes : op.Takes operand) :
    ∃ b, s.satisfies field op operand = .ok b ∧
      (b = true ↔ op.Asks s.collation (∃ w, s.doc.Has s.id field w) (s.value field) operand) := by
  cases op with
  | eq => exact ⟨_, rfl, alike_iff⟩
  | ne => exact ⟨_, rfl, by rw [Operator.Asks, ← alike_iff, Bool.not_eq_true', Bool.not_eq_true]⟩
  | gt => exact ⟨_, rfl, by rw [inOrder_iff, beq_iff_eq, Operator.Asks]⟩
  | gte => exact ⟨_, rfl, by rw [inOrder_iff, bne_iff_ne, Operator.Asks]⟩
  | lt => exact ⟨_, rfl, by rw [inOrder_iff, beq_iff_eq, Operator.Asks]⟩
  | lte => exact ⟨_, rfl, by rw [inOrder_iff, bne_iff_ne, Operator.Asks]⟩
  | isIn =>
    obtain ⟨candidates, rfl⟩ := takes
    refine ⟨_, rfl, ?_⟩
    simp only [List.any_eq_true, alike_iff, Operator.Asks, Json.array.injEq, exists_eq_left']
  | notIn =>
    obtain ⟨candidates, rfl⟩ := takes
    refine ⟨_, rfl, ?_⟩
    simp only [Bool.not_eq_true', ← Bool.not_eq_true, List.any_eq_true, alike_iff, Operator.Asks,
      Json.array.injEq, exists_eq_left']
  | present =>
    obtain ⟨wanted, rfl⟩ := takes
    refine ⟨_, rfl, ?_⟩
    rw [Operator.Asks, ← Document.hasField_iff, beq_iff_eq, Json.bool.injEq, Bool.eq_iff_iff]
    exact Iff.comm

/-- An operator that does not take its operand faults. -/
theorem satisfies_of_not_takes (field : String) {op : Operator} {operand : Json}
    (refuses : ¬op.Takes operand) : ∃ fault, s.satisfies field op operand = .error fault := by
  cases op with
  | isIn | notIn =>
    cases operand with
    | array candidates => exact absurd ⟨candidates, rfl⟩ refuses
    | _ => exact ⟨_, rfl⟩
  | present =>
    cases operand with
    | bool wanted => exact absurd ⟨wanted, rfl⟩ refuses
    | _ => exact ⟨_, rfl⟩
  | _ => exact absurd trivial refuses

/-- The record passes a clause: it makes sense and holds. -/
def Passes (q : Clause) : Prop := q.WellFormed ∧ q.Holds s

/-- **One clause.**  If it is well-formed the answer is whether it holds, and if not there is an
error. -/
theorem answer_cases (q : Clause) :
    (q.WellFormed ∧ ∃ b, s.answer q = .ok b ∧ (b = true ↔ q.Holds s)) ∨
      (¬q.WellFormed ∧ ∃ fault, s.answer q = .error fault) := by
  have value : ∀ field v, s.doc.Reads s.id field v ↔ v = s.value field := fun _ _ =>
    Document.reads_iff
  cases q with
  | misplaced operator => exact .inr ⟨fun formed => formed, _, rfl⟩
  | equals field wanted =>
    refine .inl ⟨trivial, _, rfl, ?_⟩
    simp only [alike_iff, Clause.Holds, value, exists_eq_left]
  | applies field operator operand =>
    rw [answer]
    rcases named : Operator.ofName? operator with _ | op
    · refine .inr ⟨?_, _, rfl⟩
      rintro ⟨op, own, -⟩
      exact Operator.ofName?_eq_none_iff.mp named op own
    · have own : ∀ op', op'.name = operator ↔ op' = op := by
        intro op'
        rw [← Operator.ofName?_eq_some_iff, named, Option.some.injEq, eq_comm]
      by_cases takes : op.Takes operand
      · obtain ⟨b, answered, asked⟩ := s.satisfies_of_takes field takes
        refine .inl ⟨⟨op, (own op).mpr rfl, takes⟩, b, answered, asked.trans ?_⟩
        simp only [Clause.Holds, own, value, exists_eq_left]
      · refine .inr ⟨?_, s.satisfies_of_not_takes field takes⟩
        rintro ⟨op', named', takes'⟩
        exact takes ((own op').mp named' ▸ takes')

theorem answer_true_iff {q : Clause} : s.answer q = .ok true ↔ s.Passes q := by
  rcases s.answer_cases q with ⟨formed, b, answered, holds⟩ | ⟨unformed, fault, answered⟩
  · rw [answered, Except.ok.injEq, holds, Passes, and_iff_right formed]
  · simp [answered, Passes, unformed]

theorem answer_false_iff {q : Clause} : s.answer q = .ok false ↔ q.WellFormed ∧ ¬q.Holds s := by
  rcases s.answer_cases q with ⟨formed, b, answered, holds⟩ | ⟨unformed, fault, answered⟩
  · rw [answered, Except.ok.injEq, ← holds, Bool.not_eq_true, and_iff_right formed]
  · simp [answered, unformed]

theorem answer_error_iff {q : Clause} : (∃ fault, s.answer q = .error fault) ↔ ¬q.WellFormed := by
  rcases s.answer_cases q with ⟨formed, b, answered, holds⟩ | ⟨unformed, fault, answered⟩
  · simp [answered, formed]
  · simp [answered, unformed]

/-! ## All clauses -/

/-- Examines clauses up to the first that does not pass. -/
def examine : List Clause → Except FilterFault Bool
  | [] => .ok true
  | q :: rest =>
    match s.answer q with
    | .ok true => examine rest
    | stopped => stopped

variable {s} {qs : List Clause}

theorem examine_cons_of_true {q : Clause} (h : s.answer q = .ok true) :
    s.examine (q :: qs) = s.examine qs := by
  rw [examine, h]

theorem examine_cons_of_ne {q : Clause} (h : s.answer q ≠ .ok true) :
    s.examine (q :: qs) = s.answer q := by
  rw [examine]
  split
  · next passed => exact absurd passed h
  · rfl

theorem examine_singleton (q : Clause) : s.examine [q] = s.answer q := by
  rw [examine]
  rcases s.answer q with fault | _ | _ <;> rfl

/-- The examination of more clauses goes on if all have passed before. -/
theorem examine_append (qs more : List Clause) :
    s.examine (qs ++ more) =
      match s.examine qs with
      | .ok true => s.examine more
      | stopped => stopped := by
  induction qs with
  | nil => rfl
  | cons q rest ih =>
    rw [List.cons_append]
    by_cases passed : s.answer q = .ok true
    · rw [examine_cons_of_true passed, examine_cons_of_true passed, ih]
    · rw [examine_cons_of_ne passed, examine_cons_of_ne passed]
      split
      · next h => exact absurd h passed
      · rfl

theorem examine_true_iff : s.examine qs = .ok true ↔ ∀ q ∈ qs, s.Passes q := by
  induction qs with
  | nil => exact ⟨fun _ => nofun, fun _ => rfl⟩
  | cons q rest ih =>
    rw [List.forall_mem_cons, ← ih, ← answer_true_iff]
    by_cases passed : s.answer q = .ok true
    · rw [examine_cons_of_true passed, and_iff_right passed]
    · rw [examine_cons_of_ne passed]
      exact ⟨fun h => absurd h passed, fun h => h.1⟩

/-- **Where an examination stops.**  Any answer but that all have passed is the answer of the first
clause that does not pass. -/
theorem examine_eq_iff {stopped : Except FilterFault Bool} (h : stopped ≠ .ok true) :
    s.examine qs = stopped ↔ ∃ before q after, qs = before ++ q :: after ∧
      (∀ p ∈ before, s.Passes p) ∧ s.answer q = stopped := by
  constructor
  · intro answered
    induction qs with
    | nil => exact absurd answered.symm h
    | cons q rest ih =>
      by_cases passed : s.answer q = .ok true
      · rw [examine_cons_of_true passed] at answered
        obtain ⟨before, q', after, rfl, passing, stops⟩ := ih answered
        refine ⟨q :: before, q', after, rfl, ?_, stops⟩
        exact List.forall_mem_cons.mpr ⟨s.answer_true_iff.mp passed, passing⟩
      · rw [examine_cons_of_ne passed] at answered
        exact ⟨[], q, rest, rfl, nofun, answered⟩
  · rintro ⟨before, q, after, rfl, passing, rfl⟩
    rw [examine_append, examine_true_iff.mpr passing]
    exact examine_cons_of_ne h

/-! ## Matching -/

theorem satisfiesAll_eq_examine (field : String) (members : Members) :
    s.satisfiesAll field members =
      s.examine (members.map fun m => .applies field m.1 m.2) := by
  induction members with
  | nil => rfl
  | cons m rest ih =>
    rw [List.map_cons, satisfiesAll, examine, answer, ← ih]
    rcases Operator.ofName? m.1 with _ | op
    · rfl
    · simp only
      rcases s.satisfies field op m.2 with fault | _ | _ <;> rfl

theorem meets_eq_examine (field : String) (condition : Json) :
    s.meets field condition = s.examine (Clause.ofField field condition) := by
  unfold meets
  by_cases marked : IsMarked field
  · rw [if_pos (isOperatorName_iff.mpr marked), Clause.ofField_of_marked marked]
    rfl
  · rw [if_neg (mt isOperatorName_iff.mp marked)]
    rcases found : operators? condition with _ | members
    · have plain :
          ¬∃ operators, condition = .object operators ∧ Members.AreOperators operators := by
        rintro ⟨operators, same⟩
        rw [operators?_eq_some_iff.mpr same] at found
        cases found
      rw [Clause.ofField_of_plain marked plain, examine_singleton]
      rfl
    · obtain ⟨rfl, operators⟩ := operators?_eq_some_iff.mp found
      rw [Clause.ofField_of_operators marked operators]
      exact satisfiesAll_eq_examine field members

theorem meetsAll_eq_examine (fields : Members) :
    s.meetsAll fields = s.examine (fields.flatMap fun m => Clause.ofField m.1 m.2) := by
  induction fields with
  | nil => rfl
  | cons m rest ih =>
    rw [List.flatMap_cons, examine_append, meetsAll, meets_eq_examine, ih]
    rcases s.examine (Clause.ofField m.1 m.2) with fault | _ | _ <;> rfl

end Subject

namespace Filter

variable {f g : Filter} {c : Collation} {id : RecordId} {doc : Document}

/-- **Matching is the examination of the clauses** in written order. -/
theorem accepts_eq_examine (f : Filter) (c : Collation) (id : RecordId) (doc : Document) :
    f.accepts c id doc = Subject.examine ⟨id, doc, c⟩ f.clauses :=
  Subject.meetsAll_eq_examine f.fields

/-- A record is accepted exactly if it passes all clauses. -/
theorem accepts_true_iff :
    f.accepts c id doc = .ok true ↔ ∀ q ∈ f.clauses, Subject.Passes ⟨id, doc, c⟩ q := by
  rw [accepts_eq_examine, Subject.examine_true_iff]

/-! ## One operator -/

/-- The filter that applies one operator to one field. -/
def applying (field : String) (op : Operator) (operand : Json) : Filter :=
  ⟨[(field, .object [(op.name, operand)])]⟩

/-- A filter of one operator tells what the operator tells. -/
theorem accepts_applying {field : String} (unmarked : ¬IsMarked field) (op : Operator)
    (operand : Json) (c : Collation) (id : RecordId) (doc : Document) :
    (applying field op operand).accepts c id doc =
      Subject.satisfies ⟨id, doc, c⟩ field op operand := by
  have operators : Members.AreOperators [(op.name, operand)] := by
    refine ⟨List.cons_ne_nil _ _, fun m hm => ?_⟩
    rw [List.mem_singleton.mp hm]
    exact op.isMarked_name
  have clauses : (applying field op operand).clauses = [.applies field op.name operand] := by
    simp only [Filter.clauses, applying, List.flatMap_singleton,
      Clause.ofField_of_operators unmarked operators, List.map_singleton]
  rw [accepts_eq_examine, clauses, Subject.examine_singleton, Subject.answer,
    Operator.ofName?_name]

/-! ## More clauses, and clauses in another order -/

/-- A filter with more clauses accepts no more records. -/
theorem accepts_of_subset (h : f.clauses ⊆ g.clauses) (accepted : g.accepts c id doc = .ok true) :
    f.accepts c id doc = .ok true :=
  accepts_true_iff.mpr fun q hq => accepts_true_iff.mp accepted q (h hq)

theorem clauses_subset_of_fields (h : f.fields ⊆ g.fields) : f.clauses ⊆ g.clauses := by
  intro q hq
  obtain ⟨m, hm, hq⟩ := List.mem_flatMap.mp hq
  exact List.mem_flatMap.mpr ⟨m, h hm, hq⟩

/-- The clauses of a filter in which more operators are applied to one field. -/
theorem clauses_subset_of_operators {front back operators others : Members} {field : String}
    (given : Members.AreOperators operators) (given' : Members.AreOperators others)
    (h : operators ⊆ others) :
    clauses ⟨front ++ (field, .object operators) :: back⟩ ⊆
      clauses ⟨front ++ (field, .object others) :: back⟩ := by
  intro q hq
  simp only [clauses, List.flatMap_append, List.flatMap_cons, List.mem_append] at hq ⊢
  rcases hq with before | own | behind
  · exact .inl before
  · exact .inr (.inl (Clause.ofField_subset given given' h field own))
  · exact .inr (.inr behind)

/-! ## Filters that make no sense -/

/-- A condition that applies an operator makes no sense: there is no such operator, or its operand
is not of the kind that it needs. -/
def Senseless (operator : String) (operand : Json) : Prop :=
  operator ∉ ["$eq", "$ne", "$gt", "$gte", "$lt", "$lte", "$in", "$nin", "$exists"] ∨
    (operator = "$in" ∨ operator = "$nin") ∧ (∀ candidates, operand ≠ .array candidates) ∨
    operator = "$exists" ∧ ∀ wanted, operand ≠ .bool wanted

/-- Some part of the filter makes no sense, as its text alone tells: an operator stands where a
field belongs, or one that makes no sense is among those that are applied to a field. -/
def IllFormed (f : Filter) : Prop :=
  ∃ m ∈ f.fields, IsMarked m.1 ∨ ∃ operators, m.2 = .object operators ∧
    Members.AreOperators operators ∧ ∃ o ∈ operators, Senseless o.1 o.2

theorem senseless_iff (field : String) {operator : String} {operand : Json} :
    Senseless operator operand ↔ ¬(Clause.applies field operator operand).WellFormed := by
  have listed : ["$eq", "$ne", "$gt", "$gte", "$lt", "$lte", "$in", "$nin", "$exists"] =
      Operator.all.map Operator.name := rfl
  by_cases named : ∃ op : Operator, op.name = operator
  · obtain ⟨op, rfl⟩ := named
    have takes : (Clause.applies field op.name operand).WellFormed ↔ op.Takes operand := by
      constructor
      · rintro ⟨op', same, takes⟩
        exact Operator.name_injective same ▸ takes
      · exact fun takes => ⟨op, rfl, takes⟩
    rw [takes]
    cases op <;> simp [Senseless, Operator.name, Operator.Takes]
  · have unformed : ¬(Clause.applies field operator operand).WellFormed := by
      rintro ⟨op, same, -⟩
      exact named ⟨op, same⟩
    have unlisted : operator ∉ Operator.all.map Operator.name := by
      intro hmem
      obtain ⟨op, -, same⟩ := List.mem_map.mp hmem
      exact named ⟨op, same⟩
    rw [Senseless, listed]
    exact ⟨fun _ => unformed, fun _ => .inl unlisted⟩

/-- The clauses of a field are ill-formed where its name or its operators make no sense. -/
theorem exists_unformed_iff (field : String) (condition : Json) :
    (∃ q ∈ Clause.ofField field condition, ¬q.WellFormed) ↔
      IsMarked field ∨ ∃ operators, condition = .object operators ∧
        Members.AreOperators operators ∧ ∃ o ∈ operators, Senseless o.1 o.2 := by
  by_cases marked : IsMarked field
  · simp [Clause.ofField_of_marked marked, marked, Clause.WellFormed]
  by_cases applied : ∃ operators, condition = .object operators ∧ Members.AreOperators operators
  · obtain ⟨operators, rfl, given⟩ := applied
    rw [Clause.ofField_of_operators marked given]
    simp [marked, given, senseless_iff field]
  · rw [Clause.ofField_of_plain marked applied]
    constructor
    · rintro ⟨q, hq, unformed⟩
      rw [List.mem_singleton.mp hq] at unformed
      exact absurd trivial unformed
    · rintro (name | ⟨operators, same, given, -⟩)
      · exact absurd name marked
      · exact absurd ⟨operators, same, given⟩ applied

/-- A filter is ill-formed exactly if one of its clauses is. -/
theorem illFormed_iff : f.IllFormed ↔ ∃ q ∈ f.clauses, ¬q.WellFormed := by
  simp only [clauses, List.mem_flatMap, IllFormed, ← exists_unformed_iff]
  constructor
  · rintro ⟨m, hm, q, hq, unformed⟩
    exact ⟨q, ⟨m, hm, hq⟩, unformed⟩
  · rintro ⟨q, ⟨m, hm, hq⟩, unformed⟩
    exact ⟨m, hm, q, hq, unformed⟩

/-- An ill-formed filter accepts no record. -/
theorem IllFormed.accepts_ne_true (h : f.IllFormed) : f.accepts c id doc ≠ .ok true := by
  obtain ⟨q, hq, unformed⟩ := illFormed_iff.mp h
  exact fun accepted => unformed (accepts_true_iff.mp accepted q hq).1

/-! ## The answers -/

/-- **What matching tells.**  A record is accepted if all clauses are well-formed and hold.  It is
refused if some clause is well-formed and does not hold, and all before it are well-formed and hold.
There is an error if some clause is ill-formed, and all before it are well-formed and hold.

So the fields of a filter, and the operators that are applied to a field, can be written in any
order without any change in what is accepted; and if fields are added, or operators to those that
are applied to a field, nothing is accepted that was not accepted before. -/
theorem accepts_tells (f : Filter) (c : Collation) (id : RecordId) (doc : Document) :
    let s : Subject := ⟨id, doc, c⟩
    let answer := fun g : Filter => g.accepts c id doc
    (answer f = .ok true ↔ ∀ q ∈ f.clauses, q.WellFormed ∧ q.Holds s) ∧
    (answer f = .ok false ↔ ∃ before q after, f.clauses = before ++ q :: after ∧
      (∀ p ∈ before, p.WellFormed ∧ p.Holds s) ∧ q.WellFormed ∧ ¬q.Holds s) ∧
    ((∃ fault, answer f = .error fault) ↔ ∃ before q after, f.clauses = before ++ q :: after ∧
      (∀ p ∈ before, p.WellFormed ∧ p.Holds s) ∧ ¬q.WellFormed) ∧
    (∀ g : Filter, g.fields.Perm f.fields → (answer g = .ok true ↔ answer f = .ok true)) ∧
    (∀ g : Filter, f.fields ⊆ g.fields → answer g = .ok true → answer f = .ok true) ∧
    ∀ front field operators back, f.fields = front ++ (field, .object operators) :: back →
      Members.AreOperators operators → ∀ others : Members,
        let g : Filter := ⟨front ++ (field, .object others) :: back⟩
        (others.Perm operators → (answer g = .ok true ↔ answer f = .ok true)) ∧
        (Members.AreOperators others → operators ⊆ others → answer g = .ok true →
          answer f = .ok true) := by
  intro s answer
  have examined : answer f = s.examine f.clauses := accepts_eq_examine f c id doc
  refine ⟨accepts_true_iff, ?_, ?_, fun g same => ?_, fun g more => ?_,
    fun front field operators back split given others => ⟨fun same => ?_, fun given' more => ?_⟩⟩
  · have differ : (Except.ok false : Except FilterFault Bool) ≠ .ok true := by simp
    rw [examined, Subject.examine_eq_iff differ]
    simp only [Subject.answer_false_iff, Subject.Passes]
  · -- The first clause that does not pass faults with some fault exactly if it is ill-formed.
    have stops : ∀ fault, answer f = .error fault ↔ ∃ before q after,
        f.clauses = before ++ q :: after ∧ (∀ p ∈ before, s.Passes p) ∧
          s.answer q = .error fault := by
      intro fault
      rw [examined]
      exact Subject.examine_eq_iff nofun
    simp only [stops]
    constructor
    · rintro ⟨fault, before, q, after, split, passing, stopped⟩
      exact ⟨before, q, after, split, passing, s.answer_error_iff.mp ⟨fault, stopped⟩⟩
    · rintro ⟨before, q, after, split, passing, unformed⟩
      obtain ⟨fault, stopped⟩ := s.answer_error_iff.mpr unformed
      exact ⟨fault, before, q, after, split, passing, stopped⟩
  · exact ⟨accepts_of_subset (clauses_subset_of_fields same.symm.subset),
      accepts_of_subset (clauses_subset_of_fields same.subset)⟩
  · exact accepts_of_subset (clauses_subset_of_fields more)
  · obtain ⟨fields⟩ := f
    obtain rfl : fields = _ := split
    have given' : Members.AreOperators others := by
      refine ⟨fun none => given.1 ?_, fun m hm => given.2 m (same.subset hm)⟩
      rw [none] at same
      exact same.symm.eq_nil
    exact ⟨accepts_of_subset (clauses_subset_of_operators given given' same.symm.subset),
      accepts_of_subset (clauses_subset_of_operators given' given same.subset)⟩
  · obtain ⟨fields⟩ := f
    obtain rfl : fields = _ := split
    exact accepts_of_subset (clauses_subset_of_operators given given' more)

/-- An order that is settled, of a middling total and not paid is accepted by a filter for such
orders, in whatever order its fields and operators are written, and so it is when less is asked for.
A filter that begins with a false condition refuses it before a senseless one is seen. -/
theorem accepts_tells_order :
    let id : RecordId := ⟨"a"⟩
    let doc : Document := [("state", .string "settled"), ("total", .ofInt 7), ("paid", .object [])]
    let state : String × Json :=
      ("state", .object [("$in", .array [.string "open", .string "settled"])])
    let between : Members := [("$gte", .ofInt 5), ("$lt", .ofInt 9)]
    let total : String × Json := ("total", .object between)
    let paid : String × Json := ("paid.on", .null)
    let f : Filter := ⟨[state, total, paid]⟩
    let turned : Filter := ⟨[paid, state, total]⟩
    let within : Filter := ⟨[state] ++ ("total", .object between.reverse) :: [paid]⟩
    let hasty : Filter := ⟨[("total", .object [("$gt", .ofInt 8), ("$regex", .string "x")])]⟩
    f.accepts .simple id doc = .ok true ∧
      turned.fields.Perm f.fields ∧ turned.accepts .simple id doc = .ok true ∧
      Members.AreOperators between ∧ within.accepts .simple id doc = .ok true ∧
      accepts ⟨[total]⟩ .simple id doc = .ok true ∧
      ∃ before q after, hasty.clauses = before ++ q :: after ∧
        (∀ p ∈ before, p.WellFormed ∧ p.Holds ⟨id, doc, .simple⟩) ∧ q.WellFormed ∧
          ¬q.Holds ⟨id, doc, .simple⟩ := by
  intro id doc state between total paid f turned within hasty
  have accepted : f.accepts .simple id doc = .ok true := by decide +kernel
  have refused : hasty.accepts .simple id doc = .ok false := by decide +kernel
  have perm : turned.fields.Perm f.fields :=
    (List.perm_append_comm : List.Perm ([paid] ++ [state, total]) ([state, total] ++ [paid]))
  have operators : Members.AreOperators between := by decide
  obtain ⟨-, -, -, anyOrder, -, applied⟩ := accepts_tells f .simple id doc
  have ordered := (applied [state] "total" between [paid] rfl operators between.reverse).1
    between.reverse_perm
  obtain ⟨-, -, -, -, fewer, -⟩ := accepts_tells ⟨[total]⟩ .simple id doc
  obtain ⟨-, stops, -⟩ := accepts_tells hasty .simple id doc
  exact ⟨accepted, perm, (anyOrder turned perm).mpr accepted, operators, ordered.mpr accepted,
    fewer f (by simp [f]) accepted, stops.mp refused⟩

end Filter

end PacedPurge
