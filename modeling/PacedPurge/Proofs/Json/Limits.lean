import PacedPurge.Proofs.Json.Rereading

/-!
# What a reader gives

Whatever text a value was read from, the value keeps the limits of the reader: its integers have 64
bits, the keys of its objects are distinct, and it is nested less than `Json.maxDepth` deep
(`Json.fits_of_parse`).  These are the values that are read anew from their own text, up to their
reals (`Json.parse_compact`), and so nothing but a real can change when a value that was read is
written and read again (`Json.parse_compact_of_parse`).
-/

namespace PacedPurge

/-- A literal that is read as an integer has 64 bits. -/
theorem Literal.isWord_of_integer? {l : Literal} {n : Int} (h : l.integer? = some n) :
    Number.IsWord n := by
  have wide : (1 <<< 63 : Nat) = 2 ^ 63 := by decide
  have bound : wordBound = 2 ^ 64 := by decide
  unfold integer? at h
  split at h
  · simp only [wide, bound] at h
    split at h
    · split at h
      · next fits =>
        obtain rfl := Option.some.inj h
        simp only [Bool.and_eq_true, decide_eq_true_eq] at fits
        constructor <;> omega
      · cases h
    · split at h
      · obtain rfl := Option.some.inj h
        constructor <;> omega
      · cases h
  · cases h

theorem Literal.fits_of_number? {l : Literal} {n : Number} (h : l.number? = some n) : n.Fits := by
  unfold number? at h
  split at h
  · next whole =>
    obtain rfl := Option.some.inj h
    exact isWord_of_integer? whole
  · obtain ⟨x, -, rfl⟩ := Option.map_eq_some_iff.mp h
    exact trivial

namespace Members

theorem mem_of_mem_put {ms : Members} {key : String} {value : Json} {m : String × Json}
    (h : m ∈ put ms key value) : m = (key, value) ∨ m ∈ ms := by
  induction ms with
  | nil => exact .inl (List.mem_singleton.mp h)
  | cons first ms ih =>
    unfold put at h
    split at h
    · rcases List.mem_cons.mp h with own | other
      · exact .inl own
      · exact .inr (List.mem_cons_of_mem first other)
    · rcases List.mem_cons.mp h with own | other
      · exact .inr (own ▸ List.mem_cons_self)
      · exact (ih other).imp_right (List.mem_cons_of_mem first)

theorem nodup_keys_put {ms : Members} (distinct : ms.keys.Nodup) (key : String) (value : Json) :
    (put ms key value).keys.Nodup := by
  by_cases known : key ∈ ms.keys
  · have same : (put ms key value).keys = ms.keys := by
      induction ms with
      | nil => cases known
      | cons first ms ih =>
        unfold put
        split
        · next own =>
          rw [beq_iff_eq] at own
          simp only [keys, List.map_cons, own]
        · next differs =>
          rw [beq_iff_eq] at differs
          have later : key ∈ keys ms :=
            (List.mem_cons.mp known).resolve_left fun own => differs own.symm
          exact congrArg (first.1 :: ·) (ih (List.nodup_cons.mp distinct).2 later)
    rwa [same]
  · rw [put_of_not_mem known]
    simp only [keys, List.map_append, List.map_cons, List.map_nil]
    rw [List.nodup_append]
    refine ⟨distinct, List.nodup_singleton key, fun k hk k' hk' same => ?_⟩
    obtain rfl := List.mem_singleton.mp hk'
    exact known (same ▸ hk)

/-- Members whose later values have replaced the earlier ones have distinct keys, and all of them
were there before. -/
theorem collapse_spec (ms : Members) : ms.collapse.keys.Nodup ∧ ∀ m ∈ ms.collapse, m ∈ ms := by
  have onto : ∀ (ms front : Members), front.keys.Nodup →
      (ms.foldl (fun acc m => put acc m.1 m.2) front).keys.Nodup ∧
        ∀ m ∈ ms.foldl (fun acc m => put acc m.1 m.2) front, m ∈ front ∨ m ∈ ms := by
    intro ms
    induction ms with
    | nil => exact fun front distinct => ⟨distinct, fun m hm => .inl hm⟩
    | cons first ms ih =>
      intro front distinct
      obtain ⟨kept, known⟩ := ih (put front first.1 first.2)
        (nodup_keys_put distinct first.1 first.2)
      refine ⟨kept, fun m hm => ?_⟩
      rcases known m hm with put | later
      · rcases mem_of_mem_put put with own | before
        · exact .inr (own ▸ List.mem_cons_self)
        · exact .inl before
      · exact .inr (List.mem_cons_of_mem first later)
  obtain ⟨distinct, known⟩ := onto ms [] List.nodup_nil
  exact ⟨distinct, fun m hm => (known m hm).resolve_left List.not_mem_nil⟩

end Members

namespace Json

/-- So much fuel reads nothing but what fits. -/
structure ReadsFitting (fuel : Nat) : Prop where
  value : ∀ {depth cs j rest}, readValue fuel (depth + 1) cs = some (j, rest) → Fits depth j
  elements : ∀ {depth cs es rest}, readElements fuel (depth + 1) cs = some (es, rest) →
    ∀ e ∈ es, Fits depth e
  members : ∀ {depth cs ms rest}, readMembers fuel (depth + 1) cs = some (ms, rest) →
    ∀ m ∈ ms, Fits depth m.2

namespace ReadsFitting

variable {fuel : Nat} (h : ReadsFitting fuel) {depth : Nat} {cs rest : List Char}

include h

theorem step_value {j : Json} (read : readValue (fuel + 1) (depth + 1) cs = some (j, rest)) :
    Fits depth j := by
  unfold readValue at read
  split at read
  · obtain ⟨rfl, -⟩ := Prod.mk.inj (Option.some.inj read)
    exact .null
  · obtain ⟨rfl, -⟩ := Prod.mk.inj (Option.some.inj read)
    exact .bool
  · obtain ⟨rfl, -⟩ := Prod.mk.inj (Option.some.inj read)
    exact .bool
  · obtain ⟨r, -, same⟩ := Option.map_eq_some_iff.mp read
    obtain ⟨rfl, -⟩ := Prod.mk.inj same
    exact .string
  · split at read
    · cases read
    · next deep =>
      obtain ⟨depth, rfl⟩ := Nat.exists_eq_add_one_of_ne_zero (n := depth) (by omega)
      split at read
      · obtain ⟨rfl, -⟩ := Prod.mk.inj (Option.some.inj read)
        exact .array fun _ he => absurd he List.not_mem_nil
      · obtain ⟨r, elements, same⟩ := Option.map_eq_some_iff.mp read
        obtain ⟨rfl, -⟩ := Prod.mk.inj same
        exact .array (h.elements elements)
  · split at read
    · cases read
    · next deep =>
      obtain ⟨depth, rfl⟩ := Nat.exists_eq_add_one_of_ne_zero (n := depth) (by omega)
      split at read
      · obtain ⟨rfl, -⟩ := Prod.mk.inj (Option.some.inj read)
        exact .object List.nodup_nil fun _ hm => absurd hm List.not_mem_nil
      · obtain ⟨r, members, same⟩ := Option.map_eq_some_iff.mp read
        obtain ⟨rfl, -⟩ := Prod.mk.inj same
        obtain ⟨distinct, known⟩ := Members.collapse_spec r.1
        exact .object distinct fun m hm => h.members members m (known m hm)
  · split at read
    · cases read
    · obtain ⟨n, number, same⟩ := Option.map_eq_some_iff.mp read
      obtain ⟨rfl, -⟩ := Prod.mk.inj same
      exact .number (Literal.fits_of_number? number)

theorem step_elements {es : List Json}
    (read : readElements (fuel + 1) (depth + 1) cs = some (es, rest)) : ∀ e ∈ es, Fits depth e := by
  unfold readElements at read
  split at read
  · cases read
  · next value after first =>
    split at read
    · obtain ⟨r, others, same⟩ := Option.map_eq_some_iff.mp read
      obtain ⟨rfl, -⟩ := Prod.mk.inj same
      intro e he
      rcases List.mem_cons.mp he with rfl | later
      · exact h.value first
      · exact h.elements others e later
    · obtain ⟨rfl, -⟩ := Prod.mk.inj (Option.some.inj read)
      intro e he
      obtain rfl := List.mem_singleton.mp he
      exact h.value first
    · cases read

theorem step_members {ms : Members}
    (read : readMembers (fuel + 1) (depth + 1) cs = some (ms, rest)) :
    ∀ m ∈ ms, Fits depth m.2 := by
  unfold readMembers at read
  split at read
  · split at read
    · cases read
    · split at read
      · split at read
        · cases read
        · next value after first =>
          split at read
          · obtain ⟨r, others, same⟩ := Option.map_eq_some_iff.mp read
            obtain ⟨rfl, -⟩ := Prod.mk.inj same
            intro m hm
            rcases List.mem_cons.mp hm with rfl | later
            · exact h.value first
            · exact h.members others m later
          · obtain ⟨rfl, -⟩ := Prod.mk.inj (Option.some.inj read)
            intro m hm
            obtain rfl := List.mem_singleton.mp hm
            exact h.value first
          · cases read
      · cases read
  · cases read

end ReadsFitting

/-- **Whatever is read fits**, by induction on the fuel: each step reads what the steps behind it
have read. -/
theorem readsFitting (fuel : Nat) : ReadsFitting fuel := by
  induction fuel with
  | zero => exact ⟨nofun, nofun, nofun⟩
  | succ fuel ih => exact ⟨ih.step_value, ih.step_elements, ih.step_members⟩

/-- **What a text is read as keeps the limits of the reader.** -/
theorem fits_of_parse {text : String} {j : Json} (h : parse text = some j) :
    Fits (maxDepth - 1) j := by
  unfold parse parseChars at h
  split at h
  · next value rest read =>
    split at h
    · obtain rfl := Option.some.inj h
      have depth : maxDepth = maxDepth - 1 + 1 := by decide
      rw [depth] at read
      exact (readsFitting _).value read
    · cases h
  · cases h

/-- **What was read is written as a text that is read as the same value**, up to its reals. -/
theorem parse_compact_of_parse {text : String} {j : Json} (h : parse text = some j) :
    parse j.compact = j.reread :=
  parse_compact (fits_of_parse h)

end Json

end PacedPurge
