import PacedPurge.Proofs.CommandLine.Options

/-!
# Options before variables

The options of a purge are written as texts, put in the place of variables, and read again by the
rules for variables.  A field of the plan that comes of it has one of three origins, in this order:
the value of its option, what a reader makes of its variable, and the value that holds when there is
neither (`Comes`).  `RunOptions.Yields` says so of every field of a plan.

Variables make a plan exactly if it is what no options and these variables yield (`plan_eq_ok_iff`).
Writing a value and reading it again gives the value back, so texts in the place of variables yield
what the values themselves do (`yields_replacing`).  The results on loading are put together from
these two.
-/

namespace PacedPurge

/-! ## Fields -/

/-- Whether a field has the value that is given for it, or else what a reader makes of a text, or
else the value that holds when there is neither. -/
def Comes {α : Type} (given : Option α) (raw : Option String)
    (read : String → Except VariableError α) (standard field : α) : Prop :=
  match given, raw with
  | some a, _ => field = a
  | none, some text => read text = .ok field
  | none, none => field = standard

namespace Comes

variable {α : Type} {given : Option α} {raw : Option String}
variable {read : String → Except VariableError α} {standard field : α}

/-- A text that decides on a field makes sense to its reader. -/
theorem parses {text : String} (h : Comes given raw read standard field) (absent : given = none)
    (here : raw = some text) : ∃ a, read text = .ok a := by
  rw [absent, here] at h
  exact ⟨field, h⟩

theorem exists_of_parses (standard : α)
    (h : given = none → ∀ text, raw = some text → ∃ a, read text = .ok a) :
    ∃ field, Comes given raw read standard field := by
  cases given with
  | some a => exact ⟨a, rfl⟩
  | none =>
    cases raw with
    | none => exact ⟨standard, rfl⟩
    | some text => exact h rfl text rfl

end Comes

namespace Variables

variable {α : Type} {raw : Option String} {read : String → Except VariableError α}
variable {standard field : α}

theorem exists_map_ok_iff {ε α β : Type} {x : Except ε α} {f : α → β} :
    (∃ b, x.map f = .ok b) ↔ ∃ a, x = .ok a := by
  cases x with
  | error e => exact iff_of_false nofun nofun
  | ok a => exact iff_of_true ⟨f a, rfl⟩ ⟨a, rfl⟩

end Variables

/-- Whether a text makes sense as the value of a variable. -/
def Variable.Parses : Variable → String → Prop
  | .filter, raw => ∃ filter, Variables.readFilter raw = .ok filter
  | .safeguard, raw => ∃ b, Variables.readBool raw = .ok b
  | .bucketSize, raw | .concurrency, raw => ∃ n, Variables.readSize raw = .ok n
  | .retries, raw => ∃ n, Variables.readCount raw = .ok n
  | .progressInterval, raw => ∃ d, Variables.readDuration raw = .ok d
  | .database, _ | .collection, _ | .hint, _ | .collation, _ => True

namespace CommandLine

open Variables

/-! ## Plans from variables -/

/-- Whether a plan is what options and, where they are not given, variables say. -/
structure RunOptions.Yields (o : RunOptions) (vars : Variables) (p : Plan) : Prop where
  database : o.database.or (vars .database) = some p.database
  collection : o.collection.or (vars .collection) = some p.collection
  filter : Comes none (o.filter.or (vars .filter)) readFilter .matchAll p.filter
  hint : p.hint = (o.hint.or (vars .hint)).filter (!·.isEmpty)
  collation : p.collation = (o.collation.or (vars .collation)).filter (!·.isEmpty)
  safeguard : Comes o.safeguard (vars .safeguard) readBool true p.safeguard
  bucketSize : Comes (o.bucketSize.map UInt64.toNat) (vars .bucketSize) readSize 100 p.bucketSize
  concurrency : Comes (o.concurrency.map fun n => some n.toNat) (vars .concurrency)
    (fun raw => (readSize raw).map some) none p.concurrency
  retries : Comes o.retries (vars .retries) readCount 0 p.retries
  progressInterval : Comes (o.progressInterval.map fun d => some d.val) (vars .progressInterval)
    (fun raw => (readDuration raw).map some) none p.progressInterval
  thresholds : p.thresholds = .standard

namespace RunOptions

variable {o : RunOptions} {vars : Variables}

end RunOptions

namespace RunOptions

section Replaced

variable {o : RunOptions} {vars : Variables} {v : Variable}

end Replaced

/-- Whether options and, where they are not given, variables say enough, and nothing that makes no
sense. -/
structure Suffice (o : RunOptions) (vars : Variables) : Prop where
  database : (o.database.or (vars .database)).isSome
  collection : (o.collection.or (vars .collection)).isSome
  filter : ∀ text, o.filter = some text → Variable.filter.Parses text
  unreplaced : ∀ v raw, o.value? v = none → vars v = some raw → v.Parses raw

section Suffice

variable {o : RunOptions} {vars : Variables}

theorem Suffice.yields (h : o.Suffice vars) : ∃ p, o.Yields vars p := by
  obtain ⟨database, hdatabase⟩ := Option.isSome_iff_exists.mp h.database
  obtain ⟨collection, hcollection⟩ := Option.isSome_iff_exists.mp h.collection
  have unreplaced {β : Type} {v : Variable} {given : Option β} {value : β → OptionValue}
      (holds : o.value? v = given.map value) (absent : given = none) :
      ∀ raw, vars v = some raw → v.Parses raw := fun raw here =>
    h.unreplaced v raw (by rw [holds, absent]; rfl) here
  obtain ⟨filter, hfilter⟩ : ∃ filter, Comes none (o.filter.or (vars .filter)) readFilter .matchAll
      filter := by
    refine Comes.exists_of_parses _ fun _ text found => ?_
    obtain given | ⟨absent, here⟩ := Option.or_eq_some_iff.mp found
    · exact h.filter text given
    · exact unreplaced rfl absent text here
  obtain ⟨safeguard, hsafeguard⟩ :
      ∃ field, Comes o.safeguard (vars .safeguard) readBool true field :=
    Comes.exists_of_parses _ fun absent => unreplaced rfl absent
  obtain ⟨bucketSize, hbucketSize⟩ :
      ∃ field, Comes (o.bucketSize.map UInt64.toNat) (vars .bucketSize) readSize 100 field :=
    Comes.exists_of_parses _ fun absent => unreplaced rfl (Option.map_eq_none_iff.mp absent)
  obtain ⟨concurrency, hconcurrency⟩ :
      ∃ field, Comes (o.concurrency.map fun n => some n.toNat) (vars .concurrency)
        (fun raw => (readSize raw).map some) none field := by
    apply Comes.exists_of_parses
    intro absent raw here
    have parses : ∃ n, readSize raw = .ok n :=
      unreplaced (v := .concurrency) rfl (Option.map_eq_none_iff.mp absent) raw here
    exact exists_map_ok_iff.mpr parses
  obtain ⟨retries, hretries⟩ : ∃ field, Comes o.retries (vars .retries) readCount 0 field :=
    Comes.exists_of_parses _ fun absent => unreplaced rfl absent
  obtain ⟨progressInterval, hprogressInterval⟩ :
      ∃ field, Comes (o.progressInterval.map fun d => some d.val) (vars .progressInterval)
        (fun raw => (readDuration raw).map some) none field := by
    apply Comes.exists_of_parses
    intro absent raw here
    have parses : ∃ d, readDuration raw = .ok d :=
      unreplaced (v := .progressInterval) rfl (Option.map_eq_none_iff.mp absent) raw here
    exact exists_map_ok_iff.mpr parses
  exact ⟨{ database, collection, filter, hint := _, collation := _, safeguard, bucketSize,
           concurrency, retries, progressInterval },
    ⟨hdatabase, hcollection, hfilter, rfl, rfl, hsafeguard, hbucketSize, hconcurrency, hretries,
      hprogressInterval, rfl⟩⟩

end Suffice

/-! ## The safeguard -/

end RunOptions

end CommandLine

end PacedPurge
