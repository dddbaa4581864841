import PacedPurge.Proofs.Bucket.Calling

/-!
# Which rows make buckets

Rows are well windowed if they come in consecutive groups, numbered from 1: each group is as large
as each of its rows claims, not empty and not larger than the limit, and its rows are numbered from
1 (`Row.Grouped`).

An assembly is not told where a group ends, and goes by the numbers of one row after another.
Within a group it needs the rows that complete it, and then groups (`Assembly.Awaits`); and a row is
in its place, with what it needs behind it, exactly if the row and what is behind it are what the
assembly needs (`Assembly.awaits_cons`).  So by induction on the rows, calls come to the end without
an error exactly if the rows are in groups, and until then each record goes out in its turn
(`Assembly.run_emits`).
-/

namespace PacedPurge

namespace Row

/-- Rows that complete a bucket of which some have been taken before. -/
structure Completes (number total taken : Nat) (rows : List Row) : Prop where
  count : taken + rows.length = total
  bucket : ∀ row ∈ rows, row.bucket = number
  total : ∀ row ∈ rows, row.total = total
  running : rows.map (·.running) = List.range' (taken + 1) rows.length

/-- Rows that make a bucket. -/
structure IsGroup (limit number : Nat) (rows : List Row) : Prop
    extends Completes number rows.length 0 rows where
  positive : 1 ≤ rows.length
  within : rows.length ≤ limit

/-- Rows in consecutive groups, the first of which has the number. -/
inductive Grouped (limit : Nat) : Nat → List Row → Prop where
  | nil {number : Nat} : Grouped limit number []
  | group {number : Nat} {rows more : List Row} (first : IsGroup limit number rows)
      (others : Grouped limit (number + 1) more) : Grouped limit number (rows ++ more)

/-- Rows that complete a bucket, and groups behind them. -/
def Continues (limit number total taken : Nat) (rows : List Row) : Prop :=
  ∃ group more, rows = group ++ more ∧ Completes number total taken group ∧
    Grouped limit (number + 1) more

variable {limit number total taken : Nat} {row : Row} {rows : List Row}

theorem completes_nil : Completes number total taken [] ↔ taken = total :=
  ⟨fun h => h.count, fun h => ⟨h, nofun, nofun, rfl⟩⟩

theorem completes_cons : Completes number total taken (row :: rows) ↔
    (row.bucket = number ∧ row.total = total ∧ row.running = taken + 1) ∧
      Completes number total (taken + 1) rows := by
  constructor
  · intro h
    have running := h.running
    rw [List.map_cons, List.length_cons, List.range'_succ, List.cons.injEq] at running
    have count := h.count
    rw [List.length_cons] at count
    exact ⟨⟨h.bucket row List.mem_cons_self, h.total row List.mem_cons_self, running.1⟩,
      by omega, fun r hr => h.bucket r (List.mem_cons_of_mem row hr),
      fun r hr => h.total r (List.mem_cons_of_mem row hr), running.2⟩
  · rintro ⟨⟨bucket, sameTotal, running⟩, h⟩
    have count := h.count
    refine ⟨by rw [List.length_cons]; omega, ?_, ?_, ?_⟩
    · exact List.forall_mem_cons.mpr ⟨bucket, h.bucket⟩
    · exact List.forall_mem_cons.mpr ⟨sameTotal, h.total⟩
    · rw [List.map_cons, List.length_cons, List.range'_succ, running, h.running]

/-- A bucket that has all its rows leaves groups. -/
theorem continues_full : Continues limit number total total rows ↔
    Grouped limit (number + 1) rows := by
  constructor
  · rintro ⟨group, more, rfl, completes, grouped⟩
    have := completes.count
    obtain rfl : group = [] := List.length_eq_zero_iff.mp (by omega)
    exact grouped
  · exact fun grouped => ⟨[], rows, rfl, completes_nil.mpr rfl, grouped⟩

/-- A bucket that lacks rows goes on with its next one. -/
theorem continues_cons (lacks : taken < total) :
    Continues limit number total taken (row :: rows) ↔
      (row.bucket = number ∧ row.total = total ∧ row.running = taken + 1) ∧
        Continues limit number total (taken + 1) rows := by
  constructor
  · rintro ⟨group, more, split, completes, grouped⟩
    cases group with
    | nil =>
      have := completes_nil.mp completes
      omega
    | cons first group =>
      obtain ⟨rfl, rfl⟩ := List.cons.inj split
      obtain ⟨place, completes⟩ := completes_cons.mp completes
      exact ⟨place, group, more, rfl, completes, grouped⟩
  · rintro ⟨place, group, more, rfl, completes, grouped⟩
    exact ⟨row :: group, more, rfl, completes_cons.mpr ⟨place, completes⟩, grouped⟩

theorem not_continues_nil (lacks : taken < total) : ¬Continues limit number total taken [] := by
  rintro ⟨group, more, split, completes, -⟩
  obtain ⟨rfl, -⟩ := List.nil_eq_append_iff.mp split
  have := completes_nil.mp completes
  omega

/-- Groups begin with a row that claims no more than the limit, and with the rest of what it claims.
-/
theorem grouped_cons : Grouped limit number (row :: rows) ↔
    (1 ≤ row.total ∧ row.total ≤ limit) ∧ Continues limit number row.total 0 (row :: rows) := by
  constructor
  · intro grouped
    generalize hall : row :: rows = all at grouped
    cases grouped with
    | nil => cases hall
    | @group _ first more isGroup others =>
      have positive := isGroup.positive
      cases first with
      | nil => exact absurd positive (by decide)
      | cons row' first =>
        obtain ⟨rfl, -⟩ := List.cons.inj hall
        have claims := isGroup.total row List.mem_cons_self
        rw [claims]
        exact ⟨⟨positive, isGroup.within⟩, _, more, rfl, isGroup.toCompletes, others⟩
  · rintro ⟨⟨positive, within⟩, group, more, split, completes, grouped⟩
    have count := completes.count
    rw [Nat.zero_add] at count
    rw [split]
    exact .group ⟨count ▸ completes, by omega, by omega⟩ grouped

end Row

namespace Assembly

variable {a : Assembly} {fault : Option StoreError}

/-- What an assembly needs to come to the end without an error. -/
def Awaits (a : Assembly) (rows : List Row) : Prop :=
  match a.pending with
  | none => Row.Grouped a.limit (a.last + 1) rows
  | some p => Row.Continues a.limit (a.last + 1) p.total p.count rows

theorem awaits_of_none (pending : a.pending = none) (rows : List Row) :
    a.Awaits rows ↔ Row.Grouped a.limit (a.last + 1) rows := by
  rw [Awaits, pending]

theorem awaits_of_some {p : PartBucket} (pending : a.pending = some p) (rows : List Row) :
    a.Awaits rows ↔ Row.Continues a.limit (a.last + 1) p.total a.held.length rows := by
  rw [Awaits, pending, length_held_of_some pending]

theorem awaits_nil (sound : a.WellFormed) : a.Awaits [] ↔ a.pending = none := by
  cases hp : a.pending with
  | none => exact iff_of_true ((awaits_of_none hp []).mpr .nil) rfl
  | some p =>
    have lacks := (sound.pending p hp).2.2.1
    rw [← length_held_of_some hp] at lacks
    rw [awaits_of_some hp]
    exact iff_of_false (Row.not_continues_nil lacks) (by simp)

/-- **What is needed begins with a row in its place.** -/
theorem awaits_cons (sound : a.WellFormed) {row : Row} {rest : List Row} :
    a.Awaits (row :: rest) ↔ a.Admits row ∧
      Row.Continues a.limit (a.last + 1) row.total (a.held.length + 1) rest := by
  cases hp : a.pending with
  | none =>
    rw [awaits_of_none hp, Row.grouped_cons, held_of_none hp, List.length_nil]
    constructor
    · rintro ⟨⟨positive, within⟩, continues⟩
      obtain ⟨⟨bucket, -, running⟩, later⟩ := (Row.continues_cons positive).mp continues
      exact ⟨⟨positive, within, bucket, by rw [held_of_none hp]; exact running,
        fun p hp' => by rw [hp] at hp'; cases hp'⟩, later⟩
    · rintro ⟨place, later⟩
      have running := place.running
      rw [held_of_none hp] at running
      exact ⟨⟨place.positive, place.within⟩,
        (Row.continues_cons place.positive).mpr ⟨⟨place.bucket, rfl, running⟩, later⟩⟩
  | some p =>
    obtain ⟨-, -, lacks, allowed⟩ := sound.pending p hp
    have positive : 1 ≤ p.total := by omega
    rw [← length_held_of_some hp] at lacks
    rw [awaits_of_some hp, Row.continues_cons lacks]
    constructor
    · rintro ⟨⟨bucket, total, running⟩, later⟩
      rw [← total] at later positive allowed
      exact ⟨⟨positive, allowed, bucket, running, fun q hq => by
        obtain rfl := Option.some.inj (hp.symm.trans hq)
        exact total⟩, later⟩
    · rintro ⟨place, later⟩
      have total := place.total p hp
      rw [total] at later
      exact ⟨⟨place.bucket, total, place.running⟩, later⟩

/-! ## Calls up to the first error or the end -/

/-- The buckets that such rows come to, and what the call after them comes to. -/
def run (fault : Option StoreError) (a : Assembly) :
    List Row → List Bucket × BucketSource.Answer
  | [] => ([], (a.expect fault []).1)
  | row :: rest =>
    match a.accept row with
    | .error f => ([], .error (.row f))
    | .ok (some b, after) => (b :: (after.run fault rest).1, (after.run fault rest).2)
    | .ok (none, after) => after.run fault rest

/-- At the end of the rows no more records go out. -/
theorem emitted_expect_nil (a : Assembly) (fault : Option StoreError) :
    (a.expect fault []).2.emitted = a.emitted := by
  unfold expect
  split
  · rfl
  · split <;> rfl

/-- Calls come to the buckets, one after another, and then to what comes after them. -/
theorem calls_run (a : Assembly) (fault : Option StoreError) (rows : List Row) :
    (Prospect.ahead a ⟨rows, fault⟩).calls ((a.run fault rows).1.length + 1) =
      (a.run fault rows).1.map (fun b => (.ok (some b), b.cumulative)) ++
        [((a.run fault rows).2, a.emitted + ((a.run fault rows).1.map (·.size)).sum)] := by
  induction rows generalizing a with
  | nil =>
    simp only [run, Prospect.calls, Prospect.call, emitted_expect_nil]
    rfl
  | cons row rest ih =>
    have next : (Prospect.ahead a ⟨row :: rest, fault⟩).call = a.expect fault (row :: rest) := rfl
    unfold expect at next
    unfold run
    cases haccept : a.accept row with
    | error f =>
      rw [haccept] at next
      simp only [List.length_nil, Prospect.calls, next, Prospect.emitted]
      rfl
    | ok taken =>
      obtain ⟨done, after⟩ := taken
      rw [haccept] at next
      cases done with
      | some b =>
        obtain ⟨-, -, cumulative, emitted⟩ := accept_some haccept
        have more : after.emitted = a.emitted + b.size := by rw [emitted, b.size_eq]
        simp only [List.length_cons, List.map_cons, List.sum_cons, List.cons_append]
        rw [Prospect.calls, next, ih after, cumulative, ← Nat.add_assoc, ← more]
        rfl
      | none =>
        simp only
        rw [Prospect.calls_congr (q := .ahead after ⟨rest, fault⟩) next, ih after,
          (accept_none haccept).1]

/-- **What buckets are to the rows from which they were cut.** -/
structure Emits (a : Assembly) (rows : List Row) (buckets : List Bucket) : Prop where
  ids : buckets.flatMap (·.ids) <+: a.held ++ rows.map (·.id)
  within : ∀ b ∈ buckets, 1 ≤ b.size ∧ b.size ≤ a.limit
  ordinals : buckets.map (·.ordinal) = List.range' (a.last + 1) buckets.length
  cumulative : ∀ i (hi : i < buckets.length),
    buckets[i].cumulative = a.emitted + ((buckets.take (i + 1)).map (·.size)).sum

theorem emits_nil (a : Assembly) (rows : List Row) : a.Emits rows [] where
  ids := List.nil_prefix
  within := nofun
  ordinals := rfl
  cumulative := nofun

/-- **The buckets of a run** take the records in their order, and are numbered and counted. -/
theorem run_emits (sound : a.WellFormed) (fault : Option StoreError) (rows : List Row) :
    a.Emits rows (a.run fault rows).1 := by
  induction rows generalizing a with
  | nil => exact emits_nil a []
  | cons row rows ih =>
    have taken := accept_cases sound row
    unfold run
    generalize a.accept row = result at taken
    cases taken with
    | refused out => exact emits_nil a (row :: rows)
    | grown place short pending held last emitted limit sound' =>
      have more := ih sound'
      refine ⟨?_, by rw [← limit]; exact more.within, by rw [← last]; exact more.ordinals,
        by rw [← emitted]; exact more.cumulative⟩
      have ids := more.ids
      rwa [held, List.append_assoc] at ids
    | @completed b after place full ordinal ids cumulative pending last emitted limit sound' =>
      have more := ih sound'
      have size : b.size = row.total := by
        rw [Bucket.size_eq, ids, List.length_append, ← full, place.running]
        rfl
      refine ⟨?_, ?_, ?_, ?_⟩
      · have rest := more.ids
        rw [held_of_none pending, List.nil_append] at rest
        have next : a.held ++ row.id :: rows.map (·.id) = (a.held ++ [row.id]) ++ rows.map (·.id) :=
          List.append_cons ..
        rw [List.flatMap_cons, ids, List.map_cons, next]
        exact (List.prefix_append_right_inj _).mpr rest
      · refine List.forall_mem_cons.mpr ⟨?_, by rw [← limit]; exact more.within⟩
        rw [size]
        exact ⟨place.positive, place.within⟩
      · rw [List.map_cons, List.length_cons, List.range'_succ, ordinal, more.ordinals, last]
      · intro i hi
        cases i with
        | zero =>
          simp only [List.getElem_cons_zero, List.take_succ_cons, List.take_zero, List.map_cons,
            List.map_nil, List.sum_cons, List.sum_nil, cumulative, emitted]
          rfl
        | succ i =>
          simp only [List.getElem_cons_succ, List.take_succ_cons, List.map_cons, List.sum_cons]
          rw [more.cumulative i (by simpa using hi), emitted]
          omega

/-- A run does not end with a bucket. -/
theorem run_not_bucket (a : Assembly) (fault : Option StoreError) (rows : List Row) (b : Bucket) :
    (a.run fault rows).2 ≠ .ok (some b) := by
  induction rows generalizing a with
  | nil =>
    unfold run expect
    split
    · simp
    · split <;> simp
  | cons row rest ih =>
    unfold run
    split
    · simp
    · exact ih _
    · exact ih _

/-- **A run comes to the end** exactly if there was no error and each record has gone out. -/
theorem run_end_iff_all (sound : a.WellFormed) (fault : Option StoreError) (rows : List Row) :
    (a.run fault rows).2 = .ok none ↔
      fault = none ∧ (a.run fault rows).1.flatMap (·.ids) = a.held ++ rows.map (·.id) := by
  induction rows generalizing a with
  | nil =>
    rw [run, expect_eq_end_iff, ← sound.held_eq_nil_iff, List.map_nil, List.append_nil]
    exact ⟨fun ⟨_, whole, held⟩ => ⟨whole, held.symm⟩,
      fun ⟨whole, held⟩ => ⟨rfl, whole, held.symm⟩⟩
  | cons row rows ih =>
    have taken := accept_cases sound row
    unfold run
    generalize a.accept row = result at taken
    cases taken with
    | refused out => simp
    | grown place short pending held last emitted limit sound' =>
      simp only
      rw [ih sound', held, List.append_assoc]
      rfl
    | completed place full ordinal ids cumulative pending last emitted limit sound' =>
      simp only
      rw [ih sound', List.flatMap_cons, ids, held_of_none pending, List.append_assoc,
        List.append_cancel_left_eq]
      simp

/-- **A run comes to the end** exactly if there was no error and the rows are what was needed. -/
theorem run_end_iff_awaits (sound : a.WellFormed) (fault : Option StoreError) (rows : List Row) :
    (a.run fault rows).2 = .ok none ↔ fault = none ∧ a.Awaits rows := by
  induction rows generalizing a with
  | nil =>
    rw [run, expect_eq_end_iff, awaits_nil sound]
    simp
  | cons row rows ih =>
    have taken := accept_cases sound row
    unfold run
    rw [awaits_cons sound]
    generalize a.accept row = result at taken
    cases taken with
    | refused out => simp [out]
    | grown place short pending held last emitted limit sound' =>
      obtain ⟨p, hp, total⟩ := pending
      simp only
      rw [ih sound', awaits_of_some hp, held, List.length_append, total, last, limit]
      simp [place]
    | completed place full ordinal ids cumulative pending last emitted limit sound' =>
      simp only
      rw [ih sound', awaits_of_none pending, ← place.running, full, Row.continues_full, last, limit]
      simp [place]

end Assembly

namespace BucketSource

/-- **Rows are neither lost nor invented.**  Calls of a source, up to the first that comes to an
error or to the end, come to buckets that take the records of the rows in their order.  Each bucket
has a record and no more than the limit; they are numbered from 1, and each counts the records that
have gone out by then.

The end is reached exactly if the stream had no error and every record has gone out, and this is
so exactly if the rows are in groups. -/
theorem neither_loses_nor_invents {rows : RowSource} (room : rows.HasRoom) {site : Site}
    (served : rows.Served site.store.holdings site) (size : Nat) :
    let supply := rows.supply site.store.holdings
    ∃ (buckets : List Bucket) (last : Answer),
      (ofRows rows size).answers (buckets.length + 1) site =
        buckets.map (fun b => (.ok (some b), b.cumulative)) ++
          [(last, (buckets.map (·.size)).sum)] ∧
      (∀ b, last ≠ .ok (some b)) ∧
      buckets.flatMap (·.ids) <+: supply.rows.map (·.id) ∧
      (∀ b ∈ buckets, 1 ≤ b.size ∧ b.size ≤ max 1 size) ∧
      buckets.map (·.ordinal) = List.range' 1 buckets.length ∧
      (∀ i (hi : i < buckets.length),
        buckets[i].cumulative = ((buckets.take (i + 1)).map (·.size)).sum) ∧
      (last = .ok none ↔
        supply.fault = none ∧ buckets.flatMap (·.ids) = supply.rows.map (·.id)) ∧
      (last = .ok none ↔ supply.fault = none ∧ Row.Grouped (max 1 size) 1 supply.rows) := by
  intro supply
  have sound : (Assembly.start size).WellFormed := Assembly.wellFormed_start size
  have emits := Assembly.run_emits sound supply.fault supply.rows
  have came := Assembly.calls_run (.start size) supply.fault supply.rows
  have nothing : (Assembly.start size).emitted = 0 := rfl
  rw [nothing, Nat.zero_add] at came
  refine ⟨((Assembly.start size).run supply.fault supply.rows).1,
    ((Assembly.start size).run supply.fault supply.rows).2, ?_,
    Assembly.run_not_bucket _ supply.fault supply.rows, emits.ids, emits.within, emits.ordinals,
    fun i hi => ?_, Assembly.run_end_iff_all sound supply.fault supply.rows,
    Assembly.run_end_iff_awaits sound supply.fault supply.rows⟩
  · rw [(sound_ofRows room served size).answers_eq]
    exact came
  · rw [emits.cumulative i hi, nothing, Nat.zero_add]

/-- Two orders are read in one group of two, so both go out before the end. -/
theorem neither_loses_nor_invents_orders :
    let site : Site := { store := .keyed .twoOrders }
    let rows : RowSource := .paged (.start ⟨"crm", "orders"⟩ ⟨.matchAll, .simple⟩ 2) []
    let group : List Row := [⟨⟨"a"⟩, .null, 1, 1, 2⟩, ⟨⟨"b"⟩, .null, 1, 2, 2⟩]
    rows.HasRoom ∧ rows.Served site.store.holdings site ∧
      rows.supply site.store.holdings = ⟨group, none⟩ ∧ Row.Grouped 2 1 group ∧
      ∃ buckets : List Bucket,
        (ofRows rows 2).answers (buckets.length + 1) site =
          buckets.map (fun b => (.ok (some b), b.cumulative)) ++
            [(.ok none, (buckets.map (·.size)).sum)] ∧
        buckets.flatMap (·.ids) = [⟨"a"⟩, ⟨"b"⟩] := by
  intro site rows group
  have room : rows.HasRoom := Nat.zero_lt_two
  have served : rows.Served site.store.holdings site := fun _ => ⟨rfl, rfl⟩
  have supply : rows.supply site.store.holdings = ⟨group, none⟩ := by
    cbv
  have isGroup : Row.IsGroup 2 1 group :=
    ⟨⟨rfl, by simp [group], by simp [group], rfl⟩, by decide, by decide⟩
  have grouped : Row.Grouped 2 1 group := .group isGroup .nil
  obtain ⟨buckets, last, came, -, -, -, -, -, all, ended⟩ :=
    neither_loses_nor_invents room served 2
  rw [supply] at all ended
  obtain rfl : last = .ok none := ended.mpr ⟨rfl, grouped⟩
  exact ⟨room, served, supply, grouped, buckets, came, (all.mp rfl).2⟩

end BucketSource

end PacedPurge
