import PacedPurge.Proofs.Bucket.Calling

/-!
# What comes after an error

An error of the stream and an end within a bucket are final: the source is done, and each later call
says that there is nothing more, at whatever moment it is asked.

A row out of place is not.  The source drops the row and stays as it was, so it goes on with the row
behind it, as though the row had not come.  Nothing more comes of this exactly if no row is left and
no bucket is under way (`Assembly.expect_eq_end_iff`).  Otherwise a later call comes to a bucket or
to another error.
-/

namespace PacedPurge

/-- A call comes to nothing exactly if nothing is ahead, and then nothing is ahead of the next. -/
theorem Prospect.call_ahead_eq_end_iff {a : Assembly} {supply : Supply} :
    (Prospect.ahead a supply).call.1 = .ok none ↔
      supply = ⟨[], none⟩ ∧ a.pending = none := by
  obtain ⟨rows, fault⟩ := supply
  simp only [call, Assembly.expect_eq_end_iff, Supply.mk.injEq, and_assoc]

/-- There is a store with the records, and a ticket for reading them. -/
theorem Holdings.exists_store (h : Holdings) :
    ∃ store : Store, store.holdings = h ∧ store.admitsPages = true := by
  cases h with
  | collections c => exact ⟨.memory { collections := c }, rfl, rfl⟩
  | partitions p => exact ⟨.keyed { partitions := p }, rfl, rfl⟩

namespace BucketSource

variable {s s' : BucketSource} {h : Holdings} {site : Site}

/-! ## The ends of a source -/

/-- A source that is done has nothing more, at whatever moment it is asked. -/
theorem finished_of_exhausted (spent : s.exhausted = true) (calls : List (List Site)) :
    ∀ result ∈ s.finished calls, result = (.ok none, s.emitted) := by
  have still : ∀ moment, s.pull moment = (.ended, s, moment) := fun moment => by
    rw [pull, if_pos spent]
  induction calls with
  | nil => exact fun result hresult => by cases hresult
  | cons moments later ih =>
    cases moments with
    | nil => exact ih
    | cons moment more =>
      have answered : s.goOn (moment :: more) = (some (.ok none), s) := by
        rw [goOn, still]
        rfl
      rw [finished_of_answered answered]
      intro result hresult
      obtain rfl | hlater := List.mem_cons.mp hresult
      · rfl
      · exact ih result hlater

/-- A call that fails leaves a source that is done, unless it fails for a row. -/
theorem exhausted_of_goOn {moments : List Site} {e : BucketError}
    (failed : s.goOn moments = (some (.error e), s')) :
    s'.exhausted = true ↔ ∀ fault, e ≠ .row fault := by
  induction moments generalizing s with
  | nil => cases failed
  | cons moment later ih =>
    rw [goOn] at failed
    split at failed
    · next answer said =>
      obtain ⟨answered, rfl⟩ := Prod.mk.inj failed
      obtain rfl := Option.some.inj answered
      refine exhausted_of_failed ?_
      generalize (s.pull moment).1 = pulled at said
      cases pulled <;> cases said
      rfl
    · exact ih failed

/-- A call of a source can be waited for wherever its stream can be read. -/
theorem exists_answer (s : BucketSource) (room : s.rows.HasRoom) (h : Holdings) :
    ∃ answer s' moments, s.goOn moments = (some answer, s') ∧
      (∀ moment ∈ moments, s.rows.ReadsFrom h moment) := by
  obtain ⟨store, holds, free⟩ := h.exists_store
  have served : s.rows.Served h { store } := fun _ => ⟨holds, free⟩
  obtain ⟨answer, s', site', moments, -, answered, all, -⟩ :=
    nextWithin_answers room served (.inl (Nat.le_refl _))
  exact ⟨answer, s', moments, answered, fun m hm => (all m hm).reads⟩

/-- Nothing more comes of a source exactly if nothing is ahead of it. -/
theorem finished_end_iff (room : s.rows.HasRoom) (active : s.exhausted = false) (h : Holdings) :
    (∀ calls : List (List Site), (∀ moments ∈ calls, ∀ moment ∈ moments,
        s.rows.ReadsFrom h moment) → ∀ result ∈ s.finished calls, result = (.ok none, s.emitted)) ↔
      s.rows.supply h = ⟨[], none⟩ ∧ s.assembly.pending = none := by
  rw [← Prospect.call_ahead_eq_end_iff, ← prospect_of_active active]
  constructor
  · intro silent
    obtain ⟨answer, s', moments, answered, reads⟩ := exists_answer s room h
    have foreseen := goOn_prospect room reads
    rw [answered] at foreseen
    have only := silent [moments] (fun ms hms => by rw [List.mem_singleton.mp hms]; exact reads)
      (answer, s'.emitted) (by rw [finished_of_answered answered]; exact List.mem_cons_self)
    rw [foreseen]
    exact congrArg Prod.fst only
  · intro nothing calls reads result hresult
    rw [prospect_of_active active] at nothing
    obtain ⟨stop, idle⟩ := Prospect.call_ahead_eq_end_iff.mp nothing
    have next : (s.prospect h).call = (.ok none, .spent s.emitted) := by
      rw [prospect_of_active active, stop]
      simp only [Prospect.call, Assembly.expect, idle]
      rfl
    have quiet := finished_eq_calls room reads
    rw [Prospect.calls_congr (q := .spent s.emitted) next, Prospect.calls_spent] at quiet
    rw [quiet] at hresult
    exact List.eq_of_mem_replicate hresult

/-! ## After an error -/

/-- **When an error is final.**  After an error of the stream, or an end within a bucket, every call
that finishes says that there is nothing more, and no more records go out.  After a row out of place
this is so exactly if no row is left behind it and no bucket is under way. -/
theorem errors_are_final_iff {s s' : BucketSource} (room : s.rows.HasRoom) {moments : List Site}
    {e : BucketError} (failed : s.goOn moments = (some (.error e), s')) :
    ((∀ fault, e ≠ .row fault) → ∀ calls : List (List Site), ∀ result ∈ s'.finished calls,
      result = (.ok none, s'.emitted)) ∧
    ∀ fault, e = .row fault → ∀ h : Holdings,
      (∀ calls : List (List Site), (∀ moments ∈ calls, ∀ moment ∈ moments,
          s'.rows.ReadsFrom h moment) → ∀ result ∈ s'.finished calls,
          result = (.ok none, s'.emitted)) ↔
        s'.rows.supply h = ⟨[], none⟩ ∧ s'.assembly.pending = none := by
  have done := exhausted_of_goOn failed
  refine ⟨fun other => finished_of_exhausted (done.mpr other), fun fault row h => ?_⟩
  have active : s'.exhausted = false := by
    rw [Bool.eq_false_iff]
    exact fun spent => done.mp spent fault row
  have room' : s'.rows.HasRoom := by
    have := hasRoom_goOn room moments
    rwa [failed] at this
  exact finished_end_iff room' active h

/-- The first row of a bucket is followed by an error of the stream, and in another stream a row
out of place is the last.  Nothing more comes of either. -/
theorem errors_are_final_iff_orders :
    let site : Site := { store := .memory .twoOrders }
    let lost : Arrival := ⟨none, .error (.storage "gone")⟩
    let failing := ofRows (.known (.ofList [⟨none, .ok ⟨⟨"a"⟩, .null, 1, 1, 2⟩⟩, lost])) 2
    let astray := ofRows (.known (.ofRows [⟨⟨"x"⟩, .null, 7, 1, 1⟩])) 2
    (failing.rows.HasRoom ∧ ∃ s', failing.goOn [site, site] =
        (some (.error (.stream (.storage "gone"))), s') ∧
      ∀ calls : List (List Site), ∀ result ∈ s'.finished calls, result = (.ok none, 0)) ∧
    (astray.rows.HasRoom ∧ ∃ s', astray.goOn [site] =
        (some (.error (.row (.wrongOpening ⟨"x"⟩ 7 1 1))), s') ∧
      ∀ calls : List (List Site), ∀ result ∈ s'.finished calls, result = (.ok none, 0)) := by
  intro site lost failing astray
  have failed : failing.goOn [site, site] =
      (some (.error (.stream (.storage "gone"))), (failing.goOn [site, site]).2) := rfl
  have refused : astray.goOn [site] =
      (some (.error (.row (.wrongOpening ⟨"x"⟩ 7 1 1))), (astray.goOn [site]).2) := rfl
  have room : failing.rows.HasRoom := trivial
  have room' : astray.rows.HasRoom := trivial
  refine ⟨⟨room, _, failed, ?_⟩, room', _, refused, fun calls => ?_⟩
  · exact (errors_are_final_iff room failed).1 nofun
  · have silent := (errors_are_final_iff room' refused).2 _ rfl (.collections ∅)
    exact silent.mpr ⟨rfl, rfl⟩ calls fun _ _ _ _ paged => by cases paged

/-- A row of another bucket comes between the two rows of a bucket.  It is refused, and then the
bucket is completed. -/
theorem bucket_after_error :
    let site : Site := { store := .memory .twoOrders }
    let rows : List Row :=
      [⟨⟨"a"⟩, .null, 1, 1, 2⟩, ⟨⟨"x"⟩, .null, 7, 1, 1⟩, ⟨⟨"b"⟩, .null, 1, 2, 2⟩]
    let results := (ofRows (.known (.ofRows rows)) 2).answers 3 site
    results = [(.error (.row (.outOfSequence ⟨"x"⟩ 7 1 1 1)), 0),
        (.ok (some ⟨1, [⟨"a"⟩, ⟨"b"⟩], 2, 2, .null, .null, rfl⟩), 2), (.ok none, 2)] ∧
      ¬∀ result ∈ results.drop 1, result = (.ok none, 0) := by
  intro site rows results
  have came : results = [(.error (.row (.outOfSequence ⟨"x"⟩ 7 1 1 1)), 0),
      (.ok (some ⟨1, [⟨"a"⟩, ⟨"b"⟩], 2, 2, .null, .null, rfl⟩), 2), (.ok none, 2)] := rfl
  refine ⟨came, fun silent => ?_⟩
  have second := silent (.ok (some ⟨1, [⟨"a"⟩, ⟨"b"⟩], 2, 2, .null, .null, rfl⟩), 2)
    (by rw [came]; exact List.mem_cons_self)
  cases second

end BucketSource

end PacedPurge
