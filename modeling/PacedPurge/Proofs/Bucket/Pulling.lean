import PacedPurge.Bucket.Source

/-!
# What asking a source comes to

A source that is asked to go on asks its stream for a row, unless it is done.  What it says then,
and what it is afterwards, depends on what the stream says and on what the assembly makes of a row.
This is said once, by `BucketSource.PullCase`, and what is known of sources asked at any moment is
read off its cases.
-/

namespace PacedPurge

namespace BucketSource

/-- **What asking a source to go on comes to**, by what its stream says. -/
inductive PullCase (s : BucketSource) (site : Site) : Pulled → BucketSource → Site → Prop where
  | spent (done : s.exhausted = true) : PullCase s site .ended s site
  | later {time : Nat} {rows : RowSource} {site' : Site} (active : s.exhausted = false)
      (polled : s.rows.poll site = (.later time, rows, site')) :
      PullCase s site (.later time) { s with rows } site'
  | lost {e : StoreError} {rows : RowSource} {site' : Site} (active : s.exhausted = false)
      (polled : s.rows.poll site = (.ready (.error e), rows, site')) :
      PullCase s site (.failed (.stream e)) { s with rows, exhausted := true } site'
  | refused {row : Row} {fault : RowFault} {rows : RowSource} {site' : Site}
      (active : s.exhausted = false) (polled : s.rows.poll site = (.ready (.ok row), rows, site'))
      (accepted : s.assembly.accept row = .error fault) :
      PullCase s site (.failed (.row fault)) { s with rows } site'
  | taken {row : Row} {after : Assembly} {rows : RowSource} {site' : Site}
      (active : s.exhausted = false) (polled : s.rows.poll site = (.ready (.ok row), rows, site'))
      (accepted : s.assembly.accept row = .ok (none, after)) :
      PullCase s site .taken { s with rows, assembly := after } site'
  | bucket {row : Row} {b : Bucket} {after : Assembly} {rows : RowSource} {site' : Site}
      (active : s.exhausted = false) (polled : s.rows.poll site = (.ready (.ok row), rows, site'))
      (accepted : s.assembly.accept row = .ok (some b, after)) :
      PullCase s site (.bucket b) { s with rows, assembly := after } site'
  | truncated {p : PartBucket} {rows : RowSource} {site' : Site} (active : s.exhausted = false)
      (polled : s.rows.poll site = (.ended, rows, site')) (pending : s.assembly.pending = some p) :
      PullCase s site (.failed (.truncated p.number p.count p.total))
        { s with rows, exhausted := true, assembly := { s.assembly with pending := none } } site'
  | ended {rows : RowSource} {site' : Site} (active : s.exhausted = false)
      (polled : s.rows.poll site = (.ended, rows, site')) (pending : s.assembly.pending = none) :
      PullCase s site .ended { s with rows, exhausted := true } site'

variable {s : BucketSource} {site : Site}

theorem pull_case (s : BucketSource) (site : Site) :
    PullCase s site (s.pull site).1 (s.pull site).2.1 (s.pull site).2.2 := by
  unfold pull
  split
  · next done => exact .spent done
  · next more =>
    have active : s.exhausted = false := by simpa using more
    split
    · next polled => exact .later active polled
    · next polled =>
      simp only [finish]
      split
      · next pending => exact .truncated active polled pending
      · next pending => exact .ended active polled pending
    · next d rows site' polled =>
      cases d with
      | error e => exact .lost active polled
      | ok row =>
        simp only [take]
        split
        · next accepted => exact .refused active polled accepted
        · next accepted => exact .bucket active polled accepted
        · next accepted => exact .taken active polled accepted

/-! ## The stream behind it -/

/-- Asking a source asks its stream, unless the source is done. -/
theorem rows_pull (s : BucketSource) (site : Site) :
    (s.pull site).2.1.rows = (if s.exhausted then s.rows else (s.rows.poll site).2.1) ∧
      (s.pull site).2.2 = (if s.exhausted then site else (s.rows.poll site).2.2) := by
  have step := s.pull_case site
  generalize s.pull site = r at step ⊢
  obtain ⟨pulled, s', site'⟩ := r
  cases step with
  | spent done =>
    rw [if_pos done, if_pos done]
    exact ⟨rfl, rfl⟩
  | later active polled
  | lost active polled
  | refused active polled accepted
  | taken active polled accepted
  | bucket active polled accepted
  | truncated active polled pending
  | ended active polled pending =>
    rw [active, polled]
    exact ⟨rfl, rfl⟩

/-- A source has to wait only if its stream has to. -/
theorem poll_of_later {time : Nat} (h : (s.pull site).1 = .later time) :
    (s.rows.poll site).1 = .later time := by
  have step := s.pull_case site
  generalize s.pull site = r at step h
  obtain ⟨pulled, s', site'⟩ := r
  cases step with
  | later active polled =>
    rw [polled]
    exact congrArg Polled.later (Pulled.later.inj h)
  | _ => cases h

/-- A source fails with an error of its stream only when the stream delivers one. -/
theorem poll_of_stream {e : StoreError} (h : (s.pull site).1 = .failed (.stream e)) :
    (s.rows.poll site).1 = .ready (.error e) := by
  have step := s.pull_case site
  generalize s.pull site = r at step h
  obtain ⟨pulled, s', site'⟩ := r
  cases step with
  | lost active polled =>
    cases h
    rw [polled]
  | _ => cases h

/-- A source that fails is done, unless it fails for a row. -/
theorem exhausted_of_failed {e : BucketError} (h : (s.pull site).1 = .failed e) :
    (s.pull site).2.1.exhausted = true ↔ ∀ fault, e ≠ .row fault := by
  have step := s.pull_case site
  generalize s.pull site = r at step h ⊢
  obtain ⟨pulled, s', site'⟩ := r
  cases step with
  | lost active polled =>
    cases h
    simp
  | refused active polled accepted =>
    cases h
    simp [active]
  | truncated active polled pending =>
    cases h
    simp
  | _ => cases h

end BucketSource

end PacedPurge
