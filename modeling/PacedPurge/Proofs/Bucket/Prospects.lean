import PacedPurge.Proofs.Bucket.Asking
import PacedPurge.Proofs.Bucket.Draining
import PacedPurge.Proofs.Bucket.Taking

/-!
# What a source of buckets has before it

A source is known by its assembly and by the supply of its stream.  From these two alone follows
what each of its calls comes to, and what the source has before it afterwards (`Prospect.call`):
a call takes the rows of the supply in, one after another, until one completes a bucket or is out of
place, or until there are no more.

Asking a source to go on by one row agrees with that, at whatever moment it is asked
(`BucketSource.pull_step`).  If there is nothing yet, the prospect is as before; a row that
completes no bucket leaves what the call comes to; and otherwise the call has come to what was
foreseen.

A stream that is known beforehand depends on no store.  One that is read page by page has to find
the same records each time (`RowSource.ReadsFrom`).
-/

namespace PacedPurge

/-- What a call of a source of buckets comes to. -/
abbrev BucketSource.Answer := Except BucketError (Option Bucket)

/-- What asking a source to go on answers to the call under way, if it answers it. -/
def Pulled.answer? : Pulled → Option BucketSource.Answer
  | .taken | .later _ => none
  | .bucket b => some (.ok (some b))
  | .ended => some (.ok none)
  | .failed e => some (.error e)

/-! ## Streams, wherever they are asked -/

namespace RowSource

/-- Whether the rows are read page by page. -/
def isPaged : RowSource → Bool
  | .known _ => false
  | .paged .. => true

/-- The store of a site has the records that the stream is to read, if it reads any. -/
def ReadsFrom (s : RowSource) (h : Holdings) (site : Site) : Prop :=
  s.isPaged = true → site.store.holdings = h

variable {s : RowSource} {h : Holdings} {site : Site}

theorem isPaged_poll (s : RowSource) (site : Site) : (s.poll site).2.1.isPaged = s.isPaged := by
  cases s with
  | known arrivals =>
    simp only [poll]
    split
    · rfl
    · split <;> rfl
  | paged scan buffered =>
    cases buffered with
    | cons row rest => rfl
    | nil =>
      simp only [poll]
      split
      · rfl
      · split
        · obtain ⟨after, buffered, same, -⟩ := takePage_paged scan (fetchPage scan site).1
          simp only [same, isPaged]
        · rfl

/-- A stream that has room for a row in a page keeps it. -/
theorem HasRoom.poll (room : s.HasRoom) (site : Site) : (s.poll site).2.1.HasRoom := by
  cases s with
  | known arrivals =>
    simp only [RowSource.poll]
    split
    · trivial
    · split <;> trivial
  | paged scan buffered =>
    cases buffered with
    | cons row rest => exact room
    | nil =>
      simp only [RowSource.poll]
      split
      · exact room
      · split
        · obtain ⟨after, buffered, same, -, size⟩ := takePage_paged scan (fetchPage scan site).1
          simp only [same, HasRoom, size]
          exact room
        · exact room

/-- What asking for a row comes to, by the supply that the stream has from some records. -/
theorem ReadsFrom.poll_cases (reads : s.ReadsFrom h site) (room : s.HasRoom) :
    PollStep h s (s.poll site).1 (s.poll site).2.1 := by
  cases s with
  | known arrivals =>
    simp only [RowSource.poll]
    split
    · exact take_cases h arrivals
    · split
      · exact take_cases h arrivals
      · exact .later rfl (fun _ behind => behind) trivial
  | paged scan buffered =>
    obtain rfl := reads rfl
    exact (RowSource.poll_cases _ room site).1

end RowSource

/-! ## Prospects -/

/-- What a source has before it. -/
inductive Prospect where
  /-- Nothing more, so many records having gone out. -/
  | spent (emitted : Nat)
  /-- Rows for an assembly. -/
  | ahead (assembly : Assembly) (supply : Supply)

namespace Assembly

/-- What a call comes to that has such rows before it and then the end or an error, and what comes
after it. -/
def expect (fault : Option StoreError) (a : Assembly) : List Row → BucketSource.Answer × Prospect
  | [] =>
    match fault with
    | some e => (.error (.stream e), .spent a.emitted)
    | none =>
      match a.pending with
      | some p => (.error (.truncated p.number p.count p.total), .spent a.emitted)
      | none => (.ok none, .spent a.emitted)
  | row :: rest =>
    match a.accept row with
    | .error f => (.error (.row f), .ahead a ⟨rest, fault⟩)
    | .ok (some b, after) => (.ok (some b), .ahead after ⟨rest, fault⟩)
    | .ok (none, after) => after.expect fault rest

/-- How many rows the call takes, the end counting as one. -/
def needs (a : Assembly) : List Row → Nat
  | [] => 1
  | row :: rest =>
    match a.accept row with
    | .ok (none, after) => after.needs rest + 1
    | _ => 1

end Assembly

namespace Prospect

/-- How many records have gone out. -/
def emitted : Prospect → Nat
  | .spent n => n
  | .ahead a _ => a.emitted

/-- What the next call comes to, and what comes after it. -/
def call : Prospect → BucketSource.Answer × Prospect
  | .spent n => (.ok none, .spent n)
  | .ahead a supply => a.expect supply.fault supply.rows

/-- How many times the next call has to go on if there is nothing to wait for. -/
def needs : Prospect → Nat
  | .spent _ => 1
  | .ahead a supply => a.needs supply.rows

/-- What so many calls come to, each with the number of records that have gone out by then. -/
def calls : Nat → Prospect → List (BucketSource.Answer × Nat)
  | 0, _ => []
  | n + 1, p => (p.call.1, p.call.2.emitted) :: calls n p.call.2

/-- What the calls come to is decided by the first of them. -/
theorem calls_congr {p q : Prospect} (same : p.call = q.call) (n : Nat) :
    calls n p = calls n q := by
  cases n with
  | zero => rfl
  | succ n => simp only [calls, same]

/-- When nothing more comes, each call says so. -/
theorem calls_spent (n emitted : Nat) :
    calls n (.spent emitted) = List.replicate n (.ok none, emitted) := by
  induction n with
  | zero => rfl
  | succ n ih =>
    simp only [calls, call, ih]
    rfl

theorem needs_pos (p : Prospect) : 1 ≤ p.needs := by
  cases p with
  | spent n => exact Nat.le_refl 1
  | ahead a supply =>
    show 1 ≤ a.needs supply.rows
    cases supply.rows with
    | nil => exact Nat.le_refl 1
    | cons row rest =>
      unfold Assembly.needs
      split <;> omega

/-- **What going on by one row comes to**, by what is before the source. -/
inductive Step (before : Prospect) : Pulled → Prospect → Prop where
  | later {time : Nat} : Step before (.later time) before
  | taken {after : Prospect} (same : after.call = before.call)
      (emitted : after.emitted = before.emitted) (fewer : before.needs = after.needs + 1) :
      Step before .taken after
  | answered {pulled : Pulled} {after : Prospect} {answer : BucketSource.Answer}
      (said : pulled.answer? = some answer) (foreseen : before.call = (answer, after)) :
      Step before pulled after

/-- The bucket under way is sound, if any more rows are to be taken. -/
def WellFormed : Prospect → Prop
  | .spent _ => True
  | .ahead a _ => a.WellFormed

end Prospect

namespace Assembly

variable {a : Assembly} {fault : Option StoreError}

/-- A bucket under way is completed, or found wanting, within the rows that it lacks. -/
theorem WellFormed.needs_le (sound : a.WellFormed) (rows : List Row) :
    a.needs rows ≤ a.lacking := by
  induction rows generalizing a with
  | nil => exact sound.lacking_pos
  | cons row rest ih =>
    unfold needs
    split
    · next after haccept =>
      obtain ⟨sound', fewer⟩ := lacking_lt_of_grown sound haccept
      have := ih sound'
      omega
    · exact sound.lacking_pos

/-- A bucket under way comes to something. -/
theorem expect_of_pending {p : PartBucket} (pending : a.pending = some p) (rows : List Row) :
    (a.expect fault rows).1 ≠ .ok none := by
  induction rows generalizing a p with
  | nil =>
    unfold expect
    split
    · simp
    · simp [pending]
  | cons row rest ih =>
    unfold expect
    split
    · simp
    · simp
    · next haccept =>
      obtain ⟨-, p', pending', -⟩ := accept_none haccept
      exact ih pending'

/-- **Nothing more comes** exactly if the rows are at their end and no bucket is under way. -/
theorem expect_eq_end_iff {rows : List Row} :
    (a.expect fault rows).1 = .ok none ↔ rows = [] ∧ fault = none ∧ a.pending = none := by
  cases rows with
  | nil =>
    unfold expect
    split
    · simp
    · split
      · next hpending => simp [hpending]
      · next hpending => simp [hpending]
  | cons row rest =>
    simp only [reduceCtorEq, false_and, iff_false]
    unfold expect
    split
    · simp
    · simp
    · next haccept =>
      obtain ⟨-, p, pending, -⟩ := accept_none haccept
      exact expect_of_pending pending rest

/-- What comes after a call is sound again. -/
theorem WellFormed.expect (sound : a.WellFormed) (fault : Option StoreError) (rows : List Row) :
    (a.expect fault rows).2.WellFormed := by
  induction rows generalizing a with
  | nil =>
    unfold Assembly.expect
    split
    · trivial
    · split <;> trivial
  | cons row rest ih =>
    have taken := accept_cases sound row
    unfold Assembly.expect
    generalize a.accept row = result at taken ⊢
    cases taken with
    | refused out => exact sound
    | grown place short pending held last emitted limit sound' => exact ih sound'
    | completed place full ordinal ids cumulative pending last emitted limit sound' => exact sound'

end Assembly

theorem Prospect.WellFormed.call {p : Prospect} (sound : p.WellFormed) : p.call.2.WellFormed := by
  cases p with
  | spent n => trivial
  | ahead a supply => exact Assembly.WellFormed.expect sound supply.fault supply.rows

/-! ## Sources -/

namespace BucketSource

/-- What a source has before it, by the records that its stream reads. -/
def prospect (h : Holdings) (s : BucketSource) : Prospect :=
  if s.exhausted then .spent s.emitted else .ahead s.assembly (s.rows.supply h)

variable {s : BucketSource} {h : Holdings} {site : Site}

theorem emitted_prospect (h : Holdings) (s : BucketSource) :
    (s.prospect h).emitted = s.emitted := by
  unfold prospect
  split <;> rfl

theorem prospect_of_exhausted (spent : s.exhausted = true) :
    s.prospect h = .spent s.emitted := if_pos spent

theorem prospect_of_active (active : s.exhausted = false) :
    s.prospect h = .ahead s.assembly (s.rows.supply h) := by
  rw [prospect, if_neg (by simp [active])]

theorem wellFormed_ofRows (rows : RowSource) (size : Nat) (h : Holdings) :
    ((ofRows rows size).prospect h).WellFormed :=
  Assembly.wellFormed_start size

/-! ### Going on by one row -/

theorem hasRoom_pull (room : s.rows.HasRoom) (site : Site) :
    (s.pull site).2.1.rows.HasRoom := by
  rw [(rows_pull s site).1]
  split
  · exact room
  · exact room.poll site

theorem isPaged_pull (s : BucketSource) (site : Site) :
    (s.pull site).2.1.rows.isPaged = s.rows.isPaged := by
  rw [(rows_pull s site).1]
  split
  · rfl
  · exact RowSource.isPaged_poll s.rows site

/-- **Going on by one row** agrees with what is before the source, at any moment. -/
theorem pull_step (room : s.rows.HasRoom) (reads : s.rows.ReadsFrom h site) :
    (s.prospect h).Step (s.pull site).1 ((s.pull site).2.1.prospect h) := by
  have supplied := reads.poll_cases room
  have step := s.pull_case site
  generalize s.pull site = r at step ⊢
  obtain ⟨pulled, s', site'⟩ := r
  cases step with
  | spent done =>
    rw [prospect_of_exhausted done]
    exact .answered rfl rfl
  | later active polled =>
    rw [polled] at supplied
    cases supplied with
    | later same behind room =>
      rw [prospect_of_active active, ← same]
      rw [prospect_of_active (by exact active)]
      exact .later
  | lost active polled =>
    rw [polled] at supplied
    cases supplied with
    | fault stop =>
      refine .answered rfl ?_
      rw [prospect_of_active active, stop, prospect_of_exhausted rfl]
      rfl
  | refused active polled accepted =>
    rw [polled] at supplied
    cases supplied with
    | row next behind room =>
      refine .answered rfl ?_
      rw [prospect_of_active active, next, prospect_of_active (by exact active)]
      simp only [Prospect.call, Assembly.expect, accepted]
  | taken active polled accepted =>
    rw [polled] at supplied
    cases supplied with
    | row next behind room =>
      rw [prospect_of_active active, next, prospect_of_active (by exact active)]
      refine .taken ?_ (Assembly.accept_none accepted).1 ?_
      · simp only [Prospect.call, Assembly.expect, accepted]
      · simp only [Prospect.needs, Assembly.needs, accepted]
  | bucket active polled accepted =>
    rw [polled] at supplied
    cases supplied with
    | row next behind room =>
      refine .answered rfl ?_
      rw [prospect_of_active active, next, prospect_of_active (by exact active)]
      simp only [Prospect.call, Assembly.expect, accepted]
  | truncated active polled pending =>
    rw [polled] at supplied
    cases supplied with
    | ended stop =>
      refine .answered rfl ?_
      rw [prospect_of_active active, stop, prospect_of_exhausted rfl]
      simp only [Prospect.call, Assembly.expect, pending]
      rfl
  | ended active polled pending =>
    rw [polled] at supplied
    cases supplied with
    | ended stop =>
      refine .answered rfl ?_
      rw [prospect_of_active active, stop, prospect_of_exhausted rfl]
      simp only [Prospect.call, Assembly.expect, pending]
      rfl

end BucketSource

end PacedPurge
