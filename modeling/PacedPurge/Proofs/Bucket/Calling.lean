import Mathlib
import PacedPurge.Proofs.Bucket.Agreement
import PacedPurge.Proofs.Bucket.Prospects

/-!
# Calls of a source, dropped and finished

A call of a source is asked to go on at some moments, and may be dropped before it has an answer
(`BucketSource.goOn`).  The rows that it has taken stay in the source.  So the next call goes on
where it was dropped, and comes to what the dropped one would have come to, had it been asked at the
moments of the next one as well.

The calls that finish (`BucketSource.finished`) therefore come to what is before the source, call
after call, and so do calls of which each is waited for (`BucketSource.answers`).
-/

namespace PacedPurge

/-! ## Waiting for a row -/

namespace RowSource

variable {s : RowSource} {h : Holdings} {site : Site}

/-- The store of a site has the records that the stream is to read, and a ticket for it, if it reads
any. -/
def Served (s : RowSource) (h : Holdings) (site : Site) : Prop :=
  s.isPaged = true → site.store.holdings = h ∧ site.store.admitsPages = true

theorem Served.reads (served : s.Served h site) : s.ReadsFrom h site :=
  fun paged => (served paged).1

theorem Served.poll (served : s.Served h site) (room : s.HasRoom) :
    (s.poll site).2.1.Served h (s.poll site).2.2 := by
  intro paged
  rw [isPaged_poll] at paged
  rw [(RowSource.poll_cases s room site).2, admitsPages_poll]
  exact served paged

theorem Served.await (served : s.Served h site) (time : Nat) : s.Served h (site.await time) := by
  intro paged
  rw [Site.store_await]
  exact served paged

/-- What is said of known deliveries: the next one, or when it will be there. -/
theorem poll_known (arrivals : Arrivals) (site : Site) :
    (poll (.known arrivals) site).1 = arrivals.take.1 ∨
      ∃ due, arrivals.due? site.clock = some due ∧ site.mayEnd due = false ∧
        poll (.known arrivals) site = (.later due, .known (arrivals.ask site.clock), site) := by
  simp only [RowSource.poll]
  cases arrivals.due? site.clock with
  | none => exact .inl rfl
  | some due =>
    simp only
    cases hends : site.mayEnd due with
    | true => exact .inl rfl
    | false => exact .inr ⟨due, rfl, hends, rfl⟩

theorem take_ne_later (arrivals : Arrivals) (time : Nat) : arrivals.take.1 ≠ .later time := by
  unfold Arrivals.take
  split <;> simp

/-- A row that has been waited for is there. -/
theorem Served.poll_after_wait (served : s.Served h site) {time : Nat}
    (waits : (s.poll site).1 = .later time) (again : Nat) :
    ((s.poll site).2.1.poll ((s.poll site).2.2.await time)).1 ≠ .later again := by
  cases s with
  | known arrivals =>
    obtain said | ⟨due, hdue, -, said⟩ := poll_known arrivals site
    · exact absurd (said.symm.trans waits) (take_ne_later arrivals time)
    · rw [said] at waits ⊢
      obtain rfl := Polled.later.inj waits
      have same : (arrivals.ask site.clock).due? (site.await due).clock = some due := hdue
      obtain said' | ⟨due', hdue', waiting, -⟩ :=
        poll_known (arrivals.ask site.clock) (site.await due)
      · rw [said']
        exact take_ne_later _ again
      · obtain rfl := Option.some.inj (same.symm.trans hdue')
        rw [Site.mayEnd_await] at waiting
        cases waiting
  | paged scan buffered =>
    have prompt : Prompt (.paged scan buffered) site.store := (served rfl).2
    exact absurd waits (prompt.poll_ne_later time)

end RowSource

namespace BucketSource

variable {s : BucketSource} {h : Holdings} {site : Site}

/-! ## Calls that may be dropped -/

/-- A call that is asked to go on at moments, as long as it has no answer, and is dropped then. -/
def goOn (s : BucketSource) : List Site → Option Answer × BucketSource
  | [] => (none, s)
  | moment :: later =>
    match (s.pull moment).1.answer? with
    | some answer => (some answer, (s.pull moment).2.1)
    | none => goOn (s.pull moment).2.1 later

/-- What the calls that finish come to, each with the number of records that have gone out by
then. -/
def finished (s : BucketSource) : List (List Site) → List (Answer × Nat)
  | [] => []
  | moments :: later =>
    ((s.goOn moments).1.map (·, (s.goOn moments).2.emitted)).toList ++
      finished (s.goOn moments).2 later

/-- What so many calls come to, one after another and each waited for, with the number of records
that have gone out by then. -/
def answers : Nat → BucketSource → Site → List (Answer × Nat)
  | 0, _, _ => []
  | n + 1, s, site =>
    ((s.next site).1, (s.next site).2.1.emitted) :: answers n (s.next site).2.1 (s.next site).2.2

/-- **A call goes on where another was dropped.** -/
theorem goOn_append {dropped : List Site} (unfinished : (s.goOn dropped).1 = none)
    (moments : List Site) : s.goOn (dropped ++ moments) = (s.goOn dropped).2.goOn moments := by
  induction dropped generalizing s with
  | nil => rfl
  | cons moment later ih =>
    simp only [List.cons_append, goOn] at unfinished ⊢
    split
    · next answer said =>
      simp only [said] at unfinished
      cases unfinished
    · next said =>
      simp only [said] at unfinished ⊢
      exact ih unfinished

theorem finished_of_dropped {moments : List Site} (unfinished : (s.goOn moments).1 = none)
    (later : List (List Site)) :
    s.finished (moments :: later) = (s.goOn moments).2.finished later := by
  rw [finished, unfinished]
  rfl

theorem finished_of_answered {moments : List Site} {answer : Answer} {s' : BucketSource}
    (answered : s.goOn moments = (some answer, s')) (later : List (List Site)) :
    s.finished (moments :: later) = (answer, s'.emitted) :: s'.finished later := by
  rw [finished, answered]
  rfl

/-- Dropped calls can be joined to the ones after them. -/
theorem finished_drop {dropped next : List Site} (unfinished : (s.goOn dropped).1 = none)
    (later : List (List Site)) :
    s.finished (dropped :: next :: later) = s.finished ((dropped ++ next) :: later) := by
  rw [finished_of_dropped unfinished, finished, finished, goOn_append unfinished]

/-- **No call need be dropped.**  Calls that all finish come to the same at the same moments. -/
theorem exists_undropped (s : BucketSource) (calls : List (List Site)) :
    ∃ whole : List (List Site), whole.flatten <+: calls.flatten ∧
      (s.finished whole).length = whole.length ∧ s.finished whole = s.finished calls := by
  -- The induction is on the number of calls, for two calls may be joined to one.
  generalize hlength : calls.length = n
  induction n generalizing s calls with
  | zero =>
    obtain rfl := List.length_eq_zero_iff.mp hlength
    exact ⟨[], List.prefix_refl _, rfl, rfl⟩
  | succ n ih =>
    cases calls with
    | nil => cases hlength
    | cons moments later =>
      rw [List.length_cons, Nat.succ.injEq] at hlength
      obtain ⟨answer, s'⟩ | unfinished := (s.goOn moments).1.eq_none_or_eq_some.symm
      · have answered : s.goOn moments = (some answer, (s.goOn moments).2) := by rw [← s']
        obtain ⟨whole, front, all, same⟩ := ih (s.goOn moments).2 later hlength
        refine ⟨moments :: whole, ?_, ?_, ?_⟩
        · exact (List.prefix_append_right_inj moments).mpr front
        · rw [finished_of_answered answered, List.length_cons, List.length_cons, all]
        · rw [finished_of_answered answered, finished_of_answered answered, same]
      · cases later with
        | nil =>
          refine ⟨[], List.nil_prefix, rfl, ?_⟩
          rw [finished_of_dropped unfinished]
          rfl
        | cons next later =>
          obtain ⟨whole, front, all, same⟩ := ih s ((moments ++ next) :: later) hlength
          rw [← finished_drop unfinished] at same
          refine ⟨whole, ?_, all, same⟩
          rw [List.flatten_cons, List.append_assoc] at front
          exact front

/-! ## Calls and what is before the source -/

theorem hasRoom_goOn (room : s.rows.HasRoom) (moments : List Site) :
    (s.goOn moments).2.rows.HasRoom := by
  induction moments generalizing s with
  | nil => exact room
  | cons moment later ih =>
    rw [goOn]
    split
    · exact hasRoom_pull room moment
    · exact ih (hasRoom_pull room moment)

theorem isPaged_goOn (s : BucketSource) (moments : List Site) :
    (s.goOn moments).2.rows.isPaged = s.rows.isPaged := by
  induction moments generalizing s with
  | nil => rfl
  | cons moment later ih =>
    rw [goOn]
    split
    · exact isPaged_pull s moment
    · exact (ih _).trans (isPaged_pull s moment)

/-- **A call comes to what is before the source**, at whatever moments it is asked.  If it is
dropped, this is still before the source. -/
theorem goOn_prospect (room : s.rows.HasRoom) {moments : List Site}
    (reads : ∀ moment ∈ moments, s.rows.ReadsFrom h moment) :
    match (s.goOn moments).1 with
    | some answer => (s.prospect h).call = (answer, (s.goOn moments).2.prospect h)
    | none => ((s.goOn moments).2.prospect h).call = (s.prospect h).call := by
  induction moments generalizing s with
  | nil => rfl
  | cons moment later ih =>
    have step := pull_step room (reads moment List.mem_cons_self)
    have reads' : ∀ m ∈ later, (s.pull moment).2.1.rows.ReadsFrom h m := by
      intro m hm paged
      rw [isPaged_pull] at paged
      exact reads m (List.mem_cons_of_mem moment hm) paged
    have rest := ih (hasRoom_pull room moment) reads'
    rw [goOn]
    generalize (s.pull moment).1 = pulled at step
    generalize (s.pull moment).2.1 = s' at step rest
    generalize hafter : s'.prospect h = after at step rest
    cases step with
    | later => simpa only [Pulled.answer?] using rest
    | taken same emitted fewer =>
      rw [same] at rest
      simpa only [Pulled.answer?] using rest
    | answered said foreseen =>
      simp only [said, hafter]
      exact foreseen

/-- **Calls that finish** come to what is before the source. -/
theorem finished_eq_calls (room : s.rows.HasRoom) {calls : List (List Site)}
    (reads : ∀ moments ∈ calls, ∀ moment ∈ moments, s.rows.ReadsFrom h moment) :
    s.finished calls = (s.prospect h).calls (s.finished calls).length := by
  induction calls generalizing s with
  | nil => rfl
  | cons moments later ih =>
    have foreseen := goOn_prospect room (reads moments List.mem_cons_self)
    have reads' : ∀ ms ∈ later, ∀ m ∈ ms, (s.goOn moments).2.rows.ReadsFrom h m := by
      intro ms hms m hm paged
      rw [isPaged_goOn] at paged
      exact reads ms (List.mem_cons_of_mem moments hms) m hm paged
    have rest := ih (hasRoom_goOn room moments) reads'
    cases hanswer : (s.goOn moments).1 with
    | none =>
      rw [hanswer] at foreseen
      rw [finished_of_dropped hanswer]
      exact rest.trans (Prospect.calls_congr foreseen _)
    | some answer =>
      have answered : s.goOn moments = (some answer, (s.goOn moments).2) := by rw [← hanswer]
      rw [hanswer] at foreseen
      rw [finished_of_answered answered, List.length_cons, Prospect.calls, foreseen, ← rest,
        emitted_prospect]

/-! ## Calls that are waited for -/

theorem served_pull (room : s.rows.HasRoom) (served : s.rows.Served h site) :
    (s.pull site).2.1.rows.Served h (s.pull site).2.2 := by
  obtain ⟨rows, site'⟩ := rows_pull s site
  rw [rows, site']
  split
  · exact served
  · exact served.poll room

/-- What has been waited for is there. -/
theorem pull_after_wait (served : s.rows.Served h site) {time : Nat}
    (waits : (s.pull site).1 = .later time) (again : Nat) :
    ((s.pull site).2.1.pull ((s.pull site).2.2.await time)).1 ≠ .later again := by
  have polled := poll_of_later waits
  have active : s.exhausted = false := by
    have step := s.pull_case site
    rw [waits] at step
    generalize (s.pull site).2.1 = s' at step
    cases step with
    | later active polled => exact active
  obtain ⟨rows, site'⟩ := rows_pull s site
  rw [active, if_neg (by decide)] at rows site'
  intro waits'
  have polled' := poll_of_later waits'
  rw [rows, site'] at polled'
  exact served.poll_after_wait polled again polled'

/-- **A call that is waited for** has an answer, and so it would if it were asked to go on at the
moments to which it waits.  It goes on twice for each row that it takes, unless the next one has
been waited for. -/
theorem nextWithin_answers (room : s.rows.HasRoom) (served : s.rows.Served h site) {fuel : Nat}
    (enough : 2 * (s.prospect h).needs ≤ fuel ∨
      2 * (s.prospect h).needs ≤ fuel + 1 ∧ ∀ time, (s.pull site).1 ≠ .later time) :
    ∃ answer s' site' moments, nextWithin fuel s site = (answer, s', site') ∧
      s.goOn moments = (some answer, s') ∧ (∀ moment ∈ moments, s.rows.Served h moment) ∧
      s'.rows.Served h site' := by
  induction fuel generalizing s site with
  | zero =>
    have := (s.prospect h).needs_pos
    omega
  | succ fuel ih =>
    have step := pull_step room served.reads
    have room' := hasRoom_pull room site
    have served' := served_pull room served
    have paged := isPaged_pull s site
    have waited : ∀ {time}, (s.pull site).1 = .later time → ∀ again,
        ((s.pull site).2.1.pull ((s.pull site).2.2.await time)).1 ≠ .later again :=
      pull_after_wait served
    have goes : ∀ moments, s.goOn (site :: moments) =
        match (s.pull site).1.answer? with
        | some answer => (some answer, (s.pull site).2.1)
        | none => (s.pull site).2.1.goOn moments := fun _ => rfl
    unfold nextWithin
    generalize s.pull site = result at step room' served' paged waited goes enough
    obtain ⟨pulled, s', site'⟩ := result
    simp only at step room' served' paged waited goes enough
    -- The moment of a pull that answers nothing comes before those of the rest.
    have resume : ∀ {answer last final moments}, pulled.answer? = none →
        s'.goOn moments = (some answer, last) → (∀ m ∈ moments, s'.rows.Served h m) →
        last.rows.Served h final → ∃ moments, s.goOn moments = (some answer, last) ∧
          (∀ m ∈ moments, s.rows.Served h m) ∧ last.rows.Served h final := by
      intro answer last final moments unanswered answers all ends
      refine ⟨site :: moments, by rw [goes, unanswered]; exact answers, fun m hm => ?_, ends⟩
      obtain rfl | hm := List.mem_cons.mp hm
      · exact served
      · exact fun hpaged => all m hm (paged.trans hpaged)
    generalize hafter : s'.prospect h = after at step
    cases step with
    | @later time =>
      obtain enough | ⟨-, ready⟩ := enough
      · have again : 2 * (s'.prospect h).needs ≤ fuel + 1 := by rwa [hafter]
        obtain ⟨answer, last, final, moments, hnext, answers, all, ends⟩ :=
          ih room' (served'.await time) (.inr ⟨again, waited rfl⟩)
        obtain ⟨moments', resumed⟩ := resume rfl answers all ends
        exact ⟨answer, last, final, moments', hnext, resumed⟩
      · exact absurd rfl (ready time)
    | taken same emitted fewer =>
      have less : 2 * (s'.prospect h).needs ≤ fuel := by
        rw [hafter]
        omega
      obtain ⟨answer, last, final, moments, hnext, answers, all, ends⟩ :=
        ih room' served' (.inl less)
      obtain ⟨moments', resumed⟩ := resume rfl answers all ends
      exact ⟨answer, last, final, moments', hnext, resumed⟩
    | @answered _ _ answer said foreseen =>
      have here : s.goOn [site] = (some answer, s') := by rw [goes, said]
      have only : ∀ m ∈ [site], s.rows.Served h m := fun m hm => by
        rw [List.mem_singleton.mp hm]
        exact served
      refine ⟨answer, s', site', [site], ?_, here, only, served'⟩
      cases pulled with
      | taken => cases said
      | later time => cases said
      | bucket b => cases said; rfl
      | ended => cases said; rfl
      | failed e => cases said; rfl

/-! ## Sound sources -/

/-- A source whose bucket under way is sound, and which finds what it reads. -/
structure Sound (h : Holdings) (site : Site) (s : BucketSource) : Prop where
  room : s.rows.HasRoom
  served : s.rows.Served h site
  assembly : (s.prospect h).WellFormed

/-- **A call that is waited for** comes to what is before a sound source. -/
theorem Sound.next_eq (sound : s.Sound h site) :
    (s.prospect h).call = ((s.next site).1, (s.next site).2.1.prospect h) ∧
      (s.next site).2.1.Sound h (s.next site).2.2 := by
  have enough : 2 * (s.prospect h).needs ≤ 2 * s.assembly.limit + 2 := by
    have wellFormed := sound.assembly
    cases spent : s.exhausted with
    | true =>
      rw [prospect_of_exhausted spent]
      simp only [Prospect.needs]
      omega
    | false =>
      rw [prospect_of_active spent] at wellFormed ⊢
      have bounded : s.assembly.WellFormed := wellFormed
      have := bounded.needs_le (s.rows.supply h).rows
      have := bounded.lacking_le
      simp only [Prospect.needs]
      omega
  obtain ⟨answer, s', site', moments, hnext, answered, all, served⟩ :=
    nextWithin_answers sound.room sound.served (.inl enough)
  have room := hasRoom_goOn sound.room moments
  have foreseen := goOn_prospect sound.room fun m hm => (all m hm).reads
  rw [answered] at room foreseen
  have called : s.next site = (answer, s', site') := hnext
  rw [called]
  refine ⟨foreseen, room, served, ?_⟩
  have wellFormed := sound.assembly.call
  rwa [foreseen] at wellFormed

/-- **Calls that are waited for** come to what is before a sound source. -/
theorem Sound.answers_eq (sound : s.Sound h site) (n : Nat) :
    answers n s site = (s.prospect h).calls n := by
  induction n generalizing s site with
  | zero => rfl
  | succ n ih =>
    obtain ⟨foreseen, sound'⟩ := sound.next_eq
    rw [answers, Prospect.calls, foreseen, ih sound', emitted_prospect]

theorem sound_ofRows {rows : RowSource} (room : rows.HasRoom) (served : rows.Served h site)
    (size : Nat) : (ofRows rows size).Sound h site :=
  ⟨room, served, wellFormed_ofRows rows size h⟩

/-- **Dropping calls loses nothing.**  Whatever calls of a source are dropped, and at whatever
moments they are asked, the calls that finish come to what calls come to that all finish, asked at
the same moments.  And if the stream finds the same records each time, they come to what as many
calls come to of which each is waited for. -/
theorem dropped_calls_lose_nothing (rows : RowSource) (size : Nat) (calls : List (List Site)) :
    let s := ofRows rows size
    (∃ whole : List (List Site), whole.flatten <+: calls.flatten ∧
      (s.finished whole).length = whole.length ∧ s.finished whole = s.finished calls) ∧
    ∀ (h : Holdings) (site : Site), rows.HasRoom → rows.Served h site →
      (∀ moments ∈ calls, ∀ moment ∈ moments, rows.ReadsFrom h moment) →
      s.finished calls = s.answers (s.finished calls).length site := by
  intro s
  refine ⟨exists_undropped s calls, fun h site room served reads => ?_⟩
  rw [(sound_ofRows room served size).answers_eq]
  exact finished_eq_calls (s := s) room reads

/-- Two orders make one bucket, though a call is dropped before it is asked for anything, and
another when it has the first of them. -/
theorem dropped_calls_lose_nothing_orders :
    let site : Site := { store := .keyed .twoOrders }
    let rows : RowSource := .paged (.start ⟨"crm", "orders"⟩ ⟨.matchAll, .simple⟩ 2) []
    let s := ofRows rows 2
    let calls : List (List Site) := [[], [site], [site], [site]]
    rows.HasRoom ∧ rows.Served site.store.holdings site ∧
      (∀ moments ∈ calls, ∀ moment ∈ moments, rows.ReadsFrom site.store.holdings moment) ∧
      (s.goOn [site]).1.isNone ∧
      (s.finished calls).map (fun x => (x.1.toOption.map (·.map (·.ids)), x.2)) =
        [(some (some [⟨"a"⟩, ⟨"b"⟩]), 2), (some none, 2)] ∧
      s.finished calls = s.answers 2 site := by
  intro site rows s calls
  have room : rows.HasRoom := Nat.zero_lt_two
  have served : rows.Served site.store.holdings site := fun _ => ⟨rfl, rfl⟩
  have reads : ∀ moments ∈ calls, ∀ moment ∈ moments,
      rows.ReadsFrom site.store.holdings moment := by
    intro moments hmoments moment hmoment _
    simp only [calls, List.mem_cons, List.not_mem_nil, or_false] at hmoments
    obtain rfl | rfl | rfl | rfl := hmoments
    · cases hmoment
    all_goals rw [List.mem_singleton.mp hmoment]
  have came : (s.finished calls).map (fun x => (x.1.toOption.map (·.map (·.ids)), x.2)) =
      [(some (some [⟨"a"⟩, ⟨"b"⟩]), 2), (some none, 2)] := by
    cbv
  have two : (s.finished calls).length = 2 := by
    have := congrArg List.length came
    rwa [List.length_map] at this
  have waited := (dropped_calls_lose_nothing rows 2 calls).2 site.store.holdings site room served
    reads
  refine ⟨room, served, reads, by cbv, came, ?_⟩
  rw [two] at waited
  exact waited

end BucketSource

end PacedPurge
