import PacedPurge.Load.Admission
import PacedPurge.Proofs.Store.Service
import PacedPurge.Purge.Sampling

/-!
# What requests do to a store, records apart

A request takes the ticket that it needs when it enters the store, and gives it back when it leaves.
Stores trade in this way (`Store.Trades`) as long as they are used, and nothing else about them
changes but their records and the counters that are scripted: they stay of one kind, with the same
tickets in all, without faults if they had none, and with the same counters to tell in the end
(`Store.Kin`).

A store relents (`Store.Relents`) if the counters admit a bucket that it tells when nothing is
scripted any more.  Whoever asks such a store for its counters is admitted, or there is one scripted
report less (`Store.admitted_or_fewer`).
-/

namespace PacedPurge

variable {α : Type}

/-! ## Frames -/

/-- What a request does for its answer, tickets apart, touches nothing but the partitions, and uses
up scripted reports. -/
theorem KeyedStore.perform_frame (k : KeyedStore) (r : Request α) :
    ∃ partitions hostScript, (k.perform r).2 = { k with partitions, hostScript } ∧
      hostScript.length ≤ k.hostScript.length := by
  have deleted : ∀ (k : KeyedStore) (ns : Namespace) (ids : List RecordId)
      (concern : WriteConcern),
      ∃ partitions, (k.delete ns ids concern).2 = { k with partitions } := by
    intro k ns ids concern
    cases opens : openName ns with
    | error e => exact ⟨k.partitions, by rw [delete_of_refused opens]⟩
    | ok name =>
      rw [delete_of_openName opens]
      split
      · exact ⟨_, rfl⟩
      · exact ⟨k.partitions, rfl⟩
  have removed : ∀ (concern : WriteConcern) (staged : List (Namespace × List RecordId))
      (k : KeyedStore),
      ∃ partitions, (k.removeStaged concern staged).2 = { k with partitions } := by
    intro concern staged
    induction staged with
    | nil => exact fun k => ⟨k.partitions, rfl⟩
    | cons entry rest ih =>
      intro k
      obtain ⟨partitions, first⟩ := deleted k entry.1 entry.2 concern
      unfold removeStaged
      split
      · next heq =>
        rw [heq] at first
        exact ⟨partitions, first⟩
      · next left heq =>
        rw [heq] at first
        obtain rfl : left = { k with partitions } := first
        exact ih { k with partitions }
  cases r with
  | delete ns ids concern =>
    obtain ⟨partitions, left⟩ := deleted k ns ids concern
    exact ⟨partitions, k.hostScript, left, Nat.le_refl _⟩
  | commit txn =>
    obtain ⟨partitions, left⟩ := removed txn.concern txn.staged k
    exact ⟨partitions, k.hostScript, left, Nat.le_refl _⟩
  | status =>
    simp only [perform, report]
    split
    · next host rest heq =>
      refine ⟨k.partitions, rest, rfl, ?_⟩
      rw [heq]
      exact Nat.le_succ rest.length
    · exact ⟨k.partitions, k.hostScript, rfl, Nat.le_refl _⟩
  | _ => exact ⟨k.partitions, k.hostScript, rfl, Nat.le_refl _⟩

/-- The tickets of a keyed store after a change to those of a kind. -/
theorem KeyedStore.tickets_mapTickets (k : KeyedStore) (kind other : TicketKind)
    (f : Tickets → Tickets) :
    (k.mapTickets kind f).tickets other =
      if kind = other then f (k.tickets other) else k.tickets other := by
  cases kind with
  | read => cases other <;> rfl
  | write => cases other <;> rfl

/-- A change to tickets touches nothing else. -/
theorem KeyedStore.mapTickets_frame (k : KeyedStore) (kind : TicketKind) (f : Tickets → Tickets) :
    (k.mapTickets kind f).host = k.host ∧ (k.mapTickets kind f).hostScript = k.hostScript := by
  cases kind with
  | read => exact ⟨rfl, rfl⟩
  | write => exact ⟨rfl, rfl⟩

/-- A request that leaves a store in memory touches no mode of its status, and uses up scripted
reports. -/
theorem MemoryStore.leave_frame (m : MemoryStore) (r : Request α) :
    (m.leave r).2.status = m.status ∧ (m.leave r).2.script.length ≤ m.script.length := by
  have same : m.status = m.status ∧ m.script.length ≤ m.script.length := ⟨rfl, Nat.le_refl _⟩
  have failed : ∀ m', m.takeFailure? = some m' → m'.status = m.status ∧ m'.script = m.script := by
    intro m' heq
    unfold takeFailure? at heq
    split at heq
    · cases heq
    · cases heq
      exact ⟨rfl, rfl⟩
  have removed : ∀ (staged : List (Namespace × List RecordId)) (m : MemoryStore),
      (m.removeStaged staged).status = m.status ∧ (m.removeStaged staged).script = m.script := by
    intro staged
    induction staged with
    | nil => exact fun m => ⟨rfl, rfl⟩
    | cons entry rest ih => exact fun m => ih (m.remove entry.1 entry.2).2
  have served : ∀ {β : Type} (effect : MemoryStore → β × MemoryStore),
      (effect m).2.status = m.status ∧ (effect m).2.script = m.script →
      (m.leaveWith effect).2.status = m.status ∧
        (m.leaveWith effect).2.script.length ≤ m.script.length := by
    intro β effect kept
    unfold leaveWith
    split
    · next m' heq =>
      obtain ⟨status, script⟩ := failed m' heq
      exact ⟨status, Nat.le_of_eq (congrArg List.length script)⟩
    · obtain ⟨status, script⟩ := kept
      exact ⟨status, Nat.le_of_eq (congrArg List.length script)⟩
  cases r with
  | delete ns ids concern => exact served _ ⟨rfl, rfl⟩
  | stage txn ns ids => exact served _ ⟨rfl, rfl⟩
  | commit txn =>
    obtain ⟨status, script⟩ := removed txn.staged m
    exact ⟨status, Nat.le_of_eq (congrArg List.length script)⟩
  | status =>
    simp only [leave, report]
    split
    · next c rest heq => exact ⟨rfl, by rw [heq]; exact Nat.le_succ rest.length⟩
    · split
      · exact same
      · exact same
      · exact same
  | _ => exact same

namespace Store

/-! ## Tickets -/

/-- The ticket that a request needs; a store in memory has no tickets. -/
def ticket? (s : Store) (r : Request α) : Option TicketKind :=
  match s with
  | .memory _ => none
  | .keyed _ => KeyedStore.ticket? r

/-- The tickets of a kind.  A store in memory counts as one with a ticket that nobody takes. -/
def tickets (s : Store) (kind : TicketKind) : Tickets :=
  match s with
  | .memory _ => .ofTotal 1
  | .keyed k => k.tickets kind

/-- How many tickets of a kind a request holds in the store. -/
def holding (s : Store) (r : Request α) (kind : TicketKind) : Nat :=
  if s.ticket? r = some kind then 1 else 0

/-- A request is admitted that finds the ticket which it needs. -/
theorem admits_of_available {s : Store} {r : Request α}
    (free : ∀ kind, s.ticket? r = some kind → (s.tickets kind).available = true) :
    s.admits r = true := by
  cases s with
  | memory m => rfl
  | keyed k =>
    simp only [admits, KeyedStore.admits]
    split
    · rfl
    · next kind heq => exact free kind heq

/-- Nothing else is admitted. -/
theorem available_of_admits {s : Store} {r : Request α} {kind : TicketKind}
    (admitted : s.admits r = true) (needed : s.ticket? r = some kind) :
    (s.tickets kind).available = true := by
  cases s with
  | memory m => cases needed
  | keyed k =>
    have needed' : KeyedStore.ticket? r = some kind := needed
    simp only [admits, KeyedStore.admits, needed'] at admitted
    exact admitted

theorem tickets_enter (s : Store) (r : Request α) (kind : TicketKind) :
    (s.enter r).2.tickets kind =
      if s.ticket? r = some kind then (s.tickets kind).take else s.tickets kind := by
  cases s with
  | memory m => rfl
  | keyed k =>
    have needed : (keyed k).ticket? r = KeyedStore.ticket? r := rfl
    rw [needed]
    simp only [enter, KeyedStore.enter, tickets]
    cases KeyedStore.ticket? r with
    | none => rfl
    | some other => simp only [KeyedStore.tickets_mapTickets, Option.some.injEq]

theorem tickets_leave (s : Store) (r : Request α) (kind : TicketKind) :
    (s.leave r).2.tickets kind =
      if s.ticket? r = some kind then (s.tickets kind).giveBack else s.tickets kind := by
  cases s with
  | memory m => rfl
  | keyed k =>
    obtain ⟨partitions, hostScript, left, -⟩ := k.perform_frame r
    have kept : (k.perform r).2.tickets kind = k.tickets kind := by
      rw [left]
      cases kind <;> rfl
    have needed : (keyed k).ticket? r = KeyedStore.ticket? r := rfl
    rw [needed]
    simp only [leave, KeyedStore.leave, KeyedStore.release, tickets]
    cases KeyedStore.ticket? r with
    | none => exact kept
    | some other => simp only [KeyedStore.tickets_mapTickets, kept, Option.some.injEq]

/-! ## Counters -/

/-- How many reports of counters are scripted. -/
def scripted : Store → Nat
  | .memory m => m.script.length
  | .keyed k => k.hostScript.length

theorem scripted_enter (s : Store) (r : Request α) : (s.enter r).2.scripted = s.scripted := by
  cases s with
  | memory m =>
    simp only [enter, MemoryStore.enter]
    split
    · rfl
    · rfl
  | keyed k =>
    simp only [enter, KeyedStore.enter, scripted]
    split
    · rfl
    · next kind _ => rw [(k.mapTickets_frame kind .take).2]

theorem scripted_leave (s : Store) (r : Request α) : (s.leave r).2.scripted ≤ s.scripted := by
  cases s with
  | memory m => exact (m.leave_frame r).2
  | keyed k =>
    obtain ⟨partitions, hostScript, left, fewer⟩ := k.perform_frame r
    have kept : (k.perform r).2.hostScript.length ≤ k.hostScript.length := by
      rw [left]
      exact fewer
    simp only [leave, KeyedStore.leave, KeyedStore.release, scripted]
    split
    · exact kept
    · next kind _ =>
      rw [((k.perform r).2.mapTickets_frame kind .giveBack).2]
      exact kept

end Store

/-- Whether a bucket is let go on these counters. -/
def Counters.Admit (c : Counters) (t : Thresholds) : Prop :=
  (Snapshot.ofCounters c t).pressure? = none

namespace Store

/-- The counters that the store tells when nothing is scripted any more admit a bucket, whatever
tickets are out. -/
def Relents (t : Thresholds) : Store → Prop
  | .memory m => ∀ c, countersOf { m with script := [] }.report.1 = .ok c → c.Admit t
  | .keyed k => ∀ read write : Tickets,
      { k with hostScript := [], readTickets := read, writeTickets := write }.report.1.Admit t

/-- A store without faults tells its counters, or that it has none.  If it relents, the counters
admit a bucket unless they were scripted. -/
theorem admitted_or_fewer {s : Store} (faultless : s.Faultless) :
    ∃ c, countersOf (s.leave .status).1 = .ok c ∧ ∀ t, s.Relents t →
      c.Admit t ∨ (s.leave .status).2.scripted < s.scripted := by
  cases s with
  | memory m =>
    obtain ⟨-, hstatus⟩ := faultless
    simp only [leave, MemoryStore.leave, MemoryStore.report, Relents, scripted]
    cases hscript : m.script with
    | cons c rest => exact ⟨c, rfl, fun t _ => .inr (Nat.lt_succ_self rest.length)⟩
    | nil =>
      cases hmode : m.status with
      | counters c => exact ⟨c, rfl, fun t h => .inl (h c rfl)⟩
      | unsupported => exact ⟨{}, rfl, fun t h => .inl (h {} rfl)⟩
      | failing message => exact absurd hmode (hstatus message)
  | keyed k =>
    simp only [leave, KeyedStore.leave, KeyedStore.perform, KeyedStore.report, Relents, scripted]
    cases hscript : k.hostScript with
    | cons host rest => exact ⟨_, rfl, fun t _ => .inr (Nat.lt_succ_self rest.length)⟩
    | nil => exact ⟨_, rfl, fun t h => .inl (h k.readTickets k.writeTickets)⟩

/-- Whether a store in memory relents is known by the mode of its status. -/
theorem relents_memory {m m' : MemoryStore} (same : m'.status = m.status) {t : Thresholds}
    (h : (memory m).Relents t) : (memory m').Relents t := by
  have told : { m' with script := [] }.report.1 = { m with script := [] }.report.1 := by
    simp only [MemoryStore.report, same]
    cases m.status <;> rfl
  intro c hc
  rw [told] at hc
  exact h c hc

/-- Whether a keyed store relents is known by its host. -/
theorem relents_keyed {k k' : KeyedStore} (same : k'.host = k.host) {t : Thresholds}
    (h : (keyed k).Relents t) : (keyed k').Relents t := by
  intro read write
  have told := h read write
  simp only [KeyedStore.report, KeyedStore.counters, same] at told ⊢
  exact told

/-! ## What stays -/

/-- What stays the same about a store that is used: its kind and how many tickets it has; and it
neither becomes faulty nor tells other counters in the end. -/
structure Kin (s s' : Store) : Prop where
  ticket : ∀ {α : Type} (r : Request α), s'.ticket? r = s.ticket? r
  total : ∀ kind, (s'.tickets kind).total = (s.tickets kind).total
  faultless : s.Faultless → s'.Faultless
  relents : ∀ t, s.Relents t → s'.Relents t

theorem Kin.refl (s : Store) : s.Kin s := ⟨fun _ => rfl, fun _ => rfl, id, fun _ => id⟩

theorem Kin.trans {s s' s'' : Store} (h : s.Kin s') (h' : s'.Kin s'') : s.Kin s'' :=
  ⟨fun r => (h'.ticket r).trans (h.ticket r), fun kind => (h'.total kind).trans (h.total kind),
    h'.faultless ∘ h.faultless, fun t => h'.relents t ∘ h.relents t⟩

theorem kin_enter (s : Store) (r : Request α) : s.Kin (s.enter r).2 := by
  constructor
  · intro β other
    cases s <;> rfl
  · intro kind
    rw [tickets_enter]
    split
    · rfl
    · rfl
  · exact fun h => faultless_enter h r
  · intro t h
    cases s with
    | memory m =>
      simp only [enter, MemoryStore.enter]
      have same : m.enterDelete.status = m.status := rfl
      split
      · exact relents_memory same h
      · exact h
    | keyed k =>
      simp only [enter, KeyedStore.enter]
      split
      · exact h
      · next kind _ => exact relents_keyed (k.mapTickets_frame kind .take).1 h

theorem kin_leave (s : Store) (r : Request α) : s.Kin (s.leave r).2 := by
  constructor
  · intro β other
    cases s <;> rfl
  · intro kind
    rw [tickets_leave]
    split
    · rfl
    · rfl
  · exact fun h => faultless_leave h r
  · intro t h
    cases s with
    | memory m => exact relents_memory (m.leave_frame r).1 h
    | keyed k =>
      obtain ⟨partitions, hostScript, left, -⟩ := k.perform_frame r
      have kept : (keyed (k.perform r).2).Relents t := relents_keyed (by rw [left]) h
      simp only [leave, KeyedStore.leave, KeyedStore.release]
      split
      · exact kept
      · next kind _ =>
        exact relents_keyed ((k.perform r).2.mapTickets_frame kind .giveBack).1 kept

/-! ## Trading -/

/-- What stays the same about a store when tickets have been given back and taken, so many of each
kind, and no reports have been scripted meanwhile. -/
structure Trades (s s' : Store) (given taken : TicketKind → Nat) : Prop where
  kin : s.Kin s'
  scripted : s'.scripted ≤ s.scripted
  out : ∀ kind, given kind ≤ (s.tickets kind).out →
    (s'.tickets kind).out + given kind = (s.tickets kind).out + taken kind

theorem Trades.refl (s : Store) (given : TicketKind → Nat) : s.Trades s given given :=
  ⟨.refl s, Nat.le_refl _, fun _ _ => rfl⟩

theorem Trades.trans {s s' s'' : Store} {given between taken : TicketKind → Nat}
    (h : s.Trades s' given between) (h' : s'.Trades s'' between taken) :
    s.Trades s'' given taken := by
  refine ⟨h.kin.trans h'.kin, Nat.le_trans h'.scripted h.scripted, fun kind held => ?_⟩
  have first := h.out kind held
  have second := h'.out kind (by omega)
  omega

/-- A request holds the same tickets in stores of one kind. -/
theorem Kin.holding {s s' : Store} (kin : s.Kin s') (r : Request α) :
    s'.holding r = s.holding r := by
  funext kind
  simp only [Store.holding, kin.ticket r]

theorem trades_enter {s : Store} {r : Request α} (admitted : s.admits r = true) :
    s.Trades (s.enter r).2 (fun _ => 0) (s.holding r) := by
  refine ⟨s.kin_enter r, Nat.le_of_eq (s.scripted_enter r), fun kind _ => ?_⟩
  rw [tickets_enter, holding]
  split
  · next needed => exact (s.tickets kind).out_take (available_of_admits admitted needed)
  · rfl

theorem trades_leave (s : Store) (r : Request α) :
    s.Trades (s.leave r).2 (s.holding r) (fun _ => 0) := by
  refine ⟨s.kin_leave r, s.scripted_leave r, fun kind held => ?_⟩
  rw [tickets_leave]
  unfold holding at held ⊢
  by_cases needed : s.ticket? r = some kind
  · rw [if_pos needed] at held
    rw [if_pos needed, if_pos needed, Tickets.out_giveBack]
    omega
  · rw [if_neg needed, if_neg needed]

/-- A request that enters and leaves again has taken nothing in the end. -/
theorem trades_through {s : Store} {r : Request α} (admitted : s.admits r = true) :
    s.Trades ((s.enter r).2.leave r).2 (fun _ => 0) (fun _ => 0) := by
  have left := trades_leave (s.enter r).2 r
  rw [(s.kin_enter r).holding] at left
  exact (trades_enter admitted).trans left

end Store

end PacedPurge
