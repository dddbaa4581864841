import PacedPurge.Bucket.Source
import PacedPurge.Proofs.Purge.Calm
import PacedPurge.Proofs.Store.Staging

/-!
# Tickets out and operations under way

Operations of any kind share a keyed store: requests that are called for, and streams of rows that
are read page by page once the rows have been called for (`Operation`).  They come when they like
and go on in any order, one stage at a time; records are inserted between two stages, and the gate,
the clock and the rounds change as they please (`Traffic.play`).

One stage of an operation takes a ticket that is to be had, if the operation has none; or gives back
the one it has; or leaves all tickets where they are (`KeyedStore.Trade`).  So the tickets that are
out are those of the operations inside the store (`Traffic.Balanced`), whatever the answers are.
For each operation a ledger is kept of what its own stages did to the tickets (`Visit.held`): it
never shows more than one.

A page of a reading is fetched in one go when nobody else is about.  Here its stages are taken
apart, and run through they come to the same (`Reader.next_eq_poll`).
-/

namespace PacedPurge

variable {α : Type}

/-! ## Readings -/

/-- The reading of which a stream has to fetch a page before it can deliver anything. -/
def RowSource.pageDue? : RowSource → Option KeyedStore.KeyScan
  | .paged scan [] => if scan.done then none else some scan
  | .paged _ (_ :: _) | .known _ => none

theorem RowSource.eq_of_pageDue? {rows : RowSource} {scan : KeyedStore.KeyScan}
    (h : rows.pageDue? = some scan) : rows = .paged scan [] ∧ scan.done = false := by
  unfold pageDue? at h
  split at h
  · split at h
    · cases h
    · next unfinished =>
      obtain rfl := Option.some.inj h
      exact ⟨rfl, eq_false_of_ne_true unfinished⟩
  · cases h
  · cases h

/-- A stream that has no page to fetch leaves the store alone. -/
theorem RowSource.store_poll {rows : RowSource} (h : rows.pageDue? = none) (site : Site) :
    (rows.poll site).2.2.store = site.store := by
  unfold poll
  split
  · simp only
    split
    · rfl
    · split
      · rfl
      · rfl
  · rfl
  · next scan =>
    have finished : scan.done = true := by
      by_contra unfinished
      simp [pageDue?, unfinished] at h
    rw [if_pos finished]

/-- A client that takes the rows of a stream: between two rows, or as far as it has come with a
page. -/
inductive Reader where
  | between (rows : RowSource)
  | paging (scan : KeyedStore.KeyScan) (stage : Stage)

namespace Reader

/-- Goes on by one row, or by one stage of a page: what the stream says, if it says anything yet. -/
def advance (r : Reader) (site : Site) : Option (Polled Delivery) × Reader × Site :=
  match r with
  | .between rows =>
    match rows.pageDue? with
    | some scan => (none, .paging scan .arriving, site)
    | none => let (said, rows, site) := rows.poll site; (some said, .between rows, site)
  | .paging scan stage =>
    match Call.advance ⟨.page scan, stage⟩ site with
    | (.waiting call, site) => (none, .paging scan call.stage, site)
    | (.answered answer, site) =>
      let (said, rows) := RowSource.takePage scan answer
      (some said, .between rows, site)

/-- Goes on until the stream says something, when nobody else is about. -/
def next (fuel : Nat) (r : Reader) (site : Site) : Option (Polled Delivery × Reader × Site) :=
  match fuel with
  | 0 => none
  | fuel + 1 =>
    match r.advance site with
    | (some said, r, site) => some (said, r, site)
    | (none, r, site) => next fuel r site

end Reader

/-- **A page that is read stage by stage** is the page that is fetched at once, if it is admitted
and a wait may end. -/
theorem Reader.next_eq_poll {rows : RowSource} {site : Site} {k : KeyedStore}
    (hk : site.store = .keyed k)
    (admitted : ∀ scan, rows.pageDue? = some scan → k.admits (.page scan) = true)
    (room : 0 < site.allowance) :
    (Reader.between rows).next 5 site =
      some ((rows.poll site).1, .between (rows.poll site).2.1, (rows.poll site).2.2) := by
  rcases hdue : rows.pageDue? with _ | scan
  · simp only [next, advance, hdue]
  · obtain ⟨rfl, unfinished⟩ := RowSource.eq_of_pageDue? hdue
    have admits : site.store.admits (.page scan) = true := by
      rw [hk]
      exact admitted scan hdue
    let entered := (site.enter (.page scan)).2
    have stays : entered.store.handsOver (.page scan) = true := by
      show (site.store.enter (.page scan)).2.handsOver (.page scan) = true
      rw [hk]
      rfl
    have knocks : Call.advance ⟨.page scan, .knocking⟩ site =
        (.waiting ⟨.page scan, .ticketed⟩, entered) := by
      have handsOver : site.store.handsOver (.page scan) = true := by
        rw [hk]
        rfl
      simp only [Call.advance, Call.knock, admits, handsOver, if_true]
      rfl
    have waits : Call.advance ⟨.page scan, .ticketed⟩ entered =
        (.waiting ⟨.page scan, .inside none⟩, entered.endWait) := if_pos room
    have leaves : entered.endWait.leave (.page scan) = entered.leave (.page scan) := by
      simp only [Site.leave, Site.endWait, stays, if_true]
      rfl
    have fetched : RowSource.poll (.paged scan []) site =
        ((RowSource.takePage scan (entered.leave (.page scan)).1).1,
          (RowSource.takePage scan (entered.leave (.page scan)).1).2,
          (entered.leave (.page scan)).2) := by
      simp only [RowSource.poll, unfinished, admits, if_true]
      rfl
    rw [fetched]
    have arrives : Call.advance ⟨.page scan, .arriving⟩ site =
        (.waiting ⟨.page scan, .knocking⟩, site) := rfl
    have answered : Call.advance ⟨.page scan, .inside none⟩ entered.endWait =
        (.answered (entered.leave (.page scan)).1, (entered.leave (.page scan)).2) := by
      rw [← leaves]
      rfl
    simp only [next, advance, hdue, arrives, knocks, waits, answered]

/-! ## Operations -/

/-- What a client has under way at a store: a call, or a stream of rows that it takes; or nothing
any more. -/
inductive Operation : Type 1 where
  | call {α : Type} (c : Call α)
  | reading (r : Reader)
  | over

namespace Operation

/-- What comes after the answer of a call: rows that were called for are read. -/
def following : Request α → Except StoreError α → Operation
  | .rows _ _, .ok rows => .reading (.between rows)
  | _, _ => .over

/-- Goes one stage further. -/
def advance (o : Operation) (site : Site) : Operation × Site :=
  match o with
  | .call c =>
    match c.advance site with
    | (.waiting c, site) => (.call c, site)
    | (.answered answer, site) => (following c.request answer, site)
  | .reading r =>
    match r.advance site with
    | (some .ended, _, site) => (.over, site)
    | (_, r, site) => (.reading r, site)
  | .over => (.over, site)

end Operation

/-- The ticket that a call to a keyed store has: the one that it needs, from the moment at which it
enters the store to its answer. -/
def Call.ticket? (c : Call α) : Option TicketKind :=
  if c.stage.isInside then KeyedStore.ticket? c.request else none

/-- An answered call has no ticket. -/
def Outcome.ticket? : Outcome α → Option TicketKind
  | .waiting c => c.ticket?
  | .answered _ => none

/-- Between two rows a stream has no ticket. -/
def Reader.ticket? : Reader → Option TicketKind
  | .between _ => none
  | .paging scan stage => Call.ticket? ⟨.page scan, stage⟩

def Operation.ticket? : Operation → Option TicketKind
  | .call c => c.ticket?
  | .reading r => r.ticket?
  | .over => none

/-- How many tickets of a kind an operation has by that. -/
def Operation.holding (o : Operation) (kind : TicketKind) : Nat :=
  if o.ticket? = some kind then 1 else 0

/-- An operation has one ticket at most. -/
theorem Operation.holding_le (o : Operation) : o.holding .read + o.holding .write ≤ 1 := by
  unfold holding
  rcases o.ticket? with _ | _ | _ <;> decide

/-- While a page is fetched a stream has a ticket for reading, from the moment at which the page
enters the store. -/
theorem Operation.holding_paging (scan : KeyedStore.KeyScan) (stage : Stage) (kind : TicketKind) :
    (reading (.paging scan stage)).holding kind =
      if stage.isInside = true ∧ kind = .read then 1 else 0 := by
  have needed : KeyedStore.ticket? (.page scan) = some .read := rfl
  simp only [holding, ticket?, Reader.ticket?, Call.ticket?, needed]
  rcases stage.isInside with _ | _ <;> rcases kind with _ | _ <;> decide

/-- Tickets for writing are for requests that remove records, now or on commit. -/
theorem KeyedStore.ticket?_eq_write_iff (r : Request α) :
    ticket? r = some .write ↔ (r.isDelete || r.removes) = true := by
  rcases r with ⟨ns, query⟩ | _ | _ | _ | _ | _ | _ | ⟨ns, filter, collation⟩ | _
  case rows =>
    simp only [ticket?, Request.isDelete, Request.removes]
    split
    · split
      · simp
      · simp
    · simp
  case count =>
    simp only [ticket?, Request.isDelete, Request.removes]
    split
    · simp
    · simp
  all_goals simp [ticket?, Request.isDelete, Request.removes]

/-- A call has a ticket for writing if it is to remove records, from the moment at which it enters
the store. -/
theorem Operation.holding_call (c : Call α) :
    (call c).holding .write =
      if c.stage.isInside ∧ (c.request.isDelete || c.request.removes) then 1 else 0 := by
  simp only [holding, ticket?, Call.ticket?, ← KeyedStore.ticket?_eq_write_iff]
  by_cases inside : c.stage.isInside = true
  · simp [inside]
  · simp [inside]

/-! ## One stage -/

/-- **What one stage does to the tickets of a keyed store**: nothing, to an operation with a ticket
or without; or the operation, which has none, takes one that is to be had; or it gives back the one
it has. -/
inductive KeyedStore.Trade (k k' : KeyedStore) : Option TicketKind → Option TicketKind → Prop
  | none {held : Option TicketKind} (same : k'.tickets = k.tickets) : Trade k k' held held
  | takes {kind : TicketKind} (free : (k.tickets kind).available = true)
      (taken : k'.tickets = (k.mapTickets kind .take).tickets) : Trade k k' .none (some kind)
  | gives {kind : TicketKind} (given : k'.tickets = (k.mapTickets kind .giveBack).tickets) :
      Trade k k' (some kind) .none

namespace KeyedStore

/-- A request that is admitted takes the ticket that it needs. -/
theorem trade_enter {k : KeyedStore} {r : Request α} (admitted : k.admits r = true) :
    k.Trade (k.enter r) Option.none (ticket? r) := by
  unfold admits at admitted
  unfold enter
  rcases needed : ticket? r with _ | kind
  · exact .none rfl
  · rw [needed] at admitted
    exact .takes admitted rfl

/-- A request that leaves gives back the ticket that it needed. -/
theorem trade_leave (k : KeyedStore) (r : Request α) :
    k.Trade (k.leave r).2 (ticket? r) Option.none := by
  obtain ⟨partitions, hostScript, performed, -⟩ := k.perform_frame r
  have kept : (k.perform r).2.tickets = k.tickets := by
    funext kind
    rw [performed]
    rcases kind <;> rfl
  unfold leave release
  rcases ticket? r with _ | kind
  · exact .none kept
  · refine .gives ?_
    funext other
    simp only [tickets_mapTickets, kept]

end KeyedStore

/-- **Every stage of a call** trades in this way. -/
theorem Call.trade_advance (c : Call α) {site : Site} {k : KeyedStore}
    (hk : site.store = .keyed k) :
    ∃ k', (c.advance site).2.store = .keyed k' ∧
      k.Trade k' c.ticket? (c.advance site).1.ticket? := by
  obtain ⟨request, stage⟩ := c
  have letGo : ∀ error, ((⟨request, stage⟩ : Call α).letGo error).ticket? = none := by
    intro error
    rcases error with _ | e
    · rfl
    · rfl
  have leaves : ∀ {after : Site} (time : Option Nat), after.store = site.store →
      ∃ k', (after.leave request).2.store = .keyed k' ∧
        k.Trade k' (Call.ticket? ⟨request, .inside time⟩) none := by
    intro after time same
    refine ⟨(k.leave request).2, ?_, k.trade_leave request⟩
    rw [Site.store_leave, same, hk]
    rfl
  rcases stage with _ | ⟨time, error⟩ | _ | _ | time
  · refine ⟨k, hk ▸ ?_, ?_⟩
    · simp only [advance, arrive]
      split <;> rfl
    · simp only [advance, arrive]
      split
      · exact .none rfl
      · rw [letGo]
        exact .none rfl
      · exact .none rfl
  · simp only [advance]
    split
    · refine ⟨k, hk, ?_⟩
      rw [letGo]
      exact .none rfl
    · exact ⟨k, hk, .none rfl⟩
  · simp only [advance, knock]
    split
    · next admitted =>
      rw [hk] at admitted
      refine ⟨k.enter request, ?_, ?_⟩
      · simp only [Site.enter, hk]
        rfl
      · have entered : ∀ stage : Stage, stage.isInside = true →
            Call.ticket? ⟨request, stage⟩ = KeyedStore.ticket? request :=
          fun _ inside => if_pos inside
        have inside : ∀ time, Stage.isInside
            (if site.store.handsOver request = true then .ticketed else .inside time) = true := by
          intro time
          split
          · rfl
          · rfl
        simp only [Outcome.ticket?]
        rw [entered _ (inside _)]
        exact KeyedStore.trade_enter admitted
    · exact ⟨k, hk, .none rfl⟩
  · simp only [advance]
    split
    · exact ⟨k, hk, .none rfl⟩
    · exact ⟨k, hk, .none rfl⟩
  · rcases time with _ | time
    · exact leaves none rfl
    · simp only [advance]
      split
      · exact leaves (some time) rfl
      · exact ⟨k, hk, .none rfl⟩

theorem Reader.trade_advance (r : Reader) {site : Site} {k : KeyedStore}
    (hk : site.store = .keyed k) :
    ∃ k', (r.advance site).2.2.store = .keyed k' ∧
      k.Trade k' r.ticket? (r.advance site).2.1.ticket? := by
  rcases r with rows | ⟨scan, stage⟩
  · refine ⟨k, ?_, ?_⟩
    · simp only [advance]
      split
      · exact hk
      · next none_due => exact (rows.store_poll none_due site).trans hk
    · simp only [advance]
      split
      · exact .none rfl
      · exact .none rfl
  · obtain ⟨k', after, trade⟩ := Call.trade_advance ⟨.page scan, stage⟩ hk
    refine ⟨k', ?_⟩
    simp only [advance]
    split
    · next call later heq =>
      rw [heq] at after trade
      obtain ⟨request, stage'⟩ := call
      obtain rfl : request = .page scan := Call.request_of_waiting (congrArg Prod.fst heq)
      exact ⟨after, trade⟩
    · next answer later heq =>
      rw [heq] at after trade
      exact ⟨after, trade⟩

/-- A stream that says something has no ticket. -/
theorem Reader.ticket?_of_said {r : Reader} {site : Site} {said : Polled Delivery}
    (h : (r.advance site).1 = some said) : (r.advance site).2.1.ticket? = none := by
  rcases r with rows | ⟨scan, stage⟩
  · simp only [advance] at h ⊢
    split at h
    · cases h
    · rfl
  · simp only [advance] at h ⊢
    split at h
    · cases h
    · rfl

/-- Nothing that follows an answer has a ticket yet. -/
theorem Operation.ticket?_following (r : Request α) (answer : Except StoreError α) :
    (following r answer).ticket? = none := by
  unfold following
  split
  · rfl
  · rfl

/-- **Every stage of an operation** trades in this way. -/
theorem Operation.trade_advance (o : Operation) {site : Site} {k : KeyedStore}
    (hk : site.store = .keyed k) :
    ∃ k', (o.advance site).2.store = .keyed k' ∧
      k.Trade k' o.ticket? (o.advance site).1.ticket? := by
  rcases o with c | r | _
  · obtain ⟨k', after, trade⟩ := c.trade_advance hk
    refine ⟨k', ?_⟩
    simp only [advance]
    split
    · next heq =>
      rw [heq] at after trade
      exact ⟨after, trade⟩
    · next answer _ heq =>
      rw [heq] at after trade
      refine ⟨after, ?_⟩
      rw [ticket?_following]
      exact trade
  · obtain ⟨k', after, trade⟩ := r.trade_advance hk
    refine ⟨k', ?_⟩
    simp only [advance]
    split
    · next heq =>
      rw [Reader.ticket?_of_said (congrArg Prod.fst heq)] at trade
      rw [heq] at after
      exact ⟨after, trade⟩
    · next heq =>
      rw [heq] at after trade
      exact ⟨after, trade⟩
  · exact ⟨k, hk, .none rfl⟩

/-! ## Traffic -/

/-- An operation, with the ledger of its tickets: how many of each kind its own stages have taken
out, less what they have given back. -/
structure Visit : Type 1 where
  operation : Operation
  held : TicketKind → Int

namespace Visit

/-- A request is called for. -/
def start (r : Request α) : Visit := ⟨.call (.start r), fun _ => 0⟩

/-- The operation goes one stage further, and what that did to the tickets goes into the ledger. -/
def advance (v : Visit) (site : Site) : Visit × Site :=
  let (operation, after) := v.operation.advance site
  (⟨operation, fun kind =>
    v.held kind + ((after.store.tickets kind).out - (site.store.tickets kind).out : Int)⟩, after)

end Visit

/-- What happens at a store. -/
inductive Happening : Type 1 where
  /-- A client calls for something. -/
  | calls {α : Type} (r : Request α)
  /-- The operation of a number goes on. -/
  | goesOn (number : Nat)
  /-- Records are added. -/
  | inserts (ns : Namespace) (docs : List (RecordId × Document))
  /-- The gate, the time, the round: all but the store. -/
  | turns (surroundings : Site)

/-- A store and all operations that have come to it, those that are over included. -/
structure Traffic : Type 1 where
  site : Site
  visits : List Visit := []

namespace Traffic

/-- Something happens. -/
def after (t : Traffic) : Happening → Traffic
  | .calls r => { t with visits := t.visits ++ [.start r] }
  | .goesOn number =>
    match t.visits[number]? with
    | none => t
    | some v => let (v, site) := v.advance t.site; ⟨site, t.visits.set number v⟩
  | .inserts ns docs =>
    match t.site.store.insertAll ns docs with
    | .error _ => t
    | .ok (_, store) => { t with site := { t.site with store } }
  | .turns surroundings => { t with site := { surroundings with store := t.site.store } }

/-- Much happens. -/
def play (t : Traffic) (happenings : List Happening) : Traffic := happenings.foldl after t

/-- How many operations have taken a ticket of a kind and are not done with it. -/
def holders (t : Traffic) (kind : TicketKind) : Nat :=
  t.visits.countP fun v => v.operation.ticket? = some kind

/-- **The books balance**: the tickets that are not at hand are out to the operations inside the
store, and so every ledger says. -/
structure Balanced (t : Traffic) (stock : TicketKind → Nat) : Prop where
  keyed : ∃ k, t.site.store = .keyed k
  total : ∀ kind, (t.site.store.tickets kind).total = stock kind
  out : ∀ kind, (t.site.store.tickets kind).out = t.holders kind
  ledgers : ∀ v ∈ t.visits, ∀ kind, v.held kind = v.operation.holding kind

end Traffic

namespace KeyedStore.Trade

variable {k k' : KeyedStore} {before after : Option TicketKind}

theorem total (h : k.Trade k' before after) (kind : TicketKind) :
    (k'.tickets kind).total = (k.tickets kind).total := by
  rcases h with same | ⟨-, taken⟩ | given
  · rw [same]
  · rw [taken, tickets_mapTickets]
    split
    · rfl
    · rfl
  · rw [given, tickets_mapTickets]
    split
    · rfl
    · rfl

/-- The tickets out change by those of the operation.  It takes one only if there is one left, so
that none is taken that was not at hand. -/
theorem out (h : k.Trade k' before after) (kind : TicketKind)
    (had : before = some kind → 0 < (k.tickets kind).out) :
    (k'.tickets kind).out + (if before = some kind then 1 else 0) =
      (k.tickets kind).out + if after = some kind then 1 else 0 := by
  rcases h with same | @⟨taker, free, taken⟩ | @⟨giver, given⟩
  · rw [same]
  · simp only [taken, tickets_mapTickets, Option.some.injEq, reduceCtorEq, if_false]
    split
    · next own => exact (k.tickets kind).out_take (own ▸ free)
    · rfl
  · simp only [given, tickets_mapTickets, Option.some.injEq, reduceCtorEq, if_false]
    split
    · next own =>
      have positive := had (congrArg some own)
      rw [Tickets.out_giveBack]
      omega
    · rfl

end KeyedStore.Trade

namespace Traffic

variable {t : Traffic} {stock : TicketKind → Nat}

/-- The books balance of a store whose tickets are all at hand. -/
theorem balanced_start (site : Site) (k : KeyedStore)
    (idle : ∀ kind, (k.tickets kind).out = 0) :
    Balanced ⟨{ site with store := .keyed k }, []⟩ fun kind => (k.tickets kind).total where
  keyed := ⟨k, rfl⟩
  total _ := rfl
  out kind := idle kind
  ledgers _ hv := absurd hv List.not_mem_nil

/-- A store that keeps its tickets keeps its books. -/
theorem Balanced.of_store (h : t.Balanced stock) {site : Site}
    (keyed : ∃ k, site.store = .keyed k) (same : site.store.tickets = t.site.store.tickets) :
    Balanced { t with site } stock where
  keyed := keyed
  total kind := by
    rw [← h.total kind]
    exact congrArg Tickets.total (congrFun same kind)
  out kind := (congrArg Tickets.out (congrFun same kind)).trans (h.out kind)
  ledgers := h.ledgers

/-- An operation that goes on keeps the books. -/
theorem Balanced.goesOn (h : t.Balanced stock) {number : Nat} {v : Visit}
    (found : t.visits[number]? = some v) :
    Balanced ⟨(v.advance t.site).2, t.visits.set number (v.advance t.site).1⟩ stock := by
  obtain ⟨inRange, own⟩ := List.getElem?_eq_some_iff.mp found
  have member : v ∈ t.visits := List.mem_of_getElem? found
  obtain ⟨k, hk⟩ := h.keyed
  obtain ⟨k', hk', trade⟩ := v.operation.trade_advance hk
  have counted : ∀ kind, (k.tickets kind).out = t.holders kind := by
    intro kind
    rw [← h.out kind, hk]
    rfl
  have had : ∀ kind, v.operation.ticket? = some kind → 0 < (k.tickets kind).out := by
    intro kind holds
    rw [counted]
    exact List.countP_pos_iff.mpr ⟨v, member, decide_eq_true holds⟩
  have moved := fun kind => trade.out kind (had kind)
  have store : (v.advance t.site).2.store = .keyed k' := hk'
  refine ⟨⟨k', store⟩, fun kind => ?_, fun kind => ?_, fun w hw kind => ?_⟩
  · rw [store, ← h.total kind, hk]
    exact trade.total kind
  · have recount := List.countP_set
      (p := fun w : Visit => decide (w.operation.ticket? = some kind))
      (a := (v.advance t.site).1) inRange
    simp only [own, decide_eq_true_eq] at recount
    have listed : (if v.operation.ticket? = some kind then 1 else 0) ≤ t.holders kind := by
      split
      · next holds => exact List.countP_pos_iff.mpr ⟨v, member, decide_eq_true holds⟩
      · exact Nat.zero_le _
    have change := moved kind
    have before := counted kind
    rw [store]
    show (k'.tickets kind).out = List.countP _ _
    rw [recount]
    show _ = t.holders kind - _ +
      if (v.operation.advance t.site).1.ticket? = some kind then 1 else 0
    omega
  · rcases List.mem_or_eq_of_mem_set hw with old | rfl
    · exact h.ledgers w old kind
    · have entry := h.ledgers v member kind
      have change := moved kind
      have ledger : (v.advance t.site).1.held kind =
          v.held kind + ((k'.tickets kind).out - (k.tickets kind).out : Int) := by
        show v.held kind + (((v.operation.advance t.site).2.store.tickets kind).out -
          (t.site.store.tickets kind).out : Int) = _
        rw [hk', hk]
        rfl
      rw [ledger, entry]
      show _ = ((v.operation.advance t.site).1.holding kind : Int)
      unfold Operation.holding
      omega

/-- An operation that begins has no ticket. -/
theorem Balanced.calls (h : t.Balanced stock) (r : Request α) :
    Balanced { t with visits := t.visits ++ [.start r] } stock where
  keyed := h.keyed
  total := h.total
  out kind := by
    show _ = List.countP _ _
    rw [List.countP_append]
    exact h.out kind
  ledgers v hv := by
    rcases List.mem_append.mp hv with old | new
    · exact h.ledgers v old
    · obtain rfl := List.mem_singleton.mp new
      exact fun _ => rfl

/-- The tickets at hand and the operations that hold one make up the stock. -/
theorem Balanced.permits_add_holders (h : t.Balanced stock) (kind : TicketKind) :
    (t.site.store.tickets kind).permits + t.holders kind = stock kind := by
  rw [← h.out kind, ← h.total kind]
  exact (t.site.store.tickets kind).permits_add_out

/-- What a store reports whose books balance. -/
theorem Balanced.status (h : t.Balanced stock) :
    ∃ c, (t.site.store.leave .status).1 = .ok c ∧
      c.readTicketsOut = some (t.holders .read) ∧ c.readTicketsTotal = some (stock .read) ∧
      c.writeTicketsOut = some (t.holders .write) ∧ c.writeTicketsTotal = some (stock .write) := by
  obtain ⟨k, hk⟩ := h.keyed
  have out : ∀ kind, (k.tickets kind).out = t.holders kind := by
    intro kind
    rw [← h.out kind, hk]
    rfl
  have total : ∀ kind, (k.tickets kind).total = stock kind := by
    intro kind
    rw [← h.total kind, hk]
    rfl
  have told : ∃ host, (t.site.store.leave .status).1 = .ok (k.counters host) := by
    rw [hk]
    simp only [Store.leave, KeyedStore.leave, KeyedStore.perform, KeyedStore.report]
    split
    · exact ⟨_, rfl⟩
    · exact ⟨_, rfl⟩
  obtain ⟨host, told⟩ := told
  exact ⟨_, told, congrArg some (out .read), congrArg some (total .read),
    congrArg some (out .write), congrArg some (total .write)⟩

/-- No tickets are out when all operations are over. -/
theorem holders_of_over (finished : ∀ v ∈ t.visits, v.operation = .over) (kind : TicketKind) :
    t.holders kind = 0 := by
  apply List.countP_eq_zero.mpr
  intro v hv
  rw [finished v hv]
  exact Bool.false_ne_true

/-- **Whatever happens, the books are kept.** -/
theorem Balanced.after (h : t.Balanced stock) (x : Happening) : (t.after x).Balanced stock := by
  obtain ⟨k, hk⟩ := h.keyed
  rcases x with ⟨r⟩ | number | ⟨ns, docs⟩ | surroundings
  · exact h.calls r
  · simp only [Traffic.after]
    split
    · exact h
    · next v found => exact h.goesOn found
  · simp only [Traffic.after, hk, Store.insertAll]
    cases added : k.insertAll ns docs with
    | error e => exact h
    | ok r =>
      obtain ⟨n, k'⟩ := r
      obtain ⟨name, -, -, -, rfl⟩ := KeyedStore.insertAll_eq_ok_iff.mp added
      apply h.of_store ⟨_, rfl⟩
      rw [hk]
      funext kind
      rcases kind <;> rfl
  · exact h.of_store ⟨k, hk⟩ rfl

/-- Much that happens keeps the books. -/
theorem Balanced.play (h : t.Balanced stock) (happenings : List Happening) :
    (t.play happenings).Balanced stock := by
  induction happenings generalizing t with
  | nil => exact h
  | cons x rest ih => exact ih (h.after x)

end Traffic

/-- **Tickets are balanced.**  However many tickets a keyed store is set up with, none included, and
whatever happens at it: the counters that it reports at that moment say how many operations have
taken a ticket for reading, or for writing, and are not done with it.  These are never more than the
tickets there are, of which there is at least one, and there are none when all operations are over.
An operation never has more than one ticket, and none when it is over; a request has one for writing
while it is inside the store, if it is to remove records now or on commit; and whoever takes the
rows of a stream has one for reading while a page of it is inside the store, and otherwise none. -/
theorem KeyedStore.tickets_balance (site : Site) (k : KeyedStore) (read write : Nat)
    (happenings : List Happening) :
    let opened : KeyedStore :=
      { k with readTickets := .ofTotal read, writeTickets := .ofTotal write }
    let traffic := (Traffic.mk { site with store := .keyed opened } []).play happenings
    (∃ c, (traffic.site.store.leave .status).1 = .ok c ∧
      c.readTicketsOut = some (traffic.holders .read) ∧ c.readTicketsTotal = some (max 1 read) ∧
      c.writeTicketsOut = some (traffic.holders .write) ∧
      c.writeTicketsTotal = some (max 1 write)) ∧
    traffic.holders .read ≤ max 1 read ∧ traffic.holders .write ≤ max 1 write ∧
    ((∀ v ∈ traffic.visits, v.operation = .over) →
      traffic.holders .read = 0 ∧ traffic.holders .write = 0) ∧
    ∀ v ∈ traffic.visits,
      (∀ kind, v.held kind = v.operation.holding kind) ∧
      v.held .read + v.held .write ≤ 1 ∧
      (v.operation = .over → ∀ kind, v.held kind = 0) ∧
      (∀ {α : Type} (c : Call α), v.operation = .call c →
        v.held .write =
          if c.stage.isInside ∧ (c.request.isDelete || c.request.removes) then 1 else 0) ∧
      (∀ rows, v.operation = .reading (.between rows) → ∀ kind, v.held kind = 0) ∧
      ∀ scan stage, v.operation = .reading (.paging scan stage) →
        v.held .write = 0 ∧ v.held .read = if stage.isInside then 1 else 0 := by
  intro opened traffic
  have idle : ∀ kind, (opened.tickets kind).out = 0 := by
    intro kind
    rcases kind with _ | _
    · exact Tickets.out_ofTotal read
    · exact Tickets.out_ofTotal write
  have balanced : traffic.Balanced fun kind => (opened.tickets kind).total :=
    (Traffic.balanced_start site opened idle).play happenings
  have within : ∀ kind, traffic.holders kind ≤ (opened.tickets kind).total := fun kind =>
    Nat.le.intro ((Nat.add_comm _ _).trans (balanced.permits_add_holders kind))
  refine ⟨balanced.status, within .read, within .write, fun finished => ?_, fun v hv => ?_⟩
  · have none_left := Traffic.holders_of_over finished
    exact ⟨none_left .read, none_left .write⟩
  · have ledger := balanced.ledgers v hv
    refine ⟨ledger, ?_, fun finished kind => ?_, fun c calling => ?_, fun rows between kind => ?_,
      fun scan stage paging => ⟨?_, ?_⟩⟩
    · rw [ledger, ledger]
      exact_mod_cast v.operation.holding_le
    · rw [ledger, finished]
      rfl
    · rw [ledger, calling, Operation.holding_call]
      simp
    · rw [ledger, between]
      rfl
    · rw [ledger, paging, Operation.holding_paging]
      simp
    · rw [ledger, paging, Operation.holding_paging]
      simp

/-- With no tickets set up, one of two deletes is let in, and the store says so.  When both have
been answered nothing is out. -/
theorem KeyedStore.tickets_balance_deletes :
    let k : KeyedStore := {}
    let delete : Happening := .calls (.delete ⟨"crm", "orders"⟩ [] .majority)
    let both := [delete, delete, .goesOn 0, .goesOn 0, .goesOn 1, .goesOn 1]
    let ends := [.goesOn 0, .goesOn 0, .goesOn 1, .goesOn 1, .goesOn 1]
    let opened : Traffic :=
      ⟨{ store := .keyed { k with readTickets := .ofTotal 0, writeTickets := .ofTotal 0 } }, []⟩
    (opened.play both).holders .write = 1 ∧
    (∃ c, ((opened.play both).site.store.leave .status).1 = .ok c ∧ c.writeTicketsOut = some 1 ∧
      c.writeTicketsTotal = some 1) ∧
    (∀ v ∈ (opened.play (both ++ ends)).visits, v.operation = .over) ∧
      (opened.play (both ++ ends)).holders .write = 0 := by
  intro k delete both ends opened
  have one : (opened.play both).holders .write = 1 := by rfl
  obtain ⟨⟨c, told, -, -, out, total⟩, -⟩ := tickets_balance { store := .keyed k } k 0 0 both
  obtain ⟨-, -, -, none_out, -⟩ := tickets_balance { store := .keyed k } k 0 0 (both ++ ends)
  have finished : ∀ v ∈ (opened.play (both ++ ends)).visits, v.operation = .over := by
    have visits : (opened.play (both ++ ends)).visits.map Visit.operation = [.over, .over] := by cbv
    intro v hv
    have listed := List.mem_map_of_mem (f := Visit.operation) hv
    rw [visits] at listed
    simpa using listed
  exact ⟨one, ⟨c, told, out.trans (congrArg some one), total⟩, finished, (none_out finished).2⟩

end PacedPurge
