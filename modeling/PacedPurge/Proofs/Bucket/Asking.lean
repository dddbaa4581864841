import PacedPurge.Proofs.Bucket.Supply

/-!
# Asking for rows one after another

What a stream says when it is asked for a row depends on little besides itself.  If nothing has to
be waited for, because rows come at once and a page finds its ticket (`RowSource.Prompt`), it
depends on what the store holds at that moment and on nothing else (`RowSource.poll_eq_answer`).
Every request gives its ticket back, so a stream that is prompt stays so (`RowSource.Prompt.poll`).

A prompt stream that is asked again and again, while the records are left as they are, delivers its
supply (`RowSource.drain_of_whole`).
-/

namespace PacedPurge

/-! ## Tickets -/

namespace KeyedStore

theorem readTickets_delete (k : KeyedStore) (ns : Namespace) (ids : List RecordId)
    (concern : WriteConcern) : (k.delete ns ids concern).2.readTickets = k.readTickets := by
  cases opens : openName ns with
  | error e => rw [delete_of_refused opens]
  | ok name =>
    rw [delete_of_openName opens]
    split
    · rfl
    · rfl

theorem readTickets_removeStaged (k : KeyedStore) (concern : WriteConcern)
    (staged : List (Namespace × List RecordId)) :
    (k.removeStaged concern staged).2.readTickets = k.readTickets := by
  induction staged generalizing k with
  | nil => rfl
  | cons entry rest ih =>
    obtain ⟨ns, ids⟩ := entry
    have one := readTickets_delete k ns ids concern
    unfold removeStaged
    split
    · next hdelete =>
      rw [hdelete] at one
      exact one
    · next hdelete =>
      rw [hdelete] at one
      rw [ih, one]

/-- What a request does leaves the tickets alone. -/
theorem readTickets_perform {α : Type} (k : KeyedStore) (r : Request α) :
    (k.perform r).2.readTickets = k.readTickets := by
  cases r with
  | delete ns ids concern => exact readTickets_delete k ns ids concern
  | commit txn => exact readTickets_removeStaged k txn.concern txn.staged
  | status =>
    simp only [perform, report]
    split <;> rfl
  | _ => rfl

end KeyedStore

/-- Whether a page that is to be read finds its ticket. -/
def Store.admitsPages : Store → Bool
  | .memory _ => true
  | .keyed k => k.readTickets.available

theorem Store.admits_page (s : Store) (scan : KeyedStore.KeyScan) :
    s.admits (.page scan) = s.admitsPages := by
  cases s <;> rfl

/-- A request that has been served has given its ticket back, if it has had one. -/
theorem Store.admitsPages_serve {α : Type} (s : Store) (r : Request α)
    (free : KeyedStore.ticket? r = some .read → s.admitsPages = true) :
    ((s.enter r).2.leave r).2.admitsPages = s.admitsPages := by
  cases s with
  | memory m => rfl
  | keyed k =>
    simp only [enter, leave, KeyedStore.leave, admitsPages]
    have kept := KeyedStore.readTickets_perform (k.enter r) r
    unfold KeyedStore.release KeyedStore.enter at *
    cases ticket : KeyedStore.ticket? r with
    | none =>
      simp only [ticket] at kept ⊢
      rw [kept]
    | some kind =>
      cases kind with
      | read =>
        simp only [ticket, KeyedStore.mapTickets] at kept ⊢
        rw [kept, Tickets.giveBack_take _ (free ticket)]
      | write =>
        simp only [ticket, KeyedStore.mapTickets] at kept ⊢
        rw [kept]

/-! ## What a stream says -/

/-- The page that a reading comes to, by what the store holds. -/
def Holdings.page (h : Holdings) (scan : KeyedStore.KeyScan) : Except StoreError KeyedStore.Page :=
  match h.reading scan with
  | .error e => .error e
  | .ok entries => KeyedStore.readPage scan.selection scan.pageSize none entries

namespace RowSource

/-- What a stream says that has nothing to wait for, and the stream afterwards. -/
def answer (h : Holdings) : RowSource → Polled Delivery × RowSource
  | .known arrivals => (arrivals.take.1, .known arrivals.take.2)
  | .paged scan (row :: rest) => (.ready (.ok row), .paged scan rest)
  | .paged scan [] => if scan.done then (.ended, .paged scan []) else takePage scan (h.page scan)

/-- Nothing has to be waited for: rows come at once, and a page finds its ticket. -/
def Prompt (s : RowSource) (store : Store) : Prop :=
  match s with
  | .known arrivals => ∀ a ∈ arrivals.rest, a.delay = none
  | .paged _ _ => store.admitsPages

theorem prompt_ofRows (rows : List Row) (store : Store) :
    Prompt (.known (.ofRows rows)) store := by
  intro a ha
  obtain ⟨row, -, rfl⟩ := List.mem_map.mp ha
  rfl

variable {s : RowSource} {site : Site}

/-- **What a prompt stream says** is decided by what the store holds. -/
theorem poll_eq_answer (prompt : s.Prompt site.store) :
    ((s.poll site).1, (s.poll site).2.1) = s.answer site.store.holdings := by
  cases s with
  | known arrivals =>
    obtain ⟨rest, asked⟩ := arrivals
    have now : Arrivals.due? ⟨rest, asked⟩ site.clock = none := by
      cases rest with
      | nil => rfl
      | cons a rest =>
        have := prompt a List.mem_cons_self
        simp only [Arrivals.due?, Arrivals.delay?, List.head?_cons, Option.bind_some, this]
        rfl
    simp only [poll, now, answer]
  | paged scan buffered =>
    cases buffered with
    | cons row rest => rfl
    | nil =>
      have found : site.store.admits (.page scan) = true := by
        rw [Store.admits_page]
        exact prompt
      have kept : (site.enter (.page scan)).2.store.holdings = site.store.holdings :=
        Store.holdings_enter site.store (.page scan)
      simp only [poll, answer, found, if_true]
      split
      · rfl
      · simp only [fetchPage, Site.answer_leave, Store.answer_page, kept]
        rfl

theorem Prompt.said_eq (prompt : s.Prompt site.store) :
    (s.poll site).1 = (s.answer site.store.holdings).1 :=
  congrArg Prod.fst (poll_eq_answer prompt)

theorem Prompt.next_eq (prompt : s.Prompt site.store) :
    (s.poll site).2.1 = (s.answer site.store.holdings).2 :=
  congrArg Prod.snd (poll_eq_answer prompt)

/-- A reading that is done has no more rows. -/
theorem poll_of_done {scan : KeyedStore.KeyScan} (done : scan.done = true) :
    poll (.paged scan []) site = (.ended, .paged scan [], site) := by
  simp only [poll, done, if_true]

/-- A reading that finds no ticket has to be asked again. -/
theorem poll_of_no_ticket {scan : KeyedStore.KeyScan} (more : scan.done = false)
    (refused : site.store.admitsPages = false) :
    poll (.paged scan []) site = (.later site.clock, .paged scan [], site) := by
  simp only [poll, more, Store.admits_page, refused, Bool.false_eq_true, if_false]

/-- Whoever is asked gives its ticket back. -/
theorem admitsPages_poll (s : RowSource) (site : Site) :
    (s.poll site).2.2.store.admitsPages = site.store.admitsPages := by
  cases s with
  | known arrivals =>
    simp only [poll]
    split
    · rfl
    · split <;> rfl
  | paged scan buffered =>
    cases buffered with
    | cons row rest => rfl
    | nil =>
      simp only [poll]
      split
      · rfl
      · split
        · next admitted =>
          simp only [fetchPage, Site.store_leave]
          exact Store.admitsPages_serve site.store (.page scan) fun _ => admitted
        · rfl

/-- What a page comes to is a reading again, of pages of the same size in the same collection. -/
theorem takePage_paged (scan : KeyedStore.KeyScan) (answer : Except StoreError KeyedStore.Page) :
    ∃ after buffered, (takePage scan answer).2 = .paged after buffered ∧
      after.ns = scan.ns ∧ after.pageSize = scan.pageSize := by
  unfold takePage
  split
  · exact ⟨_, _, rfl, rfl, rfl⟩
  · split
    · exact ⟨_, _, rfl, rfl, rfl⟩
    · exact ⟨_, _, rfl, rfl, rfl⟩

/-- A prompt stream stays prompt. -/
theorem Prompt.poll (prompt : s.Prompt site.store) :
    (s.poll site).2.1.Prompt (s.poll site).2.2.store := by
  have tickets := admitsPages_poll s site
  rw [prompt.next_eq]
  cases s with
  | known arrivals =>
    obtain ⟨rest, asked⟩ := arrivals
    cases rest with
    | nil => exact prompt
    | cons a rest => exact fun b hb => prompt b (List.mem_cons_of_mem a hb)
  | paged scan buffered =>
    cases buffered with
    | cons row rest => exact prompt
    | nil =>
      simp only [answer]
      split
      · exact tickets.trans prompt
      · obtain ⟨after, buffered, same, -⟩ := takePage_paged scan (site.store.holdings.page scan)
        simp only [same]
        exact tickets.trans prompt

/-- A stream that has room for a row in a page keeps it. -/
theorem HasRoom.answer (room : s.HasRoom) (h : Holdings) : (s.answer h).2.HasRoom := by
  cases s with
  | known arrivals => trivial
  | paged scan buffered =>
    cases buffered with
    | cons row rest => exact room
    | nil =>
      simp only [RowSource.answer]
      split
      · exact room
      · obtain ⟨after, buffered, same, -, size⟩ := takePage_paged scan (h.page scan)
        simp only [same, HasRoom, size]
        exact room

/-- A prompt stream never says to come back later. -/
theorem Prompt.poll_ne_later (prompt : s.Prompt site.store) (time : Nat) :
    (s.poll site).1 ≠ .later time := by
  rw [prompt.said_eq]
  cases s with
  | known arrivals =>
    obtain ⟨rest, asked⟩ := arrivals
    cases rest <;> simp [answer, Arrivals.take]
  | paged scan buffered =>
    cases buffered with
    | cons row rest => simp [answer]
    | nil =>
      simp only [answer, takePage]
      split
      · simp
      · split
        · simp
        · split <;> simp

/-! ## Taking all rows -/

/-- **Taking the rows of a supply that comes to its end.** -/
theorem drain_of_whole (room : s.HasRoom) (prompt : s.Prompt site.store)
    (whole : (s.supply site.store.holdings).fault = none) (fuel : Nat) :
    (s.drain fuel site).1 = ((s.supply site.store.holdings).rows.map .ok).take fuel := by
  induction fuel generalizing s site with
  | zero => rfl
  | succ fuel ih =>
    obtain ⟨step, kept⟩ := poll_cases s room site
    have still := prompt.poll
    have said := prompt.poll_ne_later
    unfold drain
    generalize s.poll site = asked at step kept still said
    obtain ⟨polled, after, site'⟩ := asked
    simp only at step kept still said ⊢
    cases step with
    | later same behind room => exact absurd rfl (said _)
    | fault stop => rw [stop] at whole; cases whole
    | ended stop => simp only [stop, List.map_nil, List.take_nil]
    | row next behind room =>
      rw [next] at whole
      have rest := ih room still (by rw [kept]; exact whole)
      rw [kept] at rest
      simp only [next, List.map_cons, List.take_succ_cons, rest]

/-- Taking the rows of a reading that something stops before it has any. -/
theorem drain_of_fault {scan : KeyedStore.KeyScan} {e : StoreError}
    (prompt : Prompt (.paged scan []) site.store) (more : scan.done = false)
    (stop : site.store.holdings.page scan = .error e) (fuel : Nat) :
    (drain fuel (.paged scan []) site).1 = [Except.error e].take fuel := by
  have asked := poll_eq_answer prompt
  have answered : answer site.store.holdings (.paged scan []) =
      (.ready (.error e), .paged { scan with done := true } []) := by
    simp only [answer, more, stop]
    rfl
  rw [answered] at asked
  cases fuel with
  | zero => rfl
  | succ fuel =>
    unfold drain
    generalize poll (.paged scan []) site = said at asked
    obtain ⟨polled, after, site'⟩ := said
    obtain ⟨rfl, rfl⟩ := Prod.mk.inj asked
    cases fuel with
    | zero => rfl
    | succ fuel => simp only [drain, poll, if_true, List.take_succ_cons, List.take_nil]

end RowSource

/-! ## The beginning of a reading -/

namespace KeyedStore

/-- A reading that is about to begin. -/
def KeyScan.start (ns : Namespace) (selection : Selection) (size : Nat) : KeyScan :=
  { ns, selection, pageSize := size }

variable {k : KeyedStore} {ns : Namespace} {name : String} {query : Query} {c : Collation}

theorem hasRoom_start (ns : Namespace) (selection : Selection) (size : Nat) :
    RowSource.HasRoom (.paged (.start ns selection (max 1 size)) []) := by
  show 0 < max 1 size
  omega

theorem partitionName_of_openName (hname : openName ns = .ok name) :
    partitionName ns = .ok name := by
  unfold openName at hname
  split at hname
  · cases hname
  · next name' heq =>
    split at hname
    · cases hname
    · rw [heq, hname]

/-- What a query for a collection opens that the store can have. -/
theorem answer_rows (hname : openName ns = .ok name)
    (hc : Collation.parse query.collation = .ok c) :
    ((Store.keyed k).leave (.rows ns query)).1 =
      if isKeyOrdered ⟨query.filter, c⟩ then
        .ok (.paged (.start ns ⟨query.filter, c⟩ (max 1 query.bucketSize)) [])
      else
        match Selection.search ⟨query.filter, c⟩ (stored (k.partition name).toList) with
        | .error e => .error e
        | .ok found => .ok (.known (.ofRows (Row.window c query.bucketSize found))) := by
  simp only [Store.leave, KeyedStore.leave, perform, rows, openQuery, hc,
    partitionName_of_openName hname, candidates, hname, select_eq_search, stored]
  rfl

theorem entries_of_openName (hname : openName ns = .ok name) :
    (Store.keyed k).holdings.entries ns = stored (k.partition name).toList := by
  simp only [Store.holdings, Holdings.entries, hname]
  rfl

/-- A reading goes through the entries behind its cursor. -/
theorem reading_keyed {scan : KeyScan} (hname : openName scan.ns = .ok name)
    (room : scan.pageSize ≤ maxPageSize) :
    (Store.keyed k).holdings.reading scan = .ok (entriesAfter (k.partition name) scan.cursor) := by
  have fits : ¬maxPageSize < scan.pageSize := by omega
  simp only [Store.holdings, Holdings.reading, hname]
  exact if_neg fits

/-- A reading from the beginning goes through the whole partition. -/
theorem reading_start (hname : openName ns = .ok name) (selection : Selection) {size : Nat}
    (room : size ≤ maxPageSize) :
    (Store.keyed k).holdings.reading (.start ns selection size) =
      .ok (k.partition name).toList :=
  reading_keyed hname room

/-- The first page. -/
theorem page_start (hname : openName ns = .ok name) (selection : Selection) {size : Nat}
    (room : size ≤ maxPageSize) :
    (Store.keyed k).holdings.page (.start ns selection size) =
      readPage selection size none (k.partition name).toList := by
  simp only [Holdings.page, reading_start hname selection room]
  rfl

/-- All pages. -/
theorem supply_start (hname : openName ns = .ok name) (selection : Selection) {size : Nat}
    (room : size ≤ maxPageSize) :
    RowSource.supply (Store.keyed k).holdings (.paged (.start ns selection size) []) =
      .paged size 0 (selection.gather (stored (k.partition name).toList)) := by
  simp only [RowSource.supply, Holdings.pagesAhead, reading_start hname selection room,
    List.nil_append]
  rfl

end KeyedStore

end PacedPurge
