import Mathlib.Data.List.Forall2
import PacedPurge.Proofs.Store.Writing

/-!
# Writes between the rows

A stream of rows is asked for one row after another, and other clients write to the store in between
(`RowSource.asks`).  Rows that are known from the beginning are not touched by this.  A reading page
by page is: it still awaits the keys behind its cursor (`RowSource.Awaits`), and finds under them
what is there when it comes to them.  Keys that it does not await may change as they will.

So two courses of events in which the stores agree on all keys that the stream awaits let it say the
same (`RowSource.said_congr`), and writes that concern no awaited key make no difference to its rows
(`RowSource.said_of_apart`).  A reading page by page comes to its end when the writes have ceased
(`RowSource.exists_ended`).
-/

namespace PacedPurge

/-- What has been delivered, if anything has. -/
def Polled.delivery? {α : Type} : Polled α → Option α
  | .ready value => some value
  | .later _ | .ended => none

theorem Polled.eq_ready_of_delivery? {α : Type} {p : Polled α} {value : α}
    (h : p.delivery? = some value) : p = .ready value := by
  cases p with
  | ready _ => exact congrArg _ (Option.some.inj h)
  | later _ => cases h
  | ended => cases h

/-- A site after other clients have written to its store. -/
def Site.written (site : Site) (ws : List Write) : Site :=
  { site with store := ws.foldl (fun s w => w.perform s) site.store }

/-- Whether the stream is still to visit the key in a partition. -/
def RowSource.Awaits (s : RowSource) (name : String) (key : Key) : Prop :=
  match s with
  | .known _ => False
  | .paged scan _ =>
    scan.done = false ∧ KeyedStore.openName scan.ns = .ok name ∧
      KeyedStore.isAfter scan.cursor key = true

/-- A moment at which a stream is asked for a row. -/
structure Ask where
  /-- What has been written since it was asked before. -/
  writes : List Write
  /-- What it has delivered before. -/
  delivered : List Delivery
  stream : RowSource
  store : Store
  said : Polled Delivery

/-- Whether the writes before it make the same of each key that the stream awaits as others do. -/
def Ask.Agrees (a : Ask) (ws : List Write) : Prop :=
  ∀ name key, a.stream.Awaits name key → ∀ text,
    Write.effects a.writes name key text = Write.effects ws name key text

namespace RowSource

/-! ## Asking again and again -/

/-- A stream that has delivered something is asked again and again, with writes before each time. -/
def asksAfter (delivered : List Delivery) (s : RowSource) (site : Site) :
    List (List Write) → List Ask
  | [] => []
  | ws :: later =>
    let asked := s.poll (site.written ws)
    ⟨ws, delivered, s, (site.written ws).store, asked.1⟩ ::
      asksAfter (delivered ++ asked.1.delivery?.toList) asked.2.1 asked.2.2 later

/-- A stream is asked again and again, with writes before each time. -/
def asks (s : RowSource) (site : Site) (writes : List (List Write)) : List Ask :=
  s.asksAfter [] site writes

variable {s : RowSource} {site site' : Site} {k k' : KeyedStore}

/-! ## What a stream awaits -/

/-- A stream awaits no key that it has passed. -/
theorem awaits_of_answer (room : s.HasRoom) {h : Holdings} {name : String} {key : Key}
    (later : (s.answer h).2.Awaits name key) : s.Awaits name key := by
  cases s with
  | known arrivals => exact later
  | paged scan buffered =>
    cases buffered with
    | cons row rest => exact later
    | nil =>
      simp only [answer] at later
      split at later
      · exact later
      · next more =>
        have goesOn : scan.done = false := Bool.eq_false_iff.mpr more
        cases hreading : h.reading scan with
        | error e =>
          simp only [Holdings.page, hreading, takePage] at later
          cases later.1
        | ok entries =>
          obtain ⟨part, rfl, -⟩ := Holdings.partition_of_reading hreading
          have read := KeyedStore.readPage_cases scan.selection room none
            (KeyedStore.entriesAfter part scan.cursor)
          simp only [Holdings.page, hreading] at later
          generalize KeyedStore.readPage _ _ _ _ = page at read later
          cases read with
          | stopped short stop => cases later.1
          | ended short all =>
            simp only [takePage] at later
            split at later <;> cases later.1
          | filled full split more visited =>
            simp only [takePage] at later
            split at later
            · cases later.1
            · obtain ⟨-, hname, hafter⟩ := later
              exact ⟨goesOn, hname, KeyedStore.isAfter_of_last split hafter⟩

/-- Two stores hold the same under all keys that a stream awaits. -/
def AgreeAhead (s : RowSource) (k k' : KeyedStore) : Prop :=
  ∀ name key, s.Awaits name key → (k.partition name)[key]? = (k'.partition name)[key]?

/-- What a stream says is decided by the keys that it awaits. -/
theorem answer_congr (agree : s.AgreeAhead k k') :
    s.answer (Store.keyed k).holdings = s.answer (Store.keyed k').holdings := by
  cases s with
  | known arrivals => rfl
  | paged scan buffered =>
    cases buffered with
    | cons row rest => rfl
    | nil =>
      simp only [answer]
      split
      · rfl
      · next more =>
        have goesOn : scan.done = false := Bool.eq_false_iff.mpr more
        have same : (Store.keyed k).holdings.reading scan =
            (Store.keyed k').holdings.reading scan := by
          simp only [Store.holdings, Holdings.reading]
          cases hname : KeyedStore.openName scan.ns with
          | error e => rfl
          | ok name =>
            have ahead : KeyedStore.entriesAfter (k.partition name) scan.cursor =
                KeyedStore.entriesAfter (k'.partition name) scan.cursor :=
              KeyedStore.entriesAfter_congr fun key hkey => agree name key ⟨goesOn, hname, hkey⟩
            simp only
            split
            · rfl
            · exact congrArg Except.ok ahead
        simp only [Holdings.page, same]

theorem exists_keyed_of_holdings {s : Store} {k : KeyedStore}
    (h : s.holdings = (Store.keyed k).holdings) :
    ∃ k', s = .keyed k' ∧ ∀ name, k'.partition name = k.partition name := by
  cases s with
  | memory m => cases h
  | keyed k' =>
    refine ⟨k', rfl, fun name => ?_⟩
    unfold KeyedStore.partition
    rw [Holdings.partitions.inj h]

/-- Whether a stream is prompt is a question of tickets. -/
theorem Prompt.of_tickets {store store' : Store} (prompt : s.Prompt store)
    (tickets : store'.admitsPages = store.admitsPages) : s.Prompt store' := by
  cases s with
  | known arrivals => exact prompt
  | paged scan buffered => exact tickets.trans prompt

theorem written_keyed (hk : site.store = .keyed k) (ws : List Write) :
    ∃ k₁, (site.written ws).store = .keyed k₁ ∧
      (site.written ws).store.admitsPages = site.store.admitsPages ∧
      ∀ name key,
        (k₁.partition name)[key]? = Write.effects ws name key (k.partition name)[key]? := by
  obtain ⟨k₁, hstore, tickets, get⟩ := Write.performAll_keyed ws k
  have reached : (site.written ws).store = .keyed k₁ := by
    simp only [Site.written, hk, hstore]
  exact ⟨k₁, reached, by rw [reached, hk, tickets], get⟩

/-- A keyed store is a keyed store after a stream has been asked, with the same in its partitions.
-/
theorem polled_keyed (hk : site.store = .keyed k) (room : s.HasRoom) :
    ∃ k₁, (s.poll site).2.2.store = .keyed k₁ ∧ ∀ name, k₁.partition name = k.partition name := by
  refine exists_keyed_of_holdings ?_
  rw [← hk]
  exact (poll_cases s room site).2

/-! ## Two courses of events -/

/-- **The stream says the same in two courses of events** if the writes make the same of every key
that it awaits. -/
theorem said_congr (hk : site.store = .keyed k) (hk' : site'.store = .keyed k') (room : s.HasRoom)
    (prompt : s.Prompt site.store) (prompt' : s.Prompt site'.store) (agree : s.AgreeAhead k k')
    {delivered delivered' : List Delivery} {writes writes' : List (List Write)}
    (alike : List.Forall₂ Ask.Agrees (s.asksAfter delivered site writes) writes') :
    (s.asksAfter delivered site writes).map (·.said) =
      (s.asksAfter delivered' site' writes').map (·.said) := by
  induction writes generalizing s site site' k k' delivered delivered' writes' with
  | nil =>
    cases alike
    rfl
  | cons ws writes ih =>
    cases alike with
    | @cons _ ws' _ writes' here later =>
      simp only [asksAfter, List.map_cons]
      obtain ⟨k₁, hk₁, tickets, get⟩ := written_keyed hk ws
      obtain ⟨k₁', hk₁', tickets', get'⟩ := written_keyed hk' ws'
      have prompt₁ := prompt.of_tickets tickets
      have prompt₁' := prompt'.of_tickets tickets'
      have agree₁ : s.AgreeAhead k₁ k₁' := fun name key awaited => by
        rw [get, get', agree name key awaited]
        exact here name key awaited _
      have said : (s.poll (site.written ws)).1 = (s.poll (site'.written ws')).1 := by
        rw [prompt₁.said_eq, prompt₁'.said_eq, hk₁, hk₁', answer_congr agree₁]
      have next_eq : (s.poll (site.written ws)).2.1 = (s.answer (Store.keyed k₁).holdings).2 := by
        rw [prompt₁.next_eq, hk₁]
      have next : (s.poll (site.written ws)).2.1 = (s.poll (site'.written ws')).2.1 := by
        rw [next_eq, prompt₁'.next_eq, hk₁', answer_congr agree₁]
      obtain ⟨k₂, hk₂, kept⟩ := polled_keyed hk₁ room
      obtain ⟨k₂', hk₂', kept'⟩ := polled_keyed hk₁' room
      have room₂ : (s.poll (site.written ws)).2.1.HasRoom := by
        rw [next_eq]
        exact room.answer _
      have agree₂ : (s.poll (site.written ws)).2.1.AgreeAhead k₂ k₂' := fun name key awaited => by
        rw [kept, kept']
        rw [next_eq] at awaited
        exact agree₁ name key (awaits_of_answer room awaited)
      have prompt₂' := prompt₁'.poll
      rw [← next] at prompt₂' ⊢
      exact congrArg₂ List.cons said (ih hk₂ hk₂' room₂ prompt₁.poll prompt₂' agree₂ later)

/-- Rows that are known are delivered whatever is written. -/
theorem said_known {arrivals : Arrivals} (prompt : ∀ store, Prompt (.known arrivals) store)
    (site site' : Site) (delivered delivered' : List Delivery) {writes writes' : List (List Write)}
    (length : writes.length = writes'.length) :
    (asksAfter delivered (.known arrivals) site writes).map (·.said) =
      (asksAfter delivered' (.known arrivals) site' writes').map (·.said) := by
  induction writes generalizing arrivals site site' delivered delivered' writes' with
  | nil => rw [List.length_eq_zero_iff.mp length.symm, asksAfter, asksAfter]
  | cons ws writes ih =>
    obtain ⟨ws', writes', rfl⟩ := List.exists_cons_of_length_eq_add_one length.symm
    have asked := prompt (site.written ws).store
    have asked' := prompt (site'.written ws').store
    have still : ∀ store, Prompt (.known arrivals.take.2) store := fun store => by
      have next := asked.poll
      rw [asked.next_eq] at next
      exact next
    simp only [List.map_cons, asksAfter, asked.said_eq, asked.next_eq, asked'.said_eq,
      asked'.next_eq]
    exact congrArg _ (ih still _ _ _ _ (Nat.succ.inj length))

/-- A reading that finds no ticket waits. -/
theorem said_waiting {scan : KeyedStore.KeyScan} (more : scan.done = false)
    (hk : site.store = .keyed k) (none_free : site.store.admitsPages = false)
    (delivered : List Delivery) (writes : List (List Write)) :
    (asksAfter delivered (.paged scan []) site writes).map (·.said) =
      List.replicate writes.length (.later site.clock) := by
  induction writes generalizing site k delivered with
  | nil => rfl
  | cons ws writes ih =>
    obtain ⟨k₁, hk₁, tickets, -⟩ := written_keyed hk ws
    have asked := poll_of_no_ticket more (tickets.trans none_free)
    simp only [List.map_cons, asksAfter, asked]
    exact congrArg _ (ih hk₁ (tickets.trans none_free) _)

theorem length_asksAfter (delivered : List Delivery) (s : RowSource) (site : Site)
    (writes : List (List Write)) : (s.asksAfter delivered site writes).length = writes.length := by
  induction writes generalizing delivered s site with
  | nil => rfl
  | cons ws writes ih => exact congrArg (· + 1) (ih _ _ _)

/-- Each ask comes after its writes. -/
theorem forall₂_asksAfter (delivered : List Delivery) (s : RowSource) (site : Site)
    (writes : List (List Write)) :
    List.Forall₂ (fun a ws => a.writes = ws) (s.asksAfter delivered site writes) writes := by
  induction writes generalizing delivered s site with
  | nil => exact .nil
  | cons ws writes ih => exact .cons rfl (ih _ _ _)

/-- Rows that are known await no key. -/
theorem not_awaits_of_known {arrivals : Arrivals} {delivered : List Delivery}
    {writes : List (List Write)} {a : Ask}
    (ha : a ∈ asksAfter delivered (.known arrivals) site writes) (name : String) (key : Key) :
    ¬a.stream.Awaits name key := by
  induction writes generalizing arrivals site delivered with
  | nil => cases ha
  | cons ws writes ih =>
    obtain rfl | later := List.mem_cons.mp ha
    · exact fun awaited => awaited
    · obtain ⟨after, hafter⟩ : ∃ after, (poll (.known arrivals) (site.written ws)).2.1 =
          .known after := by
        simp only [poll]
        split
        · exact ⟨_, rfl⟩
        · split
          · exact ⟨_, rfl⟩
          · exact ⟨_, rfl⟩
      rw [hafter] at later
      exact ih later

/-! ## The end of a reading -/

/-- A prompt stream never says to come back later, whatever is written. -/
theorem said_ne_later (hk : site.store = .keyed k) (room : s.HasRoom) (prompt : s.Prompt site.store)
    {delivered : List Delivery} {writes : List (List Write)} {a : Ask}
    (ha : a ∈ s.asksAfter delivered site writes) (time : Nat) : a.said ≠ .later time := by
  induction writes generalizing s site k delivered with
  | nil => cases ha
  | cons ws writes ih =>
    obtain ⟨k₁, hk₁, tickets, -⟩ := written_keyed hk ws
    have prompt₁ := prompt.of_tickets tickets
    obtain rfl | later := List.mem_cons.mp ha
    · exact prompt₁.poll_ne_later time
    · obtain ⟨k₂, hk₂, -⟩ := polled_keyed hk₁ room
      have room₂ := room.answer (site.written ws).store.holdings
      rw [← prompt₁.next_eq] at room₂
      exact ih hk₂ room₂ prompt₁.poll later

/-- A page reading that delivers an error is done. -/
theorem done_of_answer_error {scan : KeyedStore.KeyScan} {buffered : List Row} {h : Holdings}
    {e : StoreError} (said : (answer h (.paged scan buffered)).1 = .ready (.error e)) :
    (answer h (.paged scan buffered)).2 = .paged { scan with done := true } [] := by
  cases buffered with
  | cons row rest => cases said
  | nil =>
    simp only [answer] at said ⊢
    split at said
    · cases said
    · next more =>
      rw [if_neg more]
      unfold takePage at said ⊢
      split at said
      · rfl
      · split at said <;> cases said

/-- An answer of a page reading leaves a page reading. -/
theorem exists_paged_of_answer (h : Holdings) (scan : KeyedStore.KeyScan) (buffered : List Row) :
    ∃ scan' buffered', (answer h (.paged scan buffered)).2 = .paged scan' buffered' := by
  cases buffered with
  | cons row rest => exact ⟨_, _, rfl⟩
  | nil =>
    simp only [answer]
    split
    · exact ⟨_, _, rfl⟩
    · obtain ⟨scan', buffered', same, -⟩ := takePage_paged scan (h.page scan)
      exact ⟨scan', buffered', same⟩

/-- A reading of what stays as it is comes to its end. -/
theorem exists_ended_quiet {scan : KeyedStore.KeyScan} {buffered : List Row}
    (room : HasRoom (.paged scan buffered)) (prompt : Prompt (.paged scan buffered) site.store)
    (delivered : List Delivery) :
    ∃ n, ∃ a ∈ asksAfter delivered (.paged scan buffered) site (List.replicate n []),
      a.said = .ended := by
  -- The induction is on the number of rows that are to come.
  generalize hleft : (supply site.store.holdings (.paged scan buffered)).rows.length = left
  induction left using Nat.strongRecOn generalizing scan buffered site delivered with
  | ind left ih =>
    obtain ⟨step, kept⟩ := poll_cases (.paged scan buffered) room site
    have still := prompt.poll
    have first : ∀ n, asksAfter delivered (.paged scan buffered) site (List.replicate (n + 1) []) =
        ⟨[], delivered, .paged scan buffered, site.store, (poll (.paged scan buffered) site).1⟩ ::
          asksAfter (delivered ++ (poll (.paged scan buffered) site).1.delivery?.toList)
            (poll (.paged scan buffered) site).2.1 (poll (.paged scan buffered) site).2.2
            (List.replicate n []) := fun n => rfl
    cases hsaid : (poll (.paged scan buffered) site).1 with
    | later time => exact absurd hsaid (prompt.poll_ne_later time)
    | ended => exact ⟨1, _, List.mem_cons_self, hsaid⟩
    | ready d =>
      cases d with
      | error e =>
        rw [prompt.said_eq] at hsaid
        rw [prompt.next_eq, done_of_answer_error hsaid] at first
        exact ⟨2, _, by rw [first]; exact List.mem_cons_of_mem _ List.mem_cons_self, rfl⟩
      | ok row =>
        obtain ⟨scan', buffered', paged⟩ :=
          exists_paged_of_answer site.store.holdings scan buffered
        rw [hsaid, prompt.next_eq, paged] at step
        rw [prompt.next_eq, paged] at first still
        cases step with
        | row fewer behind room' =>
          have less : (supply (poll (.paged scan buffered) site).2.2.store.holdings
              (.paged scan' buffered')).rows.length < left := by
            rw [kept, ← hleft, fewer]
            exact Nat.lt_succ_self _
          obtain ⟨n, a, ha, hended⟩ := ih _ less room' still _ rfl
          exact ⟨n + 1, a, by rw [first]; exact List.mem_cons_of_mem _ ha, hended⟩

/-- **A reading comes to its end** when the writes have ceased. -/
theorem exists_ended {scan : KeyedStore.KeyScan} {buffered : List Row}
    (hk : site.store = .keyed k) (room : HasRoom (.paged scan buffered))
    (prompt : Prompt (.paged scan buffered) site.store) (delivered : List Delivery)
    (writes : List (List Write)) :
    ∃ n, ∃ a ∈ asksAfter delivered (.paged scan buffered) site (writes ++ List.replicate n []),
      a.said = .ended := by
  induction writes generalizing scan buffered site k delivered with
  | nil => exact exists_ended_quiet room prompt delivered
  | cons ws writes ih =>
    obtain ⟨k₁, hk₁, tickets, -⟩ := written_keyed hk ws
    have prompt₁ := prompt.of_tickets tickets
    obtain ⟨k₂, hk₂, -⟩ := polled_keyed hk₁ room
    obtain ⟨scan', buffered', paged⟩ :=
      exists_paged_of_answer (site.written ws).store.holdings scan buffered
    have room₂ := room.answer (site.written ws).store.holdings
    have still := prompt₁.poll
    rw [prompt₁.next_eq, paged] at still
    rw [paged] at room₂
    obtain ⟨n, a, ha, hended⟩ := ih hk₂ room₂ still _
    refine ⟨n, a, ?_, hended⟩
    simp only [List.cons_append, asksAfter, prompt₁.next_eq, paged]
    exact List.mem_cons_of_mem _ ha

end RowSource

/-! ## What a query opens -/

/-- The rows of a query are known when it is opened, or they are read page by page. -/
theorem Store.opened_cases {s : Store} {ns : Namespace} {query : Query} {rows : RowSource}
    (h : (s.leave (.rows ns query)).1 = .ok rows) :
    (∃ list, rows = .known (.ofRows list)) ∨
      ∃ k c, s = .keyed k ∧ Collation.parse query.collation = .ok c ∧
        KeyedStore.isKeyOrdered ⟨query.filter, c⟩ = true ∧
        rows = .paged (.start ns ⟨query.filter, c⟩ (max 1 query.bucketSize)) [] := by
  cases s with
  | memory m =>
    simp only [leave, MemoryStore.leave] at h
    cases hrows : m.rows ns query with
    | error e => simp [hrows, Except.map] at h
    | ok list =>
      simp only [hrows, Except.map, Except.ok.injEq] at h
      exact .inl ⟨list, h.symm⟩
  | keyed k =>
    simp only [leave, KeyedStore.leave, KeyedStore.perform, KeyedStore.rows,
      KeyedStore.openQuery] at h
    cases hc : Collation.parse query.collation with
    | error e => simp [hc] at h
    | ok c =>
      simp only [hc] at h
      cases hname : KeyedStore.partitionName ns with
      | error e => simp [hname] at h
      | ok name =>
        simp only [hname] at h
        split at h
        · next ordered => exact .inr ⟨k, c, rfl, rfl, ordered, (Except.ok.inj h).symm⟩
        · split at h
          · cases h
          · exact .inl ⟨_, (Except.ok.inj h).symm⟩

/-- **Two courses of events behind one query.**  The rows that it opens come out the same if the
writes make the same of every key that the stream awaits. -/
theorem Store.said_opened {site : Site} {ns : Namespace} {query : Query} {rows : RowSource}
    (opened : (site.store.leave (.rows ns query)).1 = .ok rows)
    {writes writes' : List (List Write)}
    (alike : List.Forall₂ Ask.Agrees (rows.asks site writes) writes') :
    (rows.asks site writes).map (·.said) = (rows.asks site writes').map (·.said) := by
  have length : writes.length = writes'.length := by
    rw [← alike.length_eq]
    exact (RowSource.length_asksAfter [] rows site writes).symm
  obtain ⟨list, rfl⟩ | ⟨k, c, hk, -, -, rfl⟩ := opened_cases opened
  · exact RowSource.said_known (RowSource.prompt_ofRows list) site site [] [] length
  · cases free : site.store.admitsPages with
    | true =>
      exact RowSource.said_congr hk hk (KeyedStore.hasRoom_start ns _ _) free free
        (fun _ _ _ => rfl) alike
    | false =>
      have fresh : (KeyedStore.KeyScan.start ns ⟨query.filter, c⟩
          (max 1 query.bucketSize)).done = false := rfl
      have waiting := RowSource.said_waiting fresh hk free []
      unfold RowSource.asks
      rw [waiting, waiting, length]

namespace RowSource

/-- Writes that concern no awaited key make no difference to the rows of a query. -/
theorem said_of_apart {site : Site} {ns : Namespace} {query : Query} {rows : RowSource}
    (opened : (site.store.leave (.rows ns query)).1 = .ok rows) {writes : List (List Write)}
    (apart : ∀ a ∈ rows.asks site writes, ∀ w ∈ a.writes, ∀ name key, a.stream.Awaits name key →
      ¬w.Concerns name key) :
    (rows.asks site writes).map (·.said) =
      (rows.asks site (writes.map fun _ => [])).map (·.said) := by
  refine Store.said_opened opened ?_
  rw [List.forall₂_map_right_iff]
  have beside := (List.forall₂_and_left _ _).mpr ⟨apart, forall₂_asksAfter [] rows site writes⟩
  exact beside.imp fun a ws here name key awaited text =>
    Write.effects_of_apart fun w hw => here.1 w hw name key awaited

end RowSource

end PacedPurge
