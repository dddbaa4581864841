import PacedPurge.Proofs.Bucket.Scanning

/-!
# Which writes a stream of rows shows

The rows of a query are to be those of the records as they stand when the query is answered.  So
they are where the selected records have been collected by then: in a store in memory, and in a
keyed store that has to sort them.  A reading page by page comes to a record only later.  It shows
nothing of what is written behind its cursor, but what is written ahead of it and left there
(`RowSource.shows_only_writes_ahead`), so that its rows are not fixed beforehand
(`RowSource.insert_ahead_shows`).
-/

namespace PacedPurge

namespace RowSource

/-- **Which writes show.**  The rows of a query come out as if nothing had been written meanwhile,
if they are known when it is answered: in a store in memory, and in a keyed store where the order of
keys is not that of the rows.  They come out so from a reading page by page as well, if no write
concerns a key that is still to be visited.

But a record whose key is still to be visited is among the rows if it is there from then on, and
selected, until the reading has ended, whether or not it was there when the query was answered. -/
theorem shows_only_writes_ahead {site : Site} {ns : Namespace} {query : Query} {rows : RowSource}
    (opened : (site.store.leave (.rows ns query)).1 = .ok rows) (writes : List (List Write)) :
    ((∃ m, site.store = .memory m) ∨
        (∀ c, Collation.parse query.collation = .ok c →
          KeyedStore.isKeyOrdered ⟨query.filter, c⟩ = false) ∨
        (∀ a ∈ rows.asks site writes, ∀ w ∈ a.writes, ∀ name key, a.stream.Awaits name key →
          ¬w.Concerns name key) →
      (rows.asks site writes).map (·.said) =
        (rows.asks site (writes.map fun _ => [])).map (·.said)) ∧
    ∀ c name, Collation.parse query.collation = .ok c → KeyedStore.openName ns = .ok name →
      max 1 query.bucketSize ≤ KeyedStore.maxPageSize →
      (∀ a ∈ rows.asks site writes, a.store.IsReadable ns ⟨query.filter, c⟩) →
      ∀ before a later, rows.asks site writes = before ++ a :: later →
        ∀ id, a.stream.Awaits name (KeyedStore.keyOf id) →
          (∀ b ∈ a :: later, b.store.Offers ns ⟨query.filter, c⟩ id) →
          (∃ b ∈ a :: later, b.said = .ended) →
          ∃ b ∈ a :: later, ∃ row, b.said = .ready (.ok row) ∧ row.id = id := by
  constructor
  · intro behind
    refine said_of_apart opened ?_
    obtain ⟨list, rfl⟩ | ⟨k, c, hk, hc, ordered, rfl⟩ := Store.opened_cases opened
    · intro a ha w _ name key awaited
      exact absurd awaited (not_awaits_of_known ha name key)
    · obtain ⟨m, hm⟩ | sorted | apart := behind
      · rw [hk] at hm
        cases hm
      · rw [sorted c hc] at ordered
        cases ordered
      · exact apart
  · intro c name hc hname fits readable before a later split id awaited offered ended
    obtain ⟨list, rfl⟩ | ⟨k, c', hk, hc', -, rfl⟩ := Store.opened_cases opened
    · have ha : a ∈ asks (.known (.ofRows list)) site writes := by
        rw [split]
        exact List.mem_append_right _ List.mem_cons_self
      exact absurd awaited (not_awaits_of_known ha name _)
    · obtain rfl : c' = c := Except.ok.inj (hc'.symm.trans hc)
      have usable : (KeyedStore.KeyScan.start ns ⟨query.filter, c'⟩
          (max 1 query.bucketSize)).Usable name :=
        ⟨KeyedStore.hasRoom_start ns ⟨query.filter, c'⟩ _, fits, hname⟩
      have sound := Scanning.sound_fresh ns ⟨query.filter, c'⟩ (max 1 query.bucketSize)
      obtain ⟨r, site', k', writes', here, hk', stream, -, onwards⟩ :=
        sound.of_split hk usable readable split
      have readable' : ∀ b ∈ a :: later, b.store.IsReadable ns ⟨query.filter, c'⟩ := fun b hb =>
        readable b (by rw [split]; exact List.mem_append_right _ hb)
      rw [stream] at awaited
      rw [onwards] at readable' offered ended ⊢
      exact here.delivers hk' usable readable' awaited offered ended

/-- The first of two orders is deleted when it has been delivered, which does not show; and a third
order is put ahead of the reading, which does. -/
theorem shows_only_writes_ahead_orders :
    let ns : Namespace := ⟨"crm", "orders"⟩
    let query : Query := ⟨.matchAll, 1, none, none⟩
    let site : Site := { store := .keyed .twoOrders }
    let rows : RowSource := .paged (.start ns ⟨query.filter, .simple⟩ 1) []
    let delete : List (List Write) := [[], [.delete ns [⟨"a"⟩] .majority], []]
    let insert : List (List Write) := [[.insert ns [(⟨"c"⟩, [])]], [], [], []]
    (site.store.leave (.rows ns query)).1 = .ok rows ∧
      (∀ a ∈ rows.asks site delete, ∀ w ∈ a.writes, ∀ name key, a.stream.Awaits name key →
        ¬w.Concerns name key) ∧
      (rows.asks site delete).map (·.said) =
        (rows.asks site (delete.map fun _ => [])).map (·.said) ∧
      (∀ a ∈ rows.asks site insert, a.store.IsReadable ns ⟨query.filter, .simple⟩ ∧
        a.store.Offers ns ⟨query.filter, .simple⟩ ⟨"c"⟩) ∧
      ∃ b ∈ rows.asks site insert, ∃ row, b.said = .ready (.ok row) ∧ row.id = ⟨"c"⟩ := by
  intro ns query site rows delete insert
  have opened : (site.store.leave (.rows ns query)).1 = .ok rows := by
    simp only [site, ns, query, rows]
    rfl
  have passed : (rows.poll (site.written [])).2.1 = .paged ⟨ns, ⟨query.filter, .simple⟩, 1,
      some (KeyedStore.keyOf ⟨"a"⟩), 1, false⟩ [] := by
    cbv
  have behind : ∀ a ∈ rows.asks site delete, ∀ w ∈ a.writes, ∀ name key,
      a.stream.Awaits name key → ¬w.Concerns name key := by
    simp only [asks, delete, asksAfter, List.forall_mem_cons, List.not_mem_nil, passed,
      IsEmpty.forall_iff, implies_true, true_and, and_true]
    rintro name key ⟨-, -, ahead⟩ ⟨x, hx, -, hkey⟩
    obtain rfl := List.mem_singleton.mp hx
    subst hkey
    exact absurd ahead (by decide)
  let first : Entry := .stored (KeyedStore.keyOf ⟨"a"⟩) (KeyedStore.encode [])
  let second : Entry := .stored (KeyedStore.keyOf ⟨"b"⟩) (KeyedStore.encode [])
  let third : Entry := .stored (KeyedStore.keyOf ⟨"c"⟩) (KeyedStore.encode [])
  have entries : (rows.asks site insert).map (·.store.holdings.entries ns) =
      List.replicate 4 [first, second, third] := by
    cbv
  have held : ∀ a ∈ rows.asks site insert,
      a.store.holdings.entries ns = [first, second, third] := fun a ha =>
    List.eq_of_mem_replicate (entries ▸ List.mem_map_of_mem ha)
  have readable : ∀ a ∈ rows.asks site insert, a.store.IsReadable ns ⟨query.filter, .simple⟩ := by
    intro a ha
    unfold Store.IsReadable
    rw [held a ha]
    simp only [List.forall_mem_cons]
    exact ⟨⟨_, rfl, _, rfl⟩, ⟨_, rfl, _, rfl⟩, ⟨_, rfl, _, rfl⟩, fun e he => by cases he⟩
  have offered : ∀ a ∈ rows.asks site insert,
      a.store.Offers ns ⟨query.filter, .simple⟩ ⟨"c"⟩ := by
    intro a ha
    refine ⟨third, ?_, rfl, rfl⟩
    rw [held a ha]
    simp
  have ended : ∃ a ∈ rows.asks site insert, a.said = .ended := by
    have said : (rows.asks site insert).map (·.said) = [.ready (.ok ⟨⟨"a"⟩, .null, 1, 1, 1⟩),
        .ready (.ok ⟨⟨"b"⟩, .null, 2, 1, 1⟩), .ready (.ok ⟨⟨"c"⟩, .null, 3, 1, 1⟩), .ended] := by
      cbv
    have last : Polled.ended ∈ (rows.asks site insert).map (·.said) := by
      rw [said]
      simp
    exact List.mem_map.mp last
  have simple : Collation.parse query.collation = .ok .simple := rfl
  have hname : KeyedStore.openName ns = .ok "crm__orders" := by decide
  have fits : max 1 query.bucketSize ≤ KeyedStore.maxPageSize := by decide
  obtain ⟨a, later, split, stream⟩ : ∃ a later, rows.asks site insert = [] ++ a :: later ∧
      a.stream = rows := ⟨_, _, rfl, rfl⟩
  have awaited : a.stream.Awaits "crm__orders" (KeyedStore.keyOf ⟨"c"⟩) := by
    rw [stream]
    exact ⟨rfl, hname, rfl⟩
  refine ⟨opened, behind, (shows_only_writes_ahead opened delete).1 (.inr (.inr behind)),
    fun a ha => ⟨readable a ha, offered a ha⟩, ?_⟩
  have shown := (shows_only_writes_ahead opened insert).2 .simple "crm__orders" simple hname fits
    readable [] a later split ⟨"c"⟩ awaited
  rw [← List.nil_append (a :: later), ← split] at shown
  exact shown offered ended

/-- An order that is put ahead of a reading is among its rows, though it has not been there when the
reading was opened, and the rows would have been others without it. -/
theorem insert_ahead_shows :
    let ns : Namespace := ⟨"crm", "orders"⟩
    let query : Query := ⟨.matchAll, 1, none, none⟩
    let site : Site := { store := .keyed .twoOrders }
    let writes : List (List Write) := [[.insert ns [(⟨"c"⟩, [])]], [], []]
    ∃ rows, (site.store.leave (.rows ns query)).1 = .ok rows ∧
      (rows.asks site writes).map (·.said) = [.ready (.ok ⟨⟨"a"⟩, .null, 1, 1, 1⟩),
        .ready (.ok ⟨⟨"b"⟩, .null, 2, 1, 1⟩), .ready (.ok ⟨⟨"c"⟩, .null, 3, 1, 1⟩)] ∧
      (rows.asks site (writes.map fun _ => [])).map (·.said) =
        [.ready (.ok ⟨⟨"a"⟩, .null, 1, 1, 1⟩), .ready (.ok ⟨⟨"b"⟩, .null, 2, 1, 1⟩), .ended] ∧
      (rows.asks site writes).map (·.said) ≠
        (rows.asks site (writes.map fun _ => [])).map (·.said) := by
  intro ns query site writes
  let rows : RowSource := .paged (.start ns ⟨.matchAll, .simple⟩ 1) []
  have shown : (rows.asks site writes).map (·.said) = [.ready (.ok ⟨⟨"a"⟩, .null, 1, 1, 1⟩),
      .ready (.ok ⟨⟨"b"⟩, .null, 2, 1, 1⟩), .ready (.ok ⟨⟨"c"⟩, .null, 3, 1, 1⟩)] := by
    cbv
  have undisturbed : (rows.asks site (writes.map fun _ => [])).map (·.said) =
      [.ready (.ok ⟨⟨"a"⟩, .null, 1, 1, 1⟩), .ready (.ok ⟨⟨"b"⟩, .null, 2, 1, 1⟩), .ended] := by
    cbv
  have opened : (site.store.leave (.rows ns query)).1 = .ok rows := by
    simp only [site, ns, query, rows]
    rfl
  refine ⟨rows, opened, shown, undisturbed, fun same => ?_⟩
  rw [shown, undisturbed] at same
  simp at same

end RowSource

end PacedPurge
