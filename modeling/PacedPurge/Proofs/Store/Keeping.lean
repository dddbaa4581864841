import PacedPurge.Proofs.Json.Limits
import PacedPurge.Proofs.Store.Mirroring
import PacedPurge.Proofs.Store.Writing

/-!
# Filters and documents survive their texts

A filter is shown as its compact text, and a keyed store keeps documents as theirs.  Both were read
from some text before, and such values are read again from the text that is written: the same fields
in the same order, strings and integers as they were, and reals as reals (`Json.parse_compact`).

What can differ is the value of a real, for a literal is rounded twice when it is read and not every
real is read back from its own digits.  So a filter survives its text exactly if each of its reals
does (`Binary64.ReadsBack`), and so does a document (`Document.Durable`).  A store that is given
such documents goes on mirroring the records of a collection (`KeyedStore.Mirrors.insertAll`), and
whatever scans it finds each of them as it was given.
-/

namespace PacedPurge

/-! ## Filters -/

namespace Filter

variable {text : String} {f g : Filter}

theorem parse_eq_ok_iff : parse text = .ok f ↔ Json.parse text = some (.object f.fields) := by
  unfold parse
  constructor
  · intro h
    split at h
    · cases h
    · next fields read =>
      obtain rfl := Except.ok.inj h
      exact read
    · cases h
  · intro h
    rw [h]

/-- A filter that was read is read anew from its text. -/
theorem parse_text (parsed : parse text = .ok f) :
    Json.parse f.text = (Json.object f.fields).reread :=
  Json.parse_compact_of_parse (parse_eq_ok_iff.mp parsed)

/-- It is read as the same filter exactly if its reals are read back. -/
theorem parse_text_eq_self_iff (parsed : parse text = .ok f) :
    parse f.text = .ok f ↔ ∀ x ∈ (Json.object f.fields).reals, x.ReadsBack := by
  rw [parse_eq_ok_iff, parse_text parsed, Json.reread_eq_self_iff]

/-- Its sort key is the same in any case. -/
theorem sortKey_of_parse_text (parsed : parse text = .ok f) (again : parse f.text = .ok g) :
    g.sortKey = f.sortKey := by
  have anew : (Json.object f.fields).reread = some (.object g.fields) := by
    rw [← parse_text parsed]
    exact parse_eq_ok_iff.mp again
  rw [Json.reread] at anew
  obtain ⟨fields, members, same⟩ := Option.map_eq_some_iff.mp anew
  obtain rfl := Json.object.inj same
  unfold sortKey
  rw [Json.keys_rereadMembers members]

end Filter

/-! ## Documents -/

/-- The document was read from some text, and its reals are read back from theirs. -/
structure Document.Durable (doc : Document) : Prop where
  parsed : ∃ text, Json.parse text = some (.object doc)
  reals : ∀ x ∈ (Json.object doc).reals, x.ReadsBack

/-- The text that is written for such a document is one that it can be read from. -/
theorem Document.parse_encode {doc : Document} (fits : Json.Fits (Json.maxDepth - 1) (.object doc))
    (reals : ∀ x ∈ (Json.object doc).reals, x.ReadsBack) :
    Json.parse (KeyedStore.encode doc) = some (.object doc) := by
  unfold KeyedStore.encode
  rw [Json.parse_compact fits]
  exact (Json.reread_eq_self_iff _).mpr reals

/-- So what makes a document durable are the limits of the reader, and its reals. -/
theorem Document.durable_iff {doc : Document} :
    doc.Durable ↔ Json.Fits (Json.maxDepth - 1) (.object doc) ∧
      ∀ x ∈ (Json.object doc).reals, x.ReadsBack := by
  constructor
  · rintro ⟨⟨text, parsed⟩, reals⟩
    exact ⟨Json.fits_of_parse parsed, reals⟩
  · rintro ⟨fits, reals⟩
    exact ⟨⟨_, parse_encode fits reals⟩, reals⟩

namespace KeyedStore

/-- **An entry is read back** as the record that it was made for. -/
theorem decode_encode {doc : Document} (durable : doc.Durable) (id : RecordId) :
    decode (keyOf id, encode doc) = .ok (id, doc) := by
  obtain ⟨fits, reals⟩ := Document.durable_iff.mp durable
  simp only [decode, keyOf, Text.ofOctets_octets, Document.parse_encode fits reals]

theorem keyOf_inj {a b : RecordId} : keyOf a = keyOf b ↔ a = b := by
  have same := compare_keyOf a b
  constructor
  · intro keys
    rw [keys] at same
    exact Std.LawfulEqCmp.compare_eq_iff_eq.mp (same.symm.trans Std.ReflCmp.compare_self)
  · exact congrArg keyOf

/-- The document that is listed last under an id. -/
def latest (docs : List (RecordId × Document)) (id : RecordId) : Option Document :=
  docs.foldl (fun found d => if d.1 = id then some d.2 else found) none

theorem latest_spec (docs : List (RecordId × Document)) (id : RecordId) (text : Option String) :
    replaced docs (keyOf id) text = (latest docs id).elim text (some ∘ encode) := by
  have onto : ∀ (docs : List (RecordId × Document)) (found : Option Document),
      docs.foldl (fun text d => if keyOf d.1 = keyOf id then some (encode d.2) else text)
          (found.elim text (some ∘ encode)) =
        (docs.foldl (fun found d => if d.1 = id then some d.2 else found) found).elim text
          (some ∘ encode) := by
    intro docs
    induction docs with
    | nil => exact fun _ => rfl
    | cons d docs ih =>
      intro found
      rw [List.foldl_cons, List.foldl_cons, ← ih]
      simp only [keyOf_inj]
      split
      · rfl
      · rfl
  exact onto docs none

theorem mem_of_latest {docs : List (RecordId × Document)} {id : RecordId} {doc : Document}
    (h : latest docs id = some doc) : (id, doc) ∈ docs := by
  have onto : ∀ (docs : List (RecordId × Document)) (found : Option Document),
      docs.foldl (fun found d => if d.1 = id then some d.2 else found) found = some doc →
      found = some doc ∨ (id, doc) ∈ docs := by
    intro docs
    induction docs with
    | nil => exact fun _ => .inl
    | cons d docs ih =>
      intro found h
      rcases ih _ h with first | later
      · simp only at first
        split at first
        · next own =>
          obtain rfl := Option.some.inj first
          exact .inr (own ▸ List.mem_cons_self)
        · exact .inl first
      · exact .inr (List.mem_cons_of_mem d later)
  exact (onto docs none h).resolve_left nofun

/-! ## What scans find -/

/-- The entries of a map are, after one has been put into it, that one and those of other keys. -/
theorem mem_toList_insert {α β : Type} [Ord α] [Std.TransOrd α] [Std.LawfulEqOrd α]
    {t : Std.TreeMap α β} {key : α} {value : β} {e : α × β} :
    e ∈ (t.insert key value).toList ↔ e = (key, value) ∨ e.1 ≠ key ∧ e ∈ t.toList := by
  have same : compare key e.1 = .eq ↔ e.1 = key :=
    Std.LawfulEqCmp.compare_eq_iff_eq.trans eq_comm
  rw [Std.TreeMap.mem_toList_iff_getElem?_eq_some, Std.TreeMap.mem_toList_iff_getElem?_eq_some,
    Std.TreeMap.getElem?_insert]
  split
  · next own =>
    have key_eq := same.mp own
    constructor
    · intro h
      exact .inl (Prod.ext key_eq (Option.some.inj h).symm)
    · rintro (rfl | ⟨other, -⟩)
      · rfl
      · exact absurd key_eq other
  · next other =>
    have differs := mt same.mpr other
    constructor
    · exact fun h => .inr ⟨differs, h⟩
    · rintro (rfl | ⟨-, h⟩)
      · exact absurd rfl differs
      · exact h

variable {p : Partition} {records : Records}

/-- An entry that decodes to a record goes into a mirror with it. -/
theorem Mirrors.insert (h : Mirrors p records) {id : RecordId} {doc : Document} {text : String}
    (read : decode (keyOf id, text) = .ok (id, doc)) :
    Mirrors (p.insert (keyOf id) text) (records.insert id doc) := by
  have apart : ∀ {e : Key × String} {r : RecordId × Document}, decode e = .ok r →
      (e.1 = keyOf id ↔ r.1 = id) := by
    intro e r decoded
    rw [key_of_decode decoded, keyOf_inj]
  refine ⟨fun e he => ?_, fun r hr => ?_⟩
  · rcases mem_toList_insert.mp he with rfl | ⟨other, old⟩
    · exact ⟨(id, doc), mem_toList_insert.mpr (.inl rfl), read⟩
    · obtain ⟨r, hr, decoded⟩ := h.decodes e old
      exact ⟨r, mem_toList_insert.mpr (.inr ⟨mt (apart decoded).mpr other, hr⟩), decoded⟩
  · rcases mem_toList_insert.mp hr with rfl | ⟨other, old⟩
    · exact ⟨(keyOf id, text), mem_toList_insert.mpr (.inl rfl), read⟩
    · obtain ⟨e, he, decoded⟩ := h.kept r old
      exact ⟨e, mem_toList_insert.mpr (.inr ⟨mt (apart decoded).mp other, he⟩), decoded⟩

/-- Records as they stand when more have been added, each in place of the one that had its id. -/
def added (docs : List (RecordId × Document)) (records : Records) : Records :=
  docs.foldl (fun r d => r.insert d.1 d.2) records

/-- **A store goes on mirroring** a collection to which durable documents are added. -/
theorem Mirrors.insertAll {docs : List (RecordId × Document)}
    (durable : ∀ d ∈ docs, Document.Durable d.2) (h : Mirrors p records) :
    Mirrors (docs.foldl (fun p d => p.insert (keyOf d.1) (encode d.2)) p) (added docs records) := by
  induction docs generalizing p records with
  | nil => exact h
  | cons d docs ih =>
    have first := durable d List.mem_cons_self
    have others : ∀ x ∈ docs, Document.Durable x.2 := fun x hx =>
      durable x (List.mem_cons_of_mem d hx)
    exact ih others (h.insert (decode_encode first d.1))

/-- The entries behind a key of a mirror decode to the records behind it. -/
theorem Mirrors.decode_entriesAfter (h : Mirrors p records) (cursor : Option Key) :
    (entriesAfter p cursor).map decode =
      (records.toList.filter fun r => isAfter cursor (keyOf r.1)).map .ok := by
  have listed := h.decode_toList
  rw [entriesAfter_eq_filter]
  generalize p.toList = entries at listed ⊢
  generalize records.toList = rs at listed ⊢
  induction entries generalizing rs with
  | nil =>
    obtain rfl : rs = [] := List.map_eq_nil_iff.mp listed.symm
    rfl
  | cons e entries ih =>
    obtain ⟨r, rest, rfl, decoded, others⟩ := List.map_eq_cons_iff.mp listed.symm
    have key : isAfter cursor e.1 = isAfter cursor (keyOf r.1) := by
      rw [key_of_decode decoded.symm]
    have later := ih rest others.symm
    rw [List.filter_cons, List.filter_cons, key]
    split
    · rw [List.map_cons, List.map_cons, decoded, later]
    · exact later

/-- A search of a mirror finds what a search of the records finds. -/
theorem Mirrors.select_eq (h : Mirrors p records) (s : Selection) :
    select s p.toList = s.candidates records.toList := by
  rw [select_eq_search, MemoryStore.candidates_eq_search]
  show s.search (stored p.toList) = s.search (Selection.entriesOf records.toList)
  unfold Selection.search
  rw [h.gather_eq s]

/-- The entry of a record that was listed is in every scan that has not passed it, and decodes to
the document that was listed last. -/
theorem entry_of_latest {docs : List (RecordId × Document)}
    (durable : ∀ d ∈ docs, Document.Durable d.2) {k k' : KeyedStore} {ns : Namespace} {n : Nat}
    (inserted : k.insertAll ns docs = .ok (n, k')) {name : String} (opened : openName ns = .ok name)
    {id : RecordId} {doc : Document} (listed : latest docs id = some doc) {cursor : Option Key}
    (ahead : isAfter cursor (keyOf id) = true) :
    (∃ e ∈ entriesAfter (k'.partition name) cursor, e.1 = keyOf id) ∧
      ∀ e ∈ entriesAfter (k'.partition name) cursor, e.1 = keyOf id → decode e = .ok (id, doc) := by
  have held : (k'.partition name)[keyOf id]? = some (encode doc) := by
    obtain ⟨-, -, keeps, -⟩ := insertAll_eq_ok_iff.mp inserted
    rw [Write.get_insertAll inserted, Write.effect, if_pos ⟨opened, keeps⟩, latest_spec, listed]
    rfl
  have last : doc.Durable := durable _ (mem_of_latest listed)
  rw [entriesAfter_eq_filter]
  refine ⟨⟨(keyOf id, encode doc), ?_, rfl⟩, fun e he own => ?_⟩
  · exact List.mem_filter.mpr ⟨Std.TreeMap.mem_toList_iff_getElem?_eq_some.mpr held, ahead⟩
  · obtain ⟨key, text⟩ := e
    obtain rfl : key = keyOf id := own
    have found := Std.TreeMap.mem_toList_iff_getElem?_eq_some.mp (List.mem_filter.mp he).1
    obtain rfl := Option.some.inj (held.symm.trans found)
    exact decode_encode last id

end KeyedStore

/-! ## Both -/

/-- **Filters and documents survive their texts.**  A filter that was read from a text is read anew
from its own, fields in the same order at every depth, strings, integers and the kind of each number
included, and so it is sorted by the same field.  It is read as the same filter, which accepts the
same documents, exactly if each of its reals is read back from its own text.

Documents that were read from texts, and whose reals are read back, are found as they were given by
every scan of the collection to which they were added: from any place on, each scan comes upon one
entry of each id that it has not passed, and that entry decodes to the document that was added last
under it.  Of a partition that mirrors records the entries decode to these records with the
documents added, from any place on, and whatever is searched for or counted is found as among those
records. -/
theorem Json.values_survive_text :
    (∀ (text : String) (f : Filter), Filter.parse text = .ok f →
      Json.parse f.text = (Json.object f.fields).reread ∧
      (Filter.parse f.text = .ok f ↔ ∀ x ∈ (Json.object f.fields).reals, x.ReadsBack) ∧
      ∀ g, Filter.parse f.text = .ok g →
        g.sortKey = f.sortKey ∧
        ((∀ x ∈ (Json.object f.fields).reals, x.ReadsBack) →
          g = f ∧ ∀ c id doc, g.accepts c id doc = f.accepts c id doc)) ∧
    ∀ (k k' : KeyedStore) (ns : Namespace) (docs : List (RecordId × Document)) (n : Nat),
      (∀ d ∈ docs, Document.Durable d.2) → k.insertAll ns docs = .ok (n, k') →
      ∃ name, KeyedStore.openName ns = .ok name ∧
        (∀ id doc cursor, KeyedStore.latest docs id = some doc →
          KeyedStore.isAfter cursor (KeyedStore.keyOf id) = true →
          (∃ e ∈ KeyedStore.entriesAfter (k'.partition name) cursor, e.1 = KeyedStore.keyOf id) ∧
          ∀ e ∈ KeyedStore.entriesAfter (k'.partition name) cursor,
            e.1 = KeyedStore.keyOf id → KeyedStore.decode e = .ok (id, doc)) ∧
        ∀ records : Records, KeyedStore.Mirrors (k.partition name) records →
          let after := KeyedStore.added docs records
          (∀ cursor, (KeyedStore.entriesAfter (k'.partition name) cursor).map KeyedStore.decode =
            (after.toList.filter fun r =>
              KeyedStore.isAfter cursor (KeyedStore.keyOf r.1)).map .ok) ∧
          ∀ s, k'.candidates ns s = s.candidates after.toList ∧
            k'.count ns s = (s.candidates after.toList).map List.length := by
  refine ⟨fun text f parsed => ⟨Filter.parse_text parsed, Filter.parse_text_eq_self_iff parsed,
    fun g again => ⟨Filter.sortKey_of_parse_text parsed again, fun back => ?_⟩⟩,
    fun k k' ns docs n durable inserted => ?_⟩
  · obtain rfl : f = g :=
      Except.ok.inj (((Filter.parse_text_eq_self_iff parsed).mpr back).symm.trans again)
    exact ⟨rfl, fun _ _ _ => rfl⟩
  · obtain ⟨name, opened, -, -, reached⟩ := KeyedStore.insertAll_eq_ok_iff.mp inserted
    refine ⟨name, opened, fun id doc cursor listed ahead =>
      KeyedStore.entry_of_latest durable inserted opened listed ahead, fun records same => ?_⟩
    intro after
    have filled : k'.partition name =
        docs.foldl (fun p d => p.insert (KeyedStore.keyOf d.1) (KeyedStore.encode d.2))
          (k.partition name) := by
      rw [reached, KeyedStore.partition_setPartition, if_pos rfl]
    have mirror : KeyedStore.Mirrors (k'.partition name) after := by
      rw [filled]
      exact same.insertAll durable
    have found : ∀ s, k'.candidates ns s = s.candidates after.toList := by
      intro s
      simp only [KeyedStore.candidates, opened]
      exact mirror.select_eq s
    exact ⟨mirror.decode_entriesAfter, fun s => ⟨found s, by rw [KeyedStore.count_eq, found s]⟩⟩

/-- A filter with escapes, a repeated key and the largest integer survives its text, and so does an
order with half a unit and a negative zero, which has been added in place of an empty one. -/
theorem Json.values_survive_text_orders :
    let text :=
      "\x7b\"k\": 1, \"$or\": [\x7b\"\": 18446744073709551615\x7d], \"k\": \"\\u00e9\\n\"\x7d"
    let f : Filter := ⟨[("k", .string "é\n"),
      ("$or", .array [.object [("", .ofInt 18446744073709551615)]])]⟩
    let ns : Namespace := ⟨"crm", "orders"⟩
    let order : Document := [("units", .number (.real ⟨false, 4602678819172646912, by decide⟩)),
      ("credit", .array [.number (.real .negativeZero)])]
    let store : KeyedStore := {}
    Filter.parse text = .ok f ∧ Filter.parse f.text = .ok f ∧
      ∃ k', store.insertAll ns [(⟨"a"⟩, []), (⟨"a"⟩, order)] = .ok (2, k') ∧
        ∃ e ∈ KeyedStore.entriesAfter (k'.partition "crm__orders") none,
          KeyedStore.decode e = .ok (⟨"a"⟩, order) := by
  intro text f ns order store
  obtain ⟨filters, documents⟩ := values_survive_text
  have again : Filter.parse text = .ok f → Filter.parse f.text = .ok f := by
    intro parsed
    have no_reals : (Json.object f.fields).reals = [] := rfl
    obtain ⟨-, survives, -⟩ := filters text f parsed
    apply survives.mpr
    rw [no_reals]
    exact nofun
  have opened : KeyedStore.openName ns = .ok "crm__orders" := by decide
  have fits : Json.Fits (Json.maxDepth - 1) (.object order) := by
    apply Fits.object (by decide)
    intro m hm
    rcases List.mem_pair.mp hm with rfl | rfl
    · exact .number trivial
    · apply Fits.array
      intro e he
      obtain rfl := List.mem_singleton.mp he
      exact .number trivial
  have reals : ∀ x ∈ (Json.object order).reals, x.ReadsBack := by decide +kernel
  have durable : ∀ d ∈ [(RecordId.mk "a", ([] : Document)), (⟨"a"⟩, order)],
      Document.Durable d.2 := by
    intro d hd
    rcases List.mem_pair.mp hd with rfl | rfl
    · exact Document.durable_iff.mpr ⟨.object List.nodup_nil nofun, nofun⟩
    · exact Document.durable_iff.mpr ⟨fits, reals⟩
  obtain ⟨k', inserted⟩ : ∃ k', store.insertAll ns [(⟨"a"⟩, []), (⟨"a"⟩, order)] = .ok (2, k') := by
    exact ⟨_, KeyedStore.insertAll_eq_ok_iff.mpr ⟨_, opened, by decide, rfl, rfl⟩⟩
  obtain ⟨name, named, found, -⟩ := documents store k' ns _ 2 durable inserted
  obtain rfl := Except.ok.inj (opened.symm.trans named)
  obtain ⟨⟨e, listed, own⟩, decoded⟩ := found ⟨"a"⟩ order none rfl rfl
  suffices parsed : Filter.parse text = .ok f from
    ⟨parsed, again parsed, k', inserted, e, listed, decoded e listed own⟩
  cbv

/-- Not every real is read back: this one is read from `1e-24`. -/
example : ¬Binary64.ReadsBack ⟨false, 4247835366853742248, by decide⟩ := by decide +kernel

end PacedPurge
