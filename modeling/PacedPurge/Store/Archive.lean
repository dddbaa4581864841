import PacedPurge.Json.Parser
import PacedPurge.Json.Printer
import PacedPurge.Store.Keyed

/-!
# Archives

A keyed store as one text, so that it outlives the program: a JSON array with an array for each
entry, holding the name of its partition, its key in hexadecimal and its value. Keys are not always
texts, which is why their octets are written out.
-/

namespace PacedPurge

namespace Archive

/-- An octet in two hexadecimal digits. -/
def hexOctet (b : UInt8) : List Char := [Nat.digitChar (b.toNat / 16), Nat.digitChar (b.toNat % 16)]

/-- A key in hexadecimal. -/
def hexKey (key : Key) : String := String.ofList (key.flatMap hexOctet)

/-- The value of a hexadecimal digit. -/
def hexValue? (c : Char) : Option Nat :=
  if '0' ≤ c && c ≤ '9' then some (c.toNat - '0'.toNat)
  else if 'a' ≤ c && c ≤ 'f' then some (c.toNat - 'a'.toNat + 10)
  else if 'A' ≤ c && c ≤ 'F' then some (c.toNat - 'A'.toNat + 10)
  else none

/-- The key that hexadecimal digits write, two an octet. -/
def keyOfHex? : List Char → Option Key
  | [] => some []
  | [_] => none
  | high :: low :: rest => do
    let high ← hexValue? high
    let low ← hexValue? low
    let rest ← keyOfHex? rest
    return UInt8.ofNat (16 * high + low) :: rest

/-- An entry of a partition. -/
def entryJson (name : String) (entry : Key × String) : Json :=
  .array [.string name, .string (hexKey entry.1), .string entry.2]

end Archive

namespace KeyedStore

/-- The entries of a store, partition by partition. -/
def entriesJson (k : KeyedStore) : Json :=
  .array (k.partitions.toList.flatMap fun p => p.2.toList.map (Archive.entryJson p.1))

/-- Puts an entry into its partition. -/
def putEntry? (k : KeyedStore) : Json → Option KeyedStore
  | .array [.string name, .string key, .string text] => do
    let key ← Archive.keyOfHex? key.toList
    return k.setPartition name ((k.partition name).insert key text)
  | _ => none

/-- Puts entries into their partitions. -/
def putEntries? (k : KeyedStore) : Json → Option KeyedStore
  | .array entries => entries.foldlM putEntry? k
  | _ => none

/-- The text of a store. -/
def archive (k : KeyedStore) : String := k.entriesJson.compact

/-- The store of a text. -/
def ofArchive? (text : String) : Option KeyedStore := do
  let entries ← Json.parse text
  putEntries? {} entries

end KeyedStore

end PacedPurge
