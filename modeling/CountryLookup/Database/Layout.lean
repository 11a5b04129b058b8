import CountryLookup.Database.Basic
import CountryLookup.Database.Encoding
import CountryLookup.Number.Power

/-!
# Laying out a database

A database is laid out from a search tree and the data that its leaves point to. The tree is a
binary trie over the bits of addresses; its inner nodes are numbered in preorder, so the left
child of a node stands right behind it. Every record then follows from the numbers: a child's
number, the node count where the trie is empty, and the offset into the data behind node count
and separator where it has a leaf.

## Main results

* `length_rows` — a trie has as many rows as inner nodes.
-/

namespace CountryLookup.Database

/-- A search tree: what the bits of an address lead to. -/
inductive Trie where
  | empty
  /-- An item at an offset of the data. -/
  | leaf (offset : Nat)
  | node (zero one : Trie)
  deriving Repr, DecidableEq

namespace Trie

/-- How many inner nodes a trie has. -/
def size : Trie → Nat
  | node zero one => 1 + zero.size + one.size
  | _ => 0

/-- Where bits lead; `none` if they run out inside the trie or lead nowhere. -/
def find? : Trie → List Bool → Option Nat
  | leaf offset, _ => some offset
  | node zero one, bit :: bits => if bit then one.find? bits else zero.find? bits
  | _, _ => none

/-- Puts an item under the addresses that start with the bits. A shorter entry that is in the way
gives way on that branch. -/
def insert (offset : Nat) : List Bool → Trie → Trie
  | [], _ => leaf offset
  | bit :: bits, t =>
    let (zero, one) := match t with
      | node zero one => (zero, one)
      | t => (t, t)
    if bit then node zero (insert offset bits one) else node (insert offset bits zero) one

/-- The record that leads to a trie whose rows start at row `start`. -/
def record (nodeCount start : Nat) : Trie → Nat
  | empty => nodeCount
  | leaf offset => nodeCount + separatorSize + offset
  | node .. => start

/-- The two records of every inner node, in preorder from row `start` on. -/
def rows (nodeCount start : Nat) : Trie → List (Nat × Nat)
  | node zero one =>
    let second := start + 1 + zero.size
    (zero.record nodeCount (start + 1), one.record nodeCount second)
      :: (zero.rows nodeCount (start + 1) ++ one.rows nodeCount second)
  | _ => []

@[simp] theorem length_rows (nodeCount start : Nat) (t : Trie) :
    (t.rows nodeCount start).length = t.size := by
  induction t generalizing start with
  | empty => rfl
  | leaf => rfl
  | node zero one ihz iho => simp [rows, size, ihz, iho]; omega

end Trie

/-- The bytes of a node. -/
def encodeNode (recordSize : Nat) (row : Nat × Nat) : List UInt8 :=
  if recordSize = 24 then bigEndianBytes 3 row.1 ++ bigEndianBytes 3 row.2
  else if recordSize = 28 then
    bigEndianBytes 3 (row.1 % twoTo 24)
      ++ [UInt8.ofNat (row.1 / twoTo 24 * 16 + row.2 / twoTo 24)]
      ++ bigEndianBytes 3 (row.2 % twoTo 24)
  else bigEndianBytes 4 row.1 ++ bigEndianBytes 4 row.2

/-- The value of a metadata entry. -/
def Metadata.entry (m : Metadata) : MetadataField → Value
  | .majorVersion => .ofNat m.majorVersion
  | .minorVersion => .ofNat m.minorVersion
  | .buildEpoch => .ofNat m.buildEpoch
  | .databaseType => .ofText m.databaseType
  | .description => .map (m.description.map fun p => (.ofText p.1, .ofText p.2))
  | .ipVersion => .ofNat m.ipVersion
  | .languages => .array (m.languages.map .ofText)
  | .nodeCount => .ofNat m.nodeCount
  | .recordSize => .ofNat m.recordSize

/-- The metadata as a value. -/
def Metadata.value (m : Metadata) : Value :=
  .map (MetadataField.all.map fun f => (.ofText f.key, m.entry f))

/-- The file that rows, data and metadata make up. -/
def image (m : Metadata) (rows : List (Nat × Nat)) (data : List UInt8) : List UInt8 :=
  rows.flatMap (encodeNode m.recordSize) ++ List.replicate separatorSize 0 ++ data
    ++ marker ++ m.value.encode

/-- A record as a value: its fields that are not empty, or the ones listed. -/
def recordValue (fields : List (RecordField × String)) : Value :=
  .map (fields.map fun p => (.ofText p.1.key, .ofText p.2))

end CountryLookup.Database
