import CountryLookup.Address.Basic
import CountryLookup.Database.Metadata

/-!
# The search tree

The file starts with a binary tree. A node is two records of 24, 28 or 32 bits, one for each
value of the next bit of an address. A record below the node count is the number of a node, the
node count itself means that nothing is known, and a larger record leads to the data, which start
sixteen bytes after the tree. With 28 bits the two records share the middle byte of the node, its
upper half belonging to the first.
-/

namespace CountryLookup.Database

/-- The bytes between the tree and the data. -/
def separatorSize : Nat := 16

/-- Which of the two records of a node a bit selects, as a number. -/
def side (bit : Bool) : Nat := if bit then 1 else 0

/-- The record of a node on the side of a bit; `none` outside the file. -/
def nodeRecord? (file : Bytes) (recordSize node : Nat) (bit : Bool) : Option Nat :=
  let base := node * recordSize / 4
  let number (acc pos width : Nat) : Option Nat :=
    match bigEndian file acc pos width with
    | .ok (n, _) => some n
    | .error _ => none
  if recordSize = 24 then number 0 (base + side bit * 3) 3
  else if recordSize = 28 then do
    let middle ← file[base + 3]?
    let high := if bit then middle.toNat % 16 else middle.toNat / 16
    number high (base + side bit * 4) 3
  else number 0 (base + side bit * 4) 4

/-- Follows bits from a node until they run out or the walk leaves the tree. -/
def walk (file : Bytes) (m : Metadata) : Nat → List Bool → Except Failure Nat
  | node, [] => .ok node
  | node, bit :: bits =>
    if m.nodeCount ≤ node then .ok node
    else match nodeRecord? file m.recordSize node bit with
      | some next => walk file m next bits
      | none => .error (.corrupt .badNode none)

/-- The node from which the addresses of a version are looked up. In a database for the sixth version
those of the fourth start where 96 zero bits lead, which is found once for all of them. -/
def startNode (file : Bytes) (m : Metadata) (isV6 : Bool) : Except Failure Nat :=
  if isV6 = false ∧ m.ipVersion = 6 then walk file m 0 (List.replicate 96 false) else .ok 0

end CountryLookup.Database
