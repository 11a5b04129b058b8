import CountryLookup.Database.Layout
import CountryLookup.Proofs.Database.Bytes

/-!
# Walking on a written tree

A search tree is a list of rows, one for each node, with the two records of the node. Walking on
the bytes of a tree is following the rows: a bit selects one of the records, the record is the next
node, and a record that is no node ends the walk.

How a row is written depends on the record size. With 28 bits the byte in the middle of a row holds
the highest four bits of both records.

## Main results

* `nodeRecord?_encodeNode` — a written record is read back.
* `walk_eq_follow` — walking on the bytes is following the rows.
* `follow_of_take` — bits after the end of a walk do not matter.
-/

namespace CountryLookup.Database

/-! ## Following rows -/

/-- The record of a row that a bit selects. -/
def pick (row : Nat × Nat) (bit : Bool) : Nat := if bit then row.2 else row.1

/-- Where bits lead from a node: the first record on the way that is no node, or else the node at
which the bits run out. -/
def follow (rows : List (Nat × Nat)) : Nat → List Bool → Nat
  | node, [] => node
  | node, bit :: bits =>
    match rows[node]? with
    | some row => follow rows (pick row bit) bits
    | none => node

/-- How many bits are followed before the walk leaves the tree. -/
def depth (rows : List (Nat × Nat)) : Nat → List Bool → Nat
  | _, [] => 0
  | node, bit :: bits =>
    match rows[node]? with
    | some row => depth rows (pick row bit) bits + 1
    | none => 0

/-- **Bits after the end of a walk do not matter.** -/
theorem follow_of_take {rows : List (Nat × Nat)} {node : Nat} {bits other : List Bool}
    (hlength : bits.length = other.length)
    (h : bits.take (depth rows node bits) = other.take (depth rows node bits)) :
    follow rows node bits = follow rows node other := by
  induction bits generalizing node other with
  | nil =>
      have hnil : other = [] := List.length_eq_zero_iff.1 hlength.symm
      rw [hnil]
  | cons bit bits ih =>
      cases other with
      | nil => cases hlength
      | cons b other =>
          cases hrow : rows[node]? with
          | none => simp only [follow, hrow]
          | some row =>
              simp only [depth, hrow, List.take_succ_cons, List.cons.injEq] at h
              obtain ⟨rfl, htake⟩ := h
              simp only [follow, hrow]
              exact ih (Nat.succ.inj hlength) htake

/-! ## Rows as bytes -/

/-- Records that fit a record size. -/
def RowsFit (recordSize : Nat) (rows : List (Nat × Nat)) : Prop :=
  ∀ row ∈ rows, ∀ bit, pick row bit < twoTo recordSize

/-- The record sizes of the format. -/
def IsRecordSize (recordSize : Nat) : Prop :=
  recordSize = 24 ∨ recordSize = 28 ∨ recordSize = 32

theorem length_encodeNode {recordSize : Nat} (h : IsRecordSize recordSize) (row : Nat × Nat) :
    (encodeNode recordSize row).length = recordSize / 4 := by
  rcases h with rfl | rfl | rfl <;> simp [encodeNode]

theorem length_flatMap_encodeNode {recordSize : Nat} (h : IsRecordSize recordSize)
    (rows : List (Nat × Nat)) :
    (rows.flatMap (encodeNode recordSize)).length = rows.length * (recordSize / 4) := by
  induction rows with
  | nil => simp
  | cons row rows ih =>
      rw [List.flatMap_cons, List.length_append, ih, length_encodeNode h, List.length_cons,
        Nat.succ_mul, Nat.add_comm]

/-- Of records of one length each stands where its place says. -/
theorem HasBytes.of_flatMap {α : Type} {file : Bytes} {encode : α → List UInt8} {width : Nat}
    (hwidth : ∀ x, (encode x).length = width) {xs : List α} {pos : Nat}
    (h : HasBytes file pos (xs.flatMap encode)) {i : Nat} {x : α} (hx : xs[i]? = some x) :
    HasBytes file (pos + i * width) (encode x) := by
  induction xs generalizing pos i with
  | nil => cases hx
  | cons y ys ih =>
      rw [List.flatMap_cons] at h
      cases i with
      | zero =>
          rw [← Option.some.inj hx, Nat.zero_mul, Nat.add_zero]
          exact h.left
      | succ i =>
          have hnext := ih h.right hx
          rw [hwidth] at hnext
          rw [Nat.succ_mul, Nat.add_comm (i * width), ← Nat.add_assoc]
          exact hnext

/-- The number that is read from the bytes of a row. -/
theorem number_of_bigEndian {file : Bytes} {acc pos width n next : Nat}
    (h : bigEndian file acc pos width = .ok (n, next)) :
    (match bigEndian file acc pos width with
      | .ok (n, _) => some n
      | .error _ => none) = some n := by
  rw [h]

/-- A number is put together from its highest bits and the three bytes below them. -/
theorem high_add_low (n : Nat) :
    n / twoTo 24 * twoTo (8 * 3) + n % twoTo 24 % twoTo (8 * 3) = n := by
  show n / twoTo 24 * twoTo 24 + n % twoTo 24 % twoTo 24 = n
  rw [Nat.mod_mod, Nat.mul_comm, Nat.div_add_mod]

/-- The records of a row of 28 bits, whose highest bits share a byte. -/
theorem nodeRecord?_shared {file : Bytes} {node : Nat} {row : Nat × Nat}
    (h : HasBytes file (node * 28 / 4) (encodeNode 28 row))
    (hfit : ∀ bit, pick row bit < twoTo 28) (bit : Bool) :
    nodeRecord? file 28 node bit = some (pick row bit) := by
  have h24 : twoTo 24 = 16777216 := rfl
  have hfirst : row.1 < 16 * 16777216 := hfit false
  have hsecond : row.2 < 16 * 16777216 := hfit true
  have h : HasBytes file (node * 28 / 4) (bigEndianBytes 3 (row.1 % twoTo 24)
      ++ [UInt8.ofNat (row.1 / twoTo 24 * 16 + row.2 / twoTo 24)]
      ++ bigEndianBytes 3 (row.2 % twoTo 24)) := h
  have hmiddle : (UInt8.ofNat (row.1 / twoTo 24 * 16 + row.2 / twoTo 24)).toNat =
      row.1 / twoTo 24 * 16 + row.2 / twoTo 24 := by
    rw [UInt8.toNat_ofNat', h24]
    omega
  have hbyte := h.left.right.getElem?
  rw [length_bigEndianBytes] at hbyte
  unfold nodeRecord?
  simp only [hbyte, Nat.reduceEqDiff, if_true, if_false, Option.bind_eq_bind, Option.bind_some,
    hmiddle]
  cases bit with
  | false =>
      have hhigh : (row.1 / twoTo 24 * 16 + row.2 / twoTo 24) / 16 = row.1 / twoTo 24 := by
        rw [h24]
        omega
      have hread := h.left.left.bigEndian (row.1 / twoTo 24)
      rw [high_add_low] at hread
      simp only [Bool.false_eq_true, if_false, hhigh]
      exact number_of_bigEndian hread
  | true =>
      have hhigh : (row.1 / twoTo 24 * 16 + row.2 / twoTo 24) % 16 = row.2 / twoTo 24 := by
        rw [h24]
        omega
      have hread := h.right.bigEndian (row.2 / twoTo 24)
      rw [high_add_low, List.length_append, length_bigEndianBytes] at hread
      simp only [if_true, hhigh]
      exact number_of_bigEndian hread

/-- The records of a row whose records have bytes of their own. -/
theorem number_of_pair {file : Bytes} {base width : Nat} {row : Nat × Nat}
    (h : HasBytes file base (bigEndianBytes width row.1 ++ bigEndianBytes width row.2))
    (hfit : ∀ bit, pick row bit < twoTo (8 * width)) (bit : Bool) :
    (match bigEndian file 0 (base + side bit * width) width with
      | .ok (n, _) => some n
      | .error _ => none) = some (pick row bit) := by
  cases bit with
  | false =>
      have hread := h.left.bigEndian_of_lt (hfit false)
      rw [side, if_neg Bool.false_ne_true, Nat.zero_mul, Nat.add_zero]
      exact number_of_bigEndian hread
  | true =>
      have hread := h.right.bigEndian_of_lt (hfit true)
      rw [length_bigEndianBytes] at hread
      rw [side, if_pos rfl, Nat.one_mul]
      exact number_of_bigEndian hread

/-- **A written record is read back.** -/
theorem nodeRecord?_encodeNode {file : Bytes} {recordSize node : Nat} {row : Nat × Nat}
    (hsize : IsRecordSize recordSize)
    (h : HasBytes file (node * recordSize / 4) (encodeNode recordSize row))
    (hfit : ∀ bit, pick row bit < twoTo recordSize) (bit : Bool) :
    nodeRecord? file recordSize node bit = some (pick row bit) := by
  rcases hsize with rfl | rfl | rfl
  · exact number_of_pair h hfit bit
  · exact nodeRecord?_shared h hfit bit
  · exact number_of_pair h hfit bit

/-! ## Walking -/

/-- **Walking on the bytes of a tree is following its rows.** -/
theorem walk_eq_follow {file : Bytes} {m : Metadata} {rows : List (Nat × Nat)}
    (hsize : IsRecordSize m.recordSize) (hcount : m.nodeCount = rows.length)
    (hfit : RowsFit m.recordSize rows)
    (h : HasBytes file 0 (rows.flatMap (encodeNode m.recordSize))) (node : Nat)
    (bits : List Bool) : walk file m node bits = .ok (follow rows node bits) := by
  induction bits generalizing node with
  | nil => rfl
  | cons bit bits ih =>
      cases hrow : rows[node]? with
      | none =>
          have hout : m.nodeCount ≤ node := by
            rw [hcount]
            exact List.getElem?_eq_none_iff.1 hrow
          rw [walk, if_pos hout]
          simp only [follow, hrow]
      | some row =>
          obtain ⟨hin, -⟩ := List.getElem?_eq_some_iff.1 hrow
          have hplace : node * m.recordSize / 4 = 0 + node * (m.recordSize / 4) := by
            rcases hsize with hs | hs | hs <;> rw [hs] <;> omega
          have hbytes := h.of_flatMap (length_encodeNode hsize) hrow
          rw [← hplace] at hbytes
          have hrecords := hfit row (List.mem_of_getElem? hrow)
          have hread := nodeRecord?_encodeNode hsize hbytes hrecords bit
          rw [walk, if_neg (by omega)]
          simp only [hread, ih, follow, hrow]

end CountryLookup.Database
