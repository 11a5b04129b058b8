import CountryLookup.Proofs.Database.Lookup

/-!
# Databases laid out from tries

A search tree is laid out in preorder, so the rows of a subtree stand together, and the record that
leads to it says where. Following bits on the rows then comes to what the trie says of them: the
offset of an item, or nothing. What a trie says after an insertion is known from what it said before,
so what a database answers can be read off the networks it was made of.

## Main results

* `Trie.find?_insert` — an insertion changes what the bits behind its prefix lead to, and no others.
* `itemOf?_rows` — bits lead on the rows where they lead in the trie.
* `isTree_rows` — a trie over some data is laid out as a search tree over them.
-/

namespace CountryLookup.Database

namespace Trie

/-! ## Insertions -/

/-- What one more bit leads to. Below an item everything leads to the item. -/
def child (bit : Bool) : Trie → Trie
  | node zero one => if bit then one else zero
  | t => t

theorem find?_cons (t : Trie) (bit : Bool) (bits : List Bool) :
    t.find? (bit :: bits) = (t.child bit).find? bits := by
  cases t with
  | empty => cases bits <;> rfl
  | leaf offset => cases bits <;> rfl
  | node zero one => cases bit <;> rfl

theorem insert_cons (offset : Nat) (bit : Bool) (key : List Bool) (t : Trie) :
    insert offset (bit :: key) t =
      if bit then node (t.child false) (insert offset key (t.child true))
      else node (insert offset key (t.child false)) (t.child true) := by
  cases t <;> rfl

theorem child_insert (offset : Nat) (bit c : Bool) (key : List Bool) (t : Trie) :
    (insert offset (bit :: key) t).child c =
      if c = bit then insert offset key (t.child c) else t.child c := by
  rw [insert_cons]
  cases bit <;> cases c <;> rfl

/-- **An insertion changes what the bits behind its prefix lead to**, and no others. -/
theorem find?_insert (offset : Nat) {key bits : List Bool} (h : key.length ≤ bits.length)
    (t : Trie) :
    (insert offset key t).find? bits = if key <+: bits then some offset else t.find? bits := by
  induction key generalizing bits t with
  | nil => cases bits <;> rfl
  | cons bit key ih =>
      cases bits with
      | nil => cases h
      | cons c bits =>
          rw [find?_cons, child_insert, find?_cons]
          by_cases hc : c = bit
          · rw [if_pos hc, ih (Nat.le_of_succ_le_succ h), hc]
            simp only [List.cons_prefix_cons, true_and]
          · have hno : ¬ bit :: key <+: c :: bits := by
              rw [List.cons_prefix_cons]
              exact fun heq => hc heq.1.symm
            rw [if_neg hc, if_neg hno]

/-- All items of a trie stand before an offset. -/
def Within (bound : Nat) : Trie → Prop
  | empty => True
  | leaf offset => offset < bound
  | node zero one => zero.Within bound ∧ one.Within bound

theorem Within.mono {bound more : Nat} (hle : bound ≤ more) {t : Trie} (h : t.Within bound) :
    t.Within more := by
  induction t with
  | empty => exact h
  | leaf offset => exact Nat.lt_of_lt_of_le h hle
  | node zero one ihz iho => exact ⟨ihz h.1, iho h.2⟩

theorem Within.child {bound : Nat} {t : Trie} (h : t.Within bound) (bit : Bool) :
    (t.child bit).Within bound := by
  cases t with
  | empty => exact h
  | leaf offset => exact h
  | node zero one =>
      cases bit with
      | false => exact h.1
      | true => exact h.2

theorem Within.insert {bound offset : Nat} (hoffset : offset < bound) (key : List Bool) {t : Trie}
    (h : t.Within bound) : (insert offset key t).Within bound := by
  induction key generalizing t with
  | nil => exact hoffset
  | cons bit key ih =>
      rw [insert_cons]
      cases bit with
      | false => exact ⟨ih (h.child false), h.child true⟩
      | true => exact ⟨h.child false, ih (h.child true)⟩

end Trie

/-! ## Rows of a trie -/

theorem follow_of_le {rows : List (Nat × Nat)} {node : Nat} (h : rows.length ≤ node)
    (bits : List Bool) : follow rows node bits = node := by
  cases bits with
  | nil => rfl
  | cons bit bits => rw [follow, List.getElem?_eq_none h]

/-- The rows of a trie stand in a list from some row on. -/
def Stands (rows : List (Nat × Nat)) (start : Nat) (t : Trie) : Prop :=
  t.rows rows.length start <+: rows.drop start

/-- The row of a node, and the rows of its two subtries behind it. -/
theorem Stands.node {rows : List (Nat × Nat)} {start : Nat} {zero one : Trie}
    (h : Stands rows start (.node zero one)) :
    rows[start]? = some (zero.record rows.length (start + 1),
        one.record rows.length (start + 1 + zero.size)) ∧
      Stands rows (start + 1) zero ∧ Stands rows (start + 1 + zero.size) one := by
  obtain ⟨rest, hrest⟩ := h
  rw [Trie.rows, List.cons_append, List.append_assoc] at hrest
  have hrow := congrArg (fun l => l[0]?) hrest
  have hbehind := congrArg (List.drop 1) hrest
  simp only [List.getElem?_cons_zero, List.getElem?_drop, Nat.add_zero] at hrow
  simp only [List.drop_succ_cons, List.drop_zero, List.drop_drop] at hbehind
  refine ⟨hrow.symm, ⟨_, hbehind⟩, rest, ?_⟩
  rw [← List.drop_drop, ← hbehind, ← Trie.length_rows rows.length (start + 1) zero, List.drop_left]

/-- Where bits lead on the rows of a trie: to the item to which they lead in the trie, or else to
nothing. -/
def Reaches (rows : List (Nat × Nat)) (item? : Option Nat) (reached : Nat) : Prop :=
  match item? with
  | some offset => reached = rows.length + separatorSize + offset
  | none => reached ≤ rows.length

/-- **Following bits on the rows of a trie** comes to what the trie says of them. -/
theorem reaches_follow {rows : List (Nat × Nat)} {start : Nat} {t : Trie} (h : Stands rows start t)
    (bits : List Bool) :
    Reaches rows (t.find? bits) (follow rows (t.record rows.length start) bits) := by
  induction t generalizing start bits with
  | empty =>
      rw [Trie.record, follow_of_le (Nat.le_refl _)]
      cases bits <;> exact Nat.le_refl _
  | leaf offset =>
      rw [Trie.record, follow_of_le (by omega)]
      cases bits <;> rfl
  | node zero one ihz iho =>
      obtain ⟨hrow, hzero, hone⟩ := h.node
      cases bits with
      | nil =>
          have hin := (List.getElem?_eq_some_iff.1 hrow).1
          exact Nat.le_of_lt hin
      | cons bit bits =>
          rw [Trie.record, follow, hrow]
          cases bit with
          | false => exact ihz hzero bits
          | true => exact iho hone bits

/-- The rows of a whole trie stand from the first row on. -/
theorem stands_rows (t : Trie) : Stands (t.rows t.size 0) 0 t := by
  rw [Stands, Trie.length_rows]
  exact List.prefix_rfl

/-- **Bits lead on the rows where they lead in the trie.** A trie that is one item alone has no rows,
and cannot be laid out. -/
theorem itemOf?_rows {t : Trie} (h : t.record t.size 0 = 0) (x : Address) :
    itemOf? (t.rows t.size 0) x = t.find? x.bits := by
  have hreaches := reaches_follow (stands_rows t) x.bits
  rw [Trie.length_rows, h] at hreaches
  cases hfind : t.find? x.bits with
  | none =>
      rw [hfind] at hreaches
      exact if_pos hreaches
  | some offset =>
      rw [hfind] at hreaches
      exact LeadsTo.itemOf? hreaches

/-- A record of a laid out trie is one of a search tree: a row, nothing, or an item. -/
theorem isRecord_record {rows : List (Nat × Nat)} {data : List UInt8} {start : Nat} {t : Trie}
    (h : Stands rows start t) (hwithin : t.Within data.length) :
    IsRecord rows data (t.record rows.length start) := by
  cases t with
  | empty => exact .inl (Nat.le_refl _)
  | leaf offset => exact .inr ⟨offset, hwithin, rfl⟩
  | node zero one => exact .inl (Nat.le_of_lt (List.getElem?_eq_some_iff.1 h.node.1).1)

theorem isRecord_of_mem_rows {rows : List (Nat × Nat)} {data : List UInt8} {start : Nat} {t : Trie}
    (h : Stands rows start t) (hwithin : t.Within data.length) {row : Nat × Nat}
    (hrow : row ∈ t.rows rows.length start) (bit : Bool) : IsRecord rows data (pick row bit) := by
  induction t generalizing start with
  | empty => cases hrow
  | leaf offset => cases hrow
  | node zero one ihz iho =>
      obtain ⟨-, hzero, hone⟩ := h.node
      rw [Trie.rows] at hrow
      rcases List.mem_cons.1 hrow with rfl | hrow
      · cases bit with
        | false => exact isRecord_record hzero hwithin.1
        | true => exact isRecord_record hone hwithin.2
      · rcases List.mem_append.1 hrow with hrow | hrow
        · exact ihz hzero hwithin.1 hrow
        · exact iho hone hwithin.2 hrow

/-- **A trie over some data is laid out as a search tree over them**, if its rows and the data are
few enough for the record size. -/
theorem isTree_rows {recordSize : Nat} {t : Trie} {data : List UInt8}
    (hwithin : t.Within data.length)
    (hsize : t.size + separatorSize + data.length ≤ twoTo recordSize) :
    IsTree recordSize (t.rows t.size 0) data := by
  have hlength : (t.rows t.size 0).length = t.size := Trie.length_rows t.size 0 t
  have hleads : ∀ row ∈ t.rows t.size 0, ∀ bit, IsRecord (t.rows t.size 0) data (pick row bit) := by
    intro row hrow bit
    rw [← hlength] at hrow
    exact isRecord_of_mem_rows (hlength ▸ stands_rows t) hwithin hrow bit
  refine ⟨?_, hleads⟩
  intro row hrow bit
  rcases hleads row hrow bit with hin | ⟨offset, hoffset, hitem⟩
  · have hpos : 0 < separatorSize := by decide
    omega
  · omega

end CountryLookup.Database
