import CountryLookup.Proofs.Database.Lookup

/-!
# Addresses of the fourth version in a database for the sixth

A database for the sixth version holds the addresses of the fourth behind 96 zero bits. A lookup of
one of them does not walk along these bits. It starts at the node where they lead, or at the record
that is no node where they leave the tree early. Either way it comes to what the whole walk comes to:
a walk along some bits and then more bits is the walk along all of them, and a walk that has left the
tree stays where it is.

## Main results

* `walk_append` — a walk can be taken up where an earlier one ended.
* `find_embedded` — an address leads where the longer address with its octets leads.
* `alike_embedded` — both are answered with the same record and code, or with errors of one kind.
-/

namespace CountryLookup

/-- The address of the sixth version with zeros before the four octets: `::a.b.c.d`. -/
def V4.embedded (a : V4) : V6 := ⟨0, 0, 0, 0, 0, 0, groupOf a.a a.b, groupOf a.c a.d⟩

theorem octets_embedded (a : V4) :
    (Address.v6 a.embedded).octets = List.replicate 12 0 ++ (Address.v4 a).octets := by
  have hhigh : highOctet 0 = 0 := rfl
  have hlow : lowOctet 0 = 0 := rfl
  simp [Address.octets, V6.octets, V6.groups, V4.embedded, V4.octets, hhigh, hlow]

theorem bits_embedded (a : V4) :
    (Address.v6 a.embedded).bits = List.replicate 96 false ++ (Address.v4 a).bits := by
  have hzeros : (List.replicate 12 (0 : UInt8)).flatMap Address.octetBits =
      List.replicate 96 false := by decide
  rw [Address.bits, octets_embedded, List.flatMap_append, hzeros]
  rfl

namespace Database

/-! ## Walks in two parts -/

/-- A walk that has left the tree stays where it is. -/
theorem walk_of_le {file : Bytes} {m : Metadata} {node : Nat} (h : m.nodeCount ≤ node)
    (bits : List Bool) : walk file m node bits = .ok node := by
  cases bits with
  | nil => rfl
  | cons bit bits => rw [walk, if_pos h]

/-- **A walk can be taken up where an earlier one ended**, wherever that is. -/
theorem walk_append (file : Bytes) (m : Metadata) (node : Nat) (bits more : List Bool) :
    walk file m node (bits ++ more) =
      walk file m node bits >>= fun reached => walk file m reached more := by
  induction bits generalizing node with
  | nil => rfl
  | cons bit bits ih =>
      by_cases hout : m.nodeCount ≤ node
      · rw [walk_of_le hout, walk_of_le hout]
        exact (walk_of_le hout more).symm
      · rw [List.cons_append, walk, walk, if_neg hout, if_neg hout]
        cases nodeRecord? file m.recordSize node bit with
        | none => rfl
        | some next => exact ih next

end Database

open Database

namespace LocalDatabase

/-! ## The longer address -/

/-- **An address leads where the longer address with its octets leads.** -/
theorem find_embedded {db : LocalDatabase} (h6 : db.metadata.ipVersion = 6) (a : V4) :
    db.find (.v4 a) = db.find (.v6 a.embedded) := by
  have hlong : ¬ ((Address.v6 a.embedded).isV6 = true ∧ db.metadata.ipVersion = 4) := by omega
  have hshort : ¬ ((Address.v4 a).isV6 = true ∧ db.metadata.ipVersion = 4) := by omega
  have hzeros : startNode db.file db.metadata (Address.v4 a).isV6 =
      walk db.file db.metadata 0 (List.replicate 96 false) := if_pos ⟨rfl, h6⟩
  have hroot : startNode db.file db.metadata (Address.v6 a.embedded).isV6 = .ok 0 := rfl
  rw [find_eq hshort, find_eq hlong, hzeros, hroot, bits_embedded]
  show _ = walk db.file db.metadata 0 (List.replicate 96 false ++ (Address.v4 a).bits) >>= db.settle
  rw [walk_append, bind_assoc]

/-! ## Answers -/

/-- Two answers agree: both are the same, or both are errors of one kind. What an error says may
differ, since it names the address. -/
inductive Alike {α : Type} : Except LookupError α → Except LookupError α → Prop
  | same (a : α) : Alike (.ok a) (.ok a)
  | fails {e e' : LookupError} (h : e.kind = e'.kind) : Alike (.error e) (.error e')

theorem Alike.eq_ok {α : Type} {r r' : Except LookupError α} {a : α} (h : Alike r r')
    (hr : r' = .ok a) : r = .ok a := by
  cases h with
  | same b => exact hr
  | fails h => cases hr

theorem Alike.exists_error {α : Type} {r r' : Except LookupError α} {e : LookupError}
    (h : Alike r r') (hr : r' = .error e) : ∃ e', r = .error e' ∧ e'.kind = e.kind := by
  cases h with
  | same b => cases hr
  | fails h =>
      cases hr
      exact ⟨_, rfl, h⟩

section Answers

variable {db : LocalDatabase} {x y : Address}

/-- Addresses that lead to one place have one record, or none for the same kind of reason. -/
theorem alike_lookupRecord (h : db.find x = db.find y) :
    Alike (db.lookupRecord x) (db.lookupRecord y) := by
  unfold lookupRecord
  rw [h]
  cases db.find y with
  | error e => exact .fails rfl
  | ok offset? =>
      cases offset? with
      | none => exact .fails rfl
      | some offset =>
          dsimp only
          cases readRecord db.data offset with
          | error e => exact .fails rfl
          | ok r => exact .same r

/-- The same holds for codes, which are taken from the records. -/
theorem alike_lookupCode (h : Alike (db.lookupRecord x) (db.lookupRecord y)) :
    Alike (db.lookupCode x) (db.lookupCode y) := by
  unfold lookupCode
  generalize db.lookupRecord x = rx at h
  generalize db.lookupRecord y = ry at h
  cases h with
  | fails h => exact .fails h
  | same r =>
      show Alike (codeOf x r) (codeOf y r)
      unfold codeOf
      cases r.code? with
      | none => exact .fails rfl
      | some c => exact .same c

end Answers

/-- **In a database for the sixth version an address of the fourth is answered like the longer
address with its octets**, whatever the tree is: with the same record and code, or with errors of one
kind. -/
theorem alike_embedded {db : LocalDatabase} (h6 : db.metadata.ipVersion = 6) (a : V4) :
    Alike (db.lookupRecord (.v4 a)) (db.lookupRecord (.v6 a.embedded)) ∧
      Alike (db.lookupCode (.v4 a)) (db.lookupCode (.v6 a.embedded)) := by
  have hrecord := alike_lookupRecord (find_embedded h6 a)
  exact ⟨hrecord, alike_lookupCode hrecord⟩

/-! ## Three trees -/

/-- Zero bits lead to an item at once. -/
def leafRows : List (Nat × Nat) := [(1 + separatorSize, 1)]

/-- Zero bits lead to nothing at once. -/
def bareRows : List (Nat × Nat) := [(1, 1 + separatorSize)]

/-- A node for each of 96 zero bits, and behind them one whose second record leads to an item. -/
def chainRows : List (Nat × Nat) :=
  (List.range 96).map (fun k => (k + 1, 97)) ++ [(97, 97 + separatorSize)]

/-- A database for the sixth version with a tree over one item. -/
def longDatabase (rows : List (Nat × Nat)) : LocalDatabase :=
  ofImage (plainMetadata 6 24 rows.length) rows quarterData .embedded

theorem ofBytes_longDatabase {rows : List (Nat × Nat)} (h : rows.length < twoTo 32) :
    ofBytes .embedded (longDatabase rows).file = .ok (longDatabase rows) :=
  ofBytes_image (writable_plainMetadata (.inr rfl) (.inl rfl) h) rows quarterData .embedded

section Long

variable {rows : List (Nat × Nat)} (htree : IsTree 24 rows quarterData) (x : V6)
include htree

theorem answer_longDatabase : (longDatabase rows).answer (.v6 x) = treeAnswer rows
    (quarterData.toArray ++ (metadataBytes (plainMetadata 6 24 rows.length)).toArray) (.v6 x) :=
  answer_image (m := plainMetadata 6 24 rows.length) (.inl rfl) rfl htree .embedded rfl

/-- An address that leads to the item has its record. -/
theorem lookupRecord_longDatabase (h : LeadsTo rows (.v6 x) 0) :
    (longDatabase rows).lookupRecord (.v6 x) = .ok { country := "JP" } := by
  have hanswer := answer_longDatabase htree x
  rw [h.treeAnswer, decode_append (isWhole_of_decode decode_quarter), decode_quarter] at hanswer
  exact (answer_eq_ok_iff _ _ _).1 hanswer

/-- An address that leads to nothing has none. -/
theorem lookupRecord_longDatabase_of_le (h : follow rows 0 (Address.v6 x).bits ≤ rows.length) :
    ∃ e, (longDatabase rows).lookupRecord (.v6 x) = .error e ∧ e.kind = .recordNotFound := by
  have hanswer := answer_longDatabase htree x
  rw [treeAnswer_of_le h] at hanswer
  exact (answer_eq_error_iff _ _ _).1 hanswer

end Long

/-- An address of the fourth version with a one behind the zeros before it. -/
def highAddress : V4 := ⟨128, 0, 0, 1⟩

/-- The walk along zero bits leaves the first tree at an item and the second one at nothing, and it
stays in the third one to the end. -/
theorem alike_embedded_trees :
    (ofBytes .embedded (longDatabase leafRows).file = .ok (longDatabase leafRows) ∧
      (longDatabase leafRows).lookupRecord (.v4 highAddress) = .ok { country := "JP" } ∧
      (longDatabase leafRows).lookupCode (.v4 highAddress) = .ok "jp") ∧
    (ofBytes .embedded (longDatabase bareRows).file = .ok (longDatabase bareRows) ∧
      ∃ e, (longDatabase bareRows).lookupRecord (.v4 highAddress) = .error e ∧
        e.kind = .recordNotFound) ∧
    (ofBytes .embedded (longDatabase chainRows).file = .ok (longDatabase chainRows) ∧
      (longDatabase chainRows).lookupRecord (.v4 highAddress) = .ok { country := "JP" }) := by
  have hitem : 0 < quarterData.length := by decide +kernel
  have hleaf : IsTree 24 leafRows quarterData :=
    isTree_single (.inl rfl) hitem (by decide) (by decide)
  have hbare : IsTree 24 bareRows quarterData :=
    isTree_single (.inl rfl) hitem (by decide) (by decide)
  have hchain : IsTree 24 chainRows quarterData :=
    isTree_single (.inl rfl) hitem (by decide +kernel) (by decide +kernel)
  have hversion : ∀ rows, (longDatabase rows).metadata.ipVersion = 6 := fun _ => rfl
  obtain ⟨hrecord, hcode⟩ := alike_embedded (hversion leafRows) highAddress
  have hleafRecord := lookupRecord_longDatabase hleaf highAddress.embedded
    (by decide +kernel : _ = _)
  have hleafCode : (longDatabase leafRows).lookupCode (.v6 highAddress.embedded) = .ok "jp" := by
    rw [lookupCode_of_ok hleafRecord]
    rfl
  obtain ⟨e, hbareRecord, hkind⟩ := lookupRecord_longDatabase_of_le hbare highAddress.embedded
    (by decide +kernel)
  obtain ⟨e', hbareError, hsame⟩ :=
    (alike_embedded (hversion bareRows) highAddress).1.exists_error hbareRecord
  have hchainRecord := lookupRecord_longDatabase hchain highAddress.embedded
    (by decide +kernel : _ = _)
  exact ⟨⟨ofBytes_longDatabase (by decide), hrecord.eq_ok hleafRecord, hcode.eq_ok hleafCode⟩,
    ⟨ofBytes_longDatabase (by decide), e', hbareError, hsame.trans hkind⟩,
    ofBytes_longDatabase (by decide),
    (alike_embedded (hversion chainRows) highAddress).1.eq_ok hchainRecord⟩

end LocalDatabase

end CountryLookup
