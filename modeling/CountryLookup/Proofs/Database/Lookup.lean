import CountryLookup.Proofs.Database.Opening
import CountryLookup.Proofs.Database.Records
import CountryLookup.Proofs.Database.Tree

/-!
# Looking up in a written database

A database that is written from a search tree and data answers as the tree and the data say: the
bits of an address are followed from node 0, and what they lead to is either nothing or an item of
the data, which is decoded. How many bits a record takes does not show.

Items are read in the bytes from the data to the end of the file. An item that is whole reads the
same in the data alone, so that the metadata behind the data does not show either.

## Main results

* `find_image` — the bits of an address lead where the rows say.
* `answer_image` — the answer for an address is that of the tree and the bytes from the data on.
* `lookupRecord_image` — a written database opens and answers so, with every record size.
-/

namespace CountryLookup

namespace Database

/-! ## Trees over data -/

/-- A record of a search tree over some data: a node, or the number that stands for nothing, or a
number that leads to an offset of the data. -/
def IsRecord (rows : List (Nat × Nat)) (data : List UInt8) (record : Nat) : Prop :=
  record ≤ rows.length ∨
    ∃ offset, offset < data.length ∧ record = rows.length + separatorSize + offset

/-- Rows of a search tree over some data, with records of so many bits. -/
structure IsTree (recordSize : Nat) (rows : List (Nat × Nat)) (data : List UInt8) : Prop where
  fits : RowsFit recordSize rows
  leads : ∀ row ∈ rows, ∀ bit, IsRecord rows data (pick row bit)

/-- A tree over data with one item, to which some of its records lead. -/
theorem isTree_single {recordSize : Nat} (hs : IsRecordSize recordSize) {rows : List (Nat × Nat)}
    {data : List UInt8} (hdata : 0 < data.length) (hcount : rows.length + separatorSize < twoTo 24)
    (hrows : ∀ row ∈ rows, ∀ bit,
      pick row bit ≤ rows.length ∨ pick row bit = rows.length + separatorSize) :
    IsTree recordSize rows data where
  fits := by
    have hlarge : twoTo 24 ≤ twoTo recordSize := by
      rcases hs with rfl | rfl | rfl <;> decide
    intro row hrow bit
    rcases hrows row hrow bit with hin | hitem <;> omega
  leads := by
    intro row hrow bit
    rcases hrows row hrow bit with hin | hitem
    · exact .inl hin
    · exact .inr ⟨0, hdata, hitem⟩

/-- A walk from a record ends at a record. -/
theorem IsTree.isRecord_follow {recordSize : Nat} {rows : List (Nat × Nat)} {data : List UInt8}
    (h : IsTree recordSize rows data) (bits : List Bool) {node : Nat}
    (hnode : IsRecord rows data node) : IsRecord rows data (follow rows node bits) := by
  induction bits generalizing node with
  | nil => exact hnode
  | cons bit bits ih =>
      rw [follow]
      cases hrow : rows[node]? with
      | none => exact hnode
      | some row => exact ih (h.leads row (List.mem_of_getElem? hrow) bit)

/-- The bits of an address lead to an item of the data. -/
def LeadsTo (rows : List (Nat × Nat)) (x : Address) (offset : Nat) : Prop :=
  follow rows 0 x.bits = rows.length + separatorSize + offset

/-- The bits of an address lead to nothing or into the data. -/
theorem IsTree.leads_cases {recordSize : Nat} {rows : List (Nat × Nat)} {data : List UInt8}
    (h : IsTree recordSize rows data) (x : Address) :
    follow rows 0 x.bits ≤ rows.length ∨ ∃ offset, offset < data.length ∧ LeadsTo rows x offset :=
  h.isRecord_follow x.bits (.inl (Nat.zero_le rows.length))

/-- The item to which the bits of an address lead, if they lead to any. -/
def itemOf? (rows : List (Nat × Nat)) (x : Address) : Option Nat :=
  if follow rows 0 x.bits ≤ rows.length then none
  else some (follow rows 0 x.bits - rows.length - separatorSize)

theorem LeadsTo.not_le {rows : List (Nat × Nat)} {x : Address} {offset : Nat}
    (h : LeadsTo rows x offset) : ¬ follow rows 0 x.bits ≤ rows.length := by
  rw [h, separatorSize]
  omega

theorem LeadsTo.itemOf? {rows : List (Nat × Nat)} {x : Address} {offset : Nat}
    (h : LeadsTo rows x offset) : itemOf? rows x = some offset := by
  rw [Database.itemOf?, if_neg h.not_le, h]
  congr 1
  omega

/-- What a tree and data say about an address. -/
def treeAnswer (rows : List (Nat × Nat)) (data : Bytes) (x : Address) :
    Except ErrorKind IpRecord :=
  match itemOf? rows x with
  | none => .error .recordNotFound
  | some offset => decode data offset

theorem LeadsTo.treeAnswer {rows : List (Nat × Nat)} {x : Address} {offset : Nat}
    (h : LeadsTo rows x offset) (data : Bytes) : treeAnswer rows data x = decode data offset := by
  rw [Database.treeAnswer, h.itemOf?]

theorem treeAnswer_of_le {rows : List (Nat × Nat)} {x : Address}
    (h : follow rows 0 x.bits ≤ rows.length) (data : Bytes) :
    treeAnswer rows data x = .error .recordNotFound := by
  rw [treeAnswer, itemOf?, if_pos h]

/-- Nothing is found exactly where the bits lead to no item. -/
theorem treeAnswer_eq_notFound_iff (rows : List (Nat × Nat)) (data : Bytes) (x : Address) :
    treeAnswer rows data x = .error .recordNotFound ↔ follow rows 0 x.bits ≤ rows.length := by
  refine ⟨fun hd => ?_, fun h => treeAnswer_of_le h data⟩
  by_cases h : follow rows 0 x.bits ≤ rows.length
  · exact h
  · rw [treeAnswer, itemOf?, if_neg h] at hd
    exact absurd hd (decode_ne_notFound _ _)

/-- Where nothing is found, or a whole item, bytes behind the data do not matter. -/
theorem IsTree.treeAnswer_append {recordSize : Nat} {rows : List (Nat × Nat)} {data : List UInt8}
    (h : IsTree recordSize rows data) {x : Address}
    (hwhole : ∀ offset, LeadsTo rows x offset → IsWhole data.toArray offset) (more : Bytes) :
    Database.treeAnswer rows (data.toArray ++ more) x =
      Database.treeAnswer rows data.toArray x := by
  rcases h.leads_cases x with hin | ⟨offset, -, hleads⟩
  · rw [treeAnswer_of_le hin, treeAnswer_of_le hin]
  · rw [hleads.treeAnswer, hleads.treeAnswer]
    exact decode_append (hwhole offset hleads) more

/-- Metadata that name the family of an address. -/
def Metadata.OfFamily (m : Metadata) (x : Address) : Prop :=
  m.ipVersion = if x.isV6 then 6 else 4

/-- An address of the family that metadata name is looked up from node 0. -/
theorem startNode_of_family (file : Bytes) {m : Metadata} {x : Address} (hx : m.OfFamily x) :
    startNode file m x.isV6 = .ok 0 := by
  have hno : ¬ (x.isV6 = false ∧ m.ipVersion = 6) := by
    rintro ⟨hv, h6⟩
    rw [Metadata.OfFamily, hv] at hx
    simp at hx
    omega
  exact if_neg hno

/-! ## The bytes of a file -/

theorem length_treeBytes {m : Metadata} (hs : IsRecordSize m.recordSize) (rows : List (Nat × Nat))
    (hcount : m.nodeCount = rows.length) :
    (treeBytes m rows).length = m.nodeCount * m.recordSize / 4 + separatorSize := by
  rw [treeBytes, List.length_append, length_flatMap_encodeNode hs, List.length_replicate, hcount]
  rcases hs with hs | hs | hs <;> rw [hs] <;> omega

theorem hasBytes_rows (m : Metadata) (rows : List (Nat × Nat)) (data : List UInt8) :
    HasBytes (image m rows data).toArray 0 (rows.flatMap (encodeNode m.recordSize)) := by
  have hwhole := hasBytes_toArray [] (rows.flatMap (encodeNode m.recordSize))
    (List.replicate separatorSize 0 ++ (data ++ metadataBytes m))
  rw [image_eq, treeBytes, List.append_assoc]
  exact hwhole

end Database

namespace LocalDatabase

open Database

/-! ## Where an address leads -/

/-- The offset in the data to which a record of the tree leads, if it leads to any. -/
def settle (db : LocalDatabase) (reached : Nat) : Except Failure (Option Nat) :=
  if reached ≤ db.metadata.nodeCount then .ok none
  else
    let offset := reached - db.metadata.nodeCount - separatorSize
    if reached < db.metadata.nodeCount + separatorSize ∨ db.file.size - db.dataStart ≤ offset then
      .error (.corrupt .badDataPointer none)
    else .ok (some offset)

/-- A lookup of an address of a family that the database holds is a walk from the start node. -/
theorem find_eq {db : LocalDatabase} {x : Address}
    (h : ¬ (x.isV6 = true ∧ db.metadata.ipVersion = 4)) :
    db.find x = startNode db.file db.metadata x.isV6 >>= fun start =>
      walk db.file db.metadata start x.bits >>= db.settle := by
  rw [find]
  dsimp only
  rw [if_neg h]
  rfl

/-! ## Written databases -/

/-- What a lookup answers: a record, or the kind of its error. -/
def answer (db : LocalDatabase) (x : Address) : Except ErrorKind IpRecord :=
  (db.lookupRecord x).mapError LookupError.kind

section Image

variable {m : Metadata} (hs : IsRecordSize m.recordSize) {rows : List (Nat × Nat)}
  (hcount : m.nodeCount = rows.length) {data : List UInt8} (htree : IsTree m.recordSize rows data)
  (source : DatabaseSource)

/-- The database of a file as it is opened. -/
def ofImage (m : Metadata) (rows : List (Nat × Nat)) (data : List UInt8)
    (source : DatabaseSource) : LocalDatabase := ⟨(image m rows data).toArray, m, source⟩

include hs hcount

theorem dataStart_image :
    (ofImage m rows data source).dataStart = (treeBytes m rows).length :=
  (length_treeBytes hs rows hcount).symm

/-- The bytes in which items are read are the data and the metadata behind them. -/
theorem data_image :
    (ofImage m rows data source).data = data.toArray ++ (metadataBytes m).toArray := by
  rw [LocalDatabase.data, dataStart_image hs hcount, ofImage, image_eq, extract_append]
  simp

include htree

/-- The record to which the bits of an address lead is settled as the tree says. -/
theorem settle_image (x : Address) :
    (ofImage m rows data source).settle (follow rows 0 x.bits) = .ok (itemOf? rows x) := by
  have hmeta : (ofImage m rows data source).metadata = m := rfl
  have hstart : (ofImage m rows data source).dataStart = (treeBytes m rows).length :=
    dataStart_image hs hcount source
  have hsize : (ofImage m rows data source).file.size =
      (treeBytes m rows).length + (data.length + (metadataBytes m).length) := by
    rw [ofImage, image_eq]
    simp
  have hdata : (ofImage m rows data source).file.size - (ofImage m rows data source).dataStart =
      data.length + (metadataBytes m).length := by
    rw [hstart, hsize]
    omega
  rw [settle, hdata, hmeta, hcount, itemOf?]
  dsimp only
  rcases htree.leads_cases x with hin | ⟨offset, hoffset, hleads⟩
  · rw [if_pos hin, if_pos hin]
  · have hinside : ¬ (follow rows 0 x.bits < rows.length + separatorSize ∨
        data.length + (metadataBytes m).length ≤
          follow rows 0 x.bits - rows.length - separatorSize) := by
      rw [hleads]
      omega
    rw [if_neg hleads.not_le, if_neg hleads.not_le]
    exact if_neg hinside

/-- **The bits of an address lead where the rows say.** -/
theorem find_image {x : Address} (hx : m.OfFamily x) :
    (ofImage m rows data source).find x = .ok (itemOf? rows x) := by
  have hfamily : ¬ (x.isV6 = true ∧ m.ipVersion = 4) := by
    rintro ⟨hv, h4⟩
    rw [Metadata.OfFamily, if_pos hv] at hx
    omega
  have hroot : startNode (ofImage m rows data source).file m x.isV6 = .ok 0 :=
    startNode_of_family _ hx
  have hwalk := walk_eq_follow hs hcount htree.fits (hasBytes_rows m rows data) 0 x.bits
  rw [find_eq hfamily]
  show startNode (ofImage m rows data source).file m x.isV6 >>= _ = _
  rw [hroot]
  show walk (image m rows data).toArray m 0 x.bits >>= _ = _
  rw [hwalk]
  exact settle_image hs hcount htree source x

/-- **The answer for an address is that of the tree and the bytes from the data on.** -/
theorem answer_image {x : Address} (hx : m.OfFamily x) :
    (ofImage m rows data source).answer x =
      treeAnswer rows (data.toArray ++ (metadataBytes m).toArray) x := by
  unfold answer lookupRecord treeAnswer
  rw [find_image hs hcount htree source hx]
  cases itemOf? rows x with
  | none => rfl
  | some offset =>
      dsimp only
      rw [data_image hs hcount source, decode]
      cases readRecord (data.toArray ++ (metadataBytes m).toArray) offset <;> rfl

end Image

theorem answer_eq_ok_iff (db : LocalDatabase) (x : Address) (r : IpRecord) :
    db.answer x = .ok r ↔ db.lookupRecord x = .ok r := by
  unfold answer
  cases db.lookupRecord x with
  | ok r' =>
      constructor
      · intro h
        rw [Except.ok.inj h]
      · intro h
        rw [Except.ok.inj h]
        rfl
  | error e =>
      constructor
      · intro h
        cases h
      · intro h
        cases h

theorem answer_eq_error_iff (db : LocalDatabase) (x : Address) (k : ErrorKind) :
    db.answer x = .error k ↔ ∃ e, db.lookupRecord x = .error e ∧ e.kind = k := by
  unfold answer
  cases db.lookupRecord x with
  | ok r =>
      refine ⟨fun h => ?_, fun ⟨e, he, _⟩ => ?_⟩
      · cases h
      · cases he
  | error e =>
      constructor
      · intro h
        exact ⟨e, rfl, Except.error.inj h⟩
      · rintro ⟨e, he, rfl⟩
        rw [Except.error.inj he]
        rfl

theorem lookupCode_of_ok {db : LocalDatabase} {x : Address} {r : IpRecord}
    (h : db.lookupRecord x = .ok r) : db.lookupCode x = codeOf x r := by
  rw [lookupCode, h]
  rfl

theorem lookupCode_of_error {db : LocalDatabase} {x : Address} {e : LookupError}
    (h : db.lookupRecord x = .error e) : db.lookupCode x = .error e := by
  rw [lookupCode, h]
  rfl

/-- Addresses of one family have equally many bits. -/
theorem length_bits_of_family {m : Metadata} {x y : Address} (hx : m.OfFamily x)
    (hy : m.OfFamily y) : x.bits.length = y.bits.length := by
  unfold Metadata.OfFamily at hx hy
  rw [Address.length_bits, Address.length_bits]
  cases x with
  | v4 x =>
      cases y with
      | v4 y => rfl
      | v6 y => simp [Address.isV6] at hx hy; omega
  | v6 x =>
      cases y with
      | v4 y => simp [Address.isV6] at hx hy; omega
      | v6 y => rw [Address.octets, Address.octets, V6.length_octets, V6.length_octets]

/-- What a database answers for an address follows the tree and the data from which it is written:
the bits lead to nothing, and no record is found, or they lead to an item, which is decoded. -/
structure Follows (db : LocalDatabase) (m : Metadata) (rows : List (Nat × Nat))
    (data : List UInt8) (x : Address) : Prop where
  leads : follow rows 0 x.bits ≤ rows.length ∨
    ∃ offset, offset < data.length ∧ LeadsTo rows x offset
  notFound : (∃ e, db.lookupRecord x = .error e ∧ e.kind = .recordNotFound) ↔
    follow rows 0 x.bits ≤ rows.length
  /-- Items are read up to the end of the file. -/
  reads : ∀ offset, LeadsTo rows x offset →
    db.answer x = decode (data.toArray ++ (metadataBytes m).toArray) offset
  /-- For an item that is whole the data are enough. -/
  decodes : ∀ offset, LeadsTo rows x offset → IsWhole data.toArray offset →
    db.answer x = decode data.toArray offset
  /-- Bits after the end of the walk do not matter. -/
  early : ∀ y, m.OfFamily y →
    x.bits.take (depth rows 0 x.bits) = y.bits.take (depth rows 0 x.bits) →
    db.answer y = db.answer x

theorem follows_image {m : Metadata} (hs : IsRecordSize m.recordSize) {rows : List (Nat × Nat)}
    (hcount : m.nodeCount = rows.length) {data : List UInt8}
    (htree : IsTree m.recordSize rows data) (source : DatabaseSource) {x : Address}
    (hx : m.OfFamily x) : (ofImage m rows data source).Follows m rows data x := by
  have hanswer := answer_image hs hcount htree source hx
  refine ⟨htree.leads_cases x, ?_, ?_, ?_, ?_⟩
  · rw [← answer_eq_error_iff, hanswer]
    exact treeAnswer_eq_notFound_iff rows _ x
  · intro offset hleads
    rw [hanswer, hleads.treeAnswer]
  · intro offset hleads hwhole
    rw [hanswer, hleads.treeAnswer]
    exact decode_append hwhole _
  · intro y hy htake
    have hfollow := follow_of_take (length_bits_of_family hx hy) htake
    rw [hanswer, answer_image hs hcount htree source hy, treeAnswer, treeAnswer, itemOf?, itemOf?,
      hfollow]

/-- **A written database answers as its tree and its data say**, with every record size and for
either family. It opens, and what it answers for an address follows the tree. A database that is
written from the same tree and data with another record size answers alike, unless an item is not
whole and goes on in the metadata. -/
theorem lookupRecord_image {m : Metadata} (hm : m.Writable) {rows : List (Nat × Nat)}
    (hcount : m.nodeCount = rows.length) {data : List UInt8}
    (htree : IsTree m.recordSize rows data) (source : DatabaseSource) :
    ∃ db, ofBytes source (image m rows data).toArray = .ok db ∧
      ∀ x, m.OfFamily x →
        db.Follows m rows data x ∧
          ∀ (n : Metadata) (origin : DatabaseSource) (other : LocalDatabase), n.Writable →
            n.nodeCount = rows.length → n.ipVersion = m.ipVersion →
            IsTree n.recordSize rows data →
            ofBytes origin (image n rows data).toArray = .ok other →
            (∀ offset, LeadsTo rows x offset → IsWhole data.toArray offset) →
            other.answer x = db.answer x := by
  refine ⟨ofImage m rows data source, ofBytes_image hm rows data source, ?_⟩
  intro x hx
  refine ⟨follows_image hm.recordSizes hcount htree source hx, ?_⟩
  intro n origin other hn hcount' hversion htree' hopen hwhole
  rw [ofBytes_image hn rows data origin] at hopen
  have hother : ofImage n rows data origin = other := Except.ok.inj hopen
  have hx' : n.OfFamily x := hversion.trans hx
  rw [← hother, answer_image hn.recordSizes hcount' htree' origin hx',
    answer_image hm.recordSizes hcount htree source hx, htree.treeAnswer_append hwhole,
    htree.treeAnswer_append hwhole]

/-- A tree that knows all addresses but those that start with two zero bits. -/
def quarterRows : List (Nat × Nat) := [(1, 2 + separatorSize), (2, 2 + separatorSize)]

/-- The one item of its data. -/
def quarterData : List UInt8 := (recordValue [(.country, "JP")]).encode

theorem isTree_quarter {recordSize : Nat} (hs : IsRecordSize recordSize) :
    IsTree recordSize quarterRows quarterData :=
  isTree_single hs (by decide +kernel) (by decide) (by decide)

theorem decode_quarter : decode quarterData.toArray 0 = .ok { country := "JP" } := by
  have h : HasBytes quarterData.toArray 0 quarterData := by
    have hwhole := hasBytes_toArray [] quarterData []
    rw [List.append_nil] at hwhole
    exact hwhole
  exact decode_recordValue h (by decide) (by decide) (by decide +kernel)

/-- With records of 28 bits and with records of 32 bits, one address leads to the item and another
to nothing. -/
theorem lookupRecord_image_quarter :
    ((plainMetadata 4 28 2).Writable ∧ IsTree 28 quarterRows quarterData) ∧
      ∃ db other, ofBytes .embedded (image (plainMetadata 4 28 2) quarterRows quarterData).toArray
          = .ok db ∧
        ofBytes .embedded (image (plainMetadata 4 32 2) quarterRows quarterData).toArray
          = .ok other ∧
        db.answer (.v4 ⟨128, 0, 0, 1⟩) = .ok { country := "JP" } ∧
        db.answer (.v4 ⟨1, 0, 0, 0⟩) = .error .recordNotFound ∧
        db.answer (.v4 ⟨191, 1, 1, 1⟩) = .ok { country := "JP" } ∧
        other.answer (.v4 ⟨128, 0, 0, 1⟩) = .ok { country := "JP" } := by
  have hm : (plainMetadata 4 28 2).Writable :=
    writable_plainMetadata (.inl rfl) (.inr (.inl rfl)) (by decide)
  have hn : (plainMetadata 4 32 2).Writable :=
    writable_plainMetadata (.inl rfl) (.inr (.inr rfl)) (by decide)
  have htree : IsTree 28 quarterRows quarterData := isTree_quarter (.inr (.inl rfl))
  have hleads : LeadsTo quarterRows (.v4 ⟨128, 0, 0, 1⟩) 0 := rfl
  have hwhole := isWhole_of_decode decode_quarter
  obtain ⟨db, hopen, hdb⟩ := lookupRecord_image hm rfl htree .embedded
  have hother := ofBytes_image hn quarterRows quarterData .embedded
  obtain ⟨hitem, hsizes⟩ := hdb (.v4 ⟨128, 0, 0, 1⟩) rfl
  obtain ⟨hnothing, -⟩ := hdb (.v4 ⟨1, 0, 0, 0⟩) rfl
  have hfound : db.answer (.v4 ⟨128, 0, 0, 1⟩) = .ok { country := "JP" } :=
    (hitem.decodes 0 hleads hwhole).trans decode_quarter
  have hsame := hsizes (plainMetadata 4 32 2) .embedded _ hn rfl rfl
    (isTree_quarter (.inr (.inr rfl))) hother (by
      intro offset hoffset
      have hzero : offset = 0 := by
        have heq := hleads.symm.trans hoffset
        omega
      rw [hzero]
      exact hwhole)
  refine ⟨⟨hm, htree⟩, db, _, hopen, hother, hfound, ?_, ?_, hsame.trans hfound⟩
  · exact (answer_eq_error_iff db _ _).2 (hnothing.notFound.2 (by decide))
  · exact (hitem.early (.v4 ⟨191, 1, 1, 1⟩) rfl rfl).trans hfound

end LocalDatabase

end CountryLookup
