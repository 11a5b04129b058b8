import CountryLookup.Proofs.Database.Lenient

/-!
# Records in any encoding

There are many ways to write one record. Its entries may stand in any order, with others among them,
and each key and each value may stand where it is needed or somewhere else, with a pointer to it.
Pointers have four lengths and texts four forms of their size. What is read does not depend on any of
this: the entries are those of the grammar, and the record is made of the texts among them.

## Main results

* `lookup_of_texts` — the record and the code of an address whose fields are texts.
-/

namespace CountryLookup

open Database Text

namespace Database

section Texts

variable {es : List (String × Value)} {texts : RecordField → Option String}
  (htexts : ∀ f : RecordField, Members.get? f.key es = (texts f).map Value.ofText)
include htexts

/-- The record of entries whose fields are texts has these texts. -/
theorem recordOf_of_texts : recordOf es = .ofFn fun f => (texts f).getD "" := by
  rw [recordOf]
  congr 1
  funext f
  rw [htexts f]
  cases texts f <;> rfl

/-- No number is in a field that is a text. -/
theorem knownWide?_of_texts (hnodup : (Members.names es).Nodup) : knownWide? es = none := by
  rw [knownWide?_eq_none_iff hnodup]
  intro f v hv
  rw [htexts f] at hv
  obtain ⟨t, -, rfl⟩ := Option.map_eq_some_iff.1 hv
  rfl

end Texts

end Database

namespace LocalDatabase

/-- **The record and the code of an address, however they are encoded.** The item of the address is a
map of the grammar, with texts as keys, each of them once, and texts in its fields. What other keys
hold does not matter. The record has the texts, a field that is not there is empty, and the code is
the one that the record chooses, in lower case, or there is none. -/
theorem lookup_of_texts {db : LocalDatabase} {x : Address} {offset next : Nat}
    {es : List (String × Value)} {texts : RecordField → Option String}
    (hfind : db.find x = .ok (some offset))
    (hitem : Placed db.data maxDepth offset (.ofMembers es) next)
    (hnodup : (Members.names es).Nodup)
    (htexts : ∀ f : RecordField, Members.get? f.key es = (texts f).map Value.ofText) :
    db.lookupRecord x = .ok (.ofFn fun f => (texts f).getD "") ∧
      db.lookupCode x = match (IpRecord.ofFn fun f => (texts f).getD "").source? with
        | some t => .ok (lowercase t)
        | none => .error ⟨.codeNotFound, "IP not found: " ++ x.render⟩ := by
  have hrecord : db.lookupRecord x = .ok (.ofFn fun f => (texts f).getD "") := by
    rw [lookupRecord_eq hfind hitem hnodup, knownWide?_of_texts htexts hnodup,
      recordOf_of_texts htexts]
    rfl
  refine ⟨hrecord, ?_⟩
  rw [lookupCode_of_ok hrecord, codeOf, IpRecord.code?]
  cases (IpRecord.ofFn fun f => (texts f).getD "").source? <;> rfl

/-! ## Pointers of all lengths -/

theorem encode_replicate (n : Nat) :
    Utf8.encode (.ofList (List.replicate n 'x')) = List.replicate n 120 := by
  have hchar : String.utf8EncodeChar 'x' = [120] := by decide
  rw [Utf8.encode, String.toList_ofList, List.flatMap_replicate, hchar,
    List.flatten_replicate_singleton]

/-- A text whose size takes two more bytes. -/
def longText : String := .ofList (List.replicate 300 'x')

theorem encode_longText : Utf8.encode longText = List.replicate 300 120 := encode_replicate 300

theorem textFits_longText : TextFits longText := by
  rw [TextFits, encode_longText, List.length_replicate]
  decide

/-- A number of 128 bits and a text, in a list. -/
def oddValue : Value := .array [.scalar (.uint128 5), .ofText "AS1"]

theorem writable_oddValue (room : Nat) : Writable (room + 1) oddValue := by
  refine .array (by decide) ?_
  intro v hv
  simp only [List.mem_cons, List.not_mem_nil, or_false] at hv
  rcases hv with rfl | rfl
  · exact .scalar (.uint128 (show 1 ≤ 16 by decide) (show 5 < twoTo 8 by decide)) rfl
  · exact writable_ofText (by decide)

/-- Two fields, and another key between them. -/
def pooledMembers : List (String × Value) :=
  [("country", .ofText "JP"), ("asn", oddValue), ("continent", .ofText longText)]

/-- The bytes of a pointer, by how many there are behind the first one. -/
def pointerBytes (width high low : Nat) : List UInt8 :=
  UInt8.ofNat (32 + ((width - 1) * 8 + high)) :: bigEndianBytes width low

/-- The entries, with a pointer of each length in place of a key or a value. -/
def pooledItem : List UInt8 :=
  controlBytes .map 3 ++
    (pointerBytes 1 1 66 ++ (pointerBytes 2 0 52 ++
      ((Value.ofText "asn").encode ++ (pointerBytes 3 0 64 ++
        (pointerBytes 4 0 330 ++ (Value.ofText longText).encode)))))

theorem length_pooledItem : pooledItem.length = 322 := by
  have hlong : (Value.ofText longText).encode =
      controlBytes .text (List.replicate 300 (120 : UInt8)).length ++ List.replicate 300 120 := by
    rw [← encode_longText]
    rfl
  rw [pooledItem, hlong]
  simp only [List.length_append, List.length_replicate]
  decide +kernel

/-- What the pointers lead to. What is near cannot be reached by the longer ones, but for the longest,
so that there are gaps. -/
def pool : List UInt8 :=
  (Value.ofText "country").encode ++ ((Value.ofText "continent").encode ++
    (List.replicate 1760 0 ++ ((Value.ofText "JP").encode ++
      (List.replicate 524297 0 ++ oddValue.encode))))

/-- The entries stand in all data that start with them and with what they point to. -/
theorem placed_pooled {data : Bytes} (h : HasBytes data 0 (pooledItem ++ pool)) :
    ∃ next, Placed data maxDepth 0 (.ofMembers pooledMembers) next := by
  have hcountry := h.next 322 (by rw [length_pooledItem])
  have hcontinent := hcountry.next 330 (by decide +kernel)
  have hgap := hcontinent.next 340 (by decide +kernel)
  have hcode := hgap.next 2100 (by rw [List.length_replicate])
  have hgap' := hcode.next 2103 (by decide +kernel)
  have hodd := hgap'.next 526400 (by rw [List.length_replicate])
  have htoCountry : PointsTo (pointerBytes 1 1 66) 322 :=
    @PointsTo.short 1 1 66 (by decide) (by decide) (by decide)
  have htoCode : PointsTo (pointerBytes 2 0 52) 2100 :=
    @PointsTo.short 2 0 52 (by decide) (by decide) (by decide)
  have htoOdd : PointsTo (pointerBytes 3 0 64) 526400 :=
    @PointsTo.short 3 0 64 (by decide) (by decide) (by decide)
  have htoContinent : PointsTo (pointerBytes 4 0 330) 330 :=
    @PointsTo.full 0 330 (by decide) (by decide)
  -- what is left of the item behind the control bytes, and behind each key and value
  have h₁ := h.left.right
  have h₂ := h₁.right
  have h₃ := h₂.right
  have h₄ := h₃.right
  have h₅ := h₄.right
  have hkey : Placed data 511 _ (.ofText "country") _ :=
    .pointer htoCountry h₁.left (direct_encode (writable_ofText (by decide)) hcountry.left)
  have hvalue : Placed data 511 _ (.ofText "JP") _ :=
    .pointer htoCode h₂.left (direct_encode (writable_ofText (by decide)) hcode.left)
  have hkey' : Placed data 511 _ (.ofText "asn") _ :=
    placed_encode (writable_ofText (by decide)) h₃.left
  have hvalue' : Placed data 511 _ oddValue _ :=
    .pointer htoOdd h₄.left (direct_encode (writable_oddValue 509) hodd)
  have hkey'' : Placed data 511 _ (.ofText "continent") _ :=
    .pointer htoContinent h₅.left (direct_encode (writable_ofText (by decide)) hcontinent.left)
  have hvalue'' : Placed data 511 _ (.ofText longText) _ :=
    placed_encode (writable_ofText textFits_longText) h₅.right
  have hentries := Pairs.cons hkey hvalue (.cons hkey' hvalue' (.cons hkey'' hvalue'' .nil))
  exact ⟨_, .direct (.map (by decide) h.left.left hentries)⟩

/-- A database with this item. -/
def pooledDatabase : LocalDatabase :=
  ofImage (plainMetadata 4 28 2) quarterRows (pooledItem ++ pool) .embedded

theorem data_pooledDatabase :
    pooledDatabase.data = (pooledItem ++ pool ++ metadataBytes (plainMetadata 4 28 2)).toArray := by
  rw [pooledDatabase, data_image (.inr (.inl rfl)) rfl, List.append_toArray]

theorem find_pooledDatabase : pooledDatabase.find someAddress = .ok (some 0) := by
  have hdata : 0 < (pooledItem ++ pool).length := by
    rw [List.length_append, length_pooledItem]
    omega
  have htree : IsTree 28 quarterRows (pooledItem ++ pool) :=
    isTree_single (.inr (.inl rfl)) hdata (by decide) (by decide)
  exact find_image (m := plainMetadata 4 28 2) (x := someAddress) (.inr (.inl rfl)) rfl htree
    .embedded rfl

/-- The fields of the entries. -/
def pooledTexts : RecordField → Option String
  | .country => some "JP"
  | .continent => some longText
  | _ => none

/-- Behind the pointers of all lengths the texts are found, and the number of 128 bits does no
harm. -/
theorem lookup_of_texts_pooled :
    ofBytes .embedded pooledDatabase.file = .ok pooledDatabase ∧
      pooledDatabase.lookupRecord someAddress =
        .ok { country := "JP", continent := longText } ∧
      pooledDatabase.lookupCode someAddress = .ok "jp" := by
  have hopens : ofBytes .embedded pooledDatabase.file = .ok pooledDatabase :=
    ofBytes_image (writable_plainMetadata (.inl rfl) (.inr (.inl rfl)) (by decide)) _ _ _
  have hbytes : HasBytes pooledDatabase.data 0 (pooledItem ++ pool) := by
    rw [data_pooledDatabase]
    exact hasBytes_toArray [] _ _
  obtain ⟨next, hplaced⟩ := placed_pooled hbytes
  have htexts : ∀ f : RecordField,
      Members.get? f.key pooledMembers = (pooledTexts f).map Value.ofText := by
    intro f
    cases f <;> rfl
  obtain ⟨hrecord, hcode⟩ := lookup_of_texts find_pooledDatabase hplaced (by decide) htexts
  exact ⟨hopens, hrecord, hcode⟩

end LocalDatabase

end CountryLookup
