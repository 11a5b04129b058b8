import CountryLookup.Proofs.Database.Lookup
import CountryLookup.Proofs.Database.Reading
import CountryLookup.Proofs.FieldTexts

/-!
# Records with values of any type

A record is a map with texts as keys. Of a field that is known the whole value is read, whatever its
type, and of any other key the value is passed over, however deep it is nested and however often the
key occurs. So a field whose value is no text is empty, but not in two cases. A number of 128 bits
cannot be held, and if there is one anywhere in the value of a known field, there is no record at all.
And bytes that are UTF-8 count as a text.

## Main results

* `Entries.readEntries` — reading the entries of a record.
* `readRecord_of_recordAt` — reading a record.
* `lookupRecord_of_placed` — the record of an address, and when it is made of its texts alone.
-/

namespace CountryLookup

open Database Text

namespace Database

/-! ## Entries -/

theorem encode_injective {s t : String} (h : Utf8.encode s = Utf8.encode t) : s = t := by
  have hdecode := congrArg Utf8.decode? h
  rw [Utf8.decode?_encode, Utf8.decode?_encode] at hdecode
  exact Option.some.inj hdecode

variable {data : Bytes} {room pos next : Nat}

/-- The entries of a record stand one after the other. What a key holds that is no field is passed
over, so it may be nested to any depth. -/
inductive Entries (data : Bytes) (room : Nat) : Nat → List (String × Value) → Nat → Prop
  | nil {pos : Nat} : Entries data room pos [] pos
  | known {pos mid mid' next : Nat} {k : String} {v : Value} {es : List (String × Value)}
      {f : RecordField} (hf : RecordField.ofKey? k = some f)
      (hk : Placed data room pos (.ofText k) mid) (hv : Placed data room mid v mid')
      (hes : Entries data room mid' es next) : Entries data room pos ((k, v) :: es) next
  | unknown {pos mid mid' next depth : Nat} {k : String} {v : Value} {es : List (String × Value)}
      (hf : RecordField.ofKey? k = none) (hk : Placed data room pos (.ofText k) mid)
      (hv : Placed data depth mid v mid') (hes : Entries data room mid' es next) :
      Entries data room pos ((k, v) :: es) next

theorem Pairs.entries {es : List (String × Value)} (h : Pairs data room pos es next) :
    Entries data room pos es next := by
  induction es generalizing pos with
  | nil =>
      cases h
      exact .nil
  | cons e es ih =>
      cases h with
      | @cons _ _ _ _ _ k _ _ hk hv hes =>
          cases hf : RecordField.ofKey? k with
          | none => exact .unknown hf hk hv (ih hes)
          | some f => exact .known hf hk hv (ih hes)

/-- The fields among the keys of entries, in order. -/
def knownFields (es : List (String × Value)) : List RecordField :=
  es.filterMap fun e => RecordField.ofKey? e.1

/-- The first number of 128 bits in the value of a field. -/
def knownWide? (es : List (String × Value)) : Option Nat :=
  es.findSome? fun e => (RecordField.ofKey? e.1).bind fun _ => e.2.wide?

/-- The texts that the entries of a record give, a text for each of its fields. -/
def knownTexts (es : List (String × Value)) : List (RecordField × String) :=
  es.filterMap fun e => (RecordField.ofKey? e.1).map fun f => (f, e.2.text?.getD "")

section Entry

variable {k : String} {v : Value} {f : RecordField} (es : List (String × Value))

theorem knownFields_cons_of_unknown (h : RecordField.ofKey? k = none) :
    knownFields ((k, v) :: es) = knownFields es := by
  rw [knownFields, List.filterMap_cons, h]
  rfl

theorem knownFields_cons_of_known (h : RecordField.ofKey? k = some f) :
    knownFields ((k, v) :: es) = f :: knownFields es := by
  rw [knownFields, List.filterMap_cons, h]
  rfl

theorem knownWide?_cons_of_unknown (h : RecordField.ofKey? k = none) :
    knownWide? ((k, v) :: es) = knownWide? es := by
  rw [knownWide?, List.findSome?_cons, h]
  rfl

theorem knownWide?_cons_of_known (h : RecordField.ofKey? k = some f) :
    knownWide? ((k, v) :: es) = v.wide?.or (knownWide? es) := by
  rw [knownWide?, List.findSome?_cons, h]
  cases v.wide? <;> rfl

theorem knownTexts_cons_of_unknown (h : RecordField.ofKey? k = none) :
    knownTexts ((k, v) :: es) = knownTexts es :=
  RecordField.textsOf_cons_of_unknown (fun v : Value => v.text?.getD "") h v es

theorem knownTexts_cons_of_known (h : RecordField.ofKey? k = some f) :
    knownTexts ((k, v) :: es) = (f, v.text?.getD "") :: knownTexts es :=
  RecordField.textsOf_cons_of_known (fun v : Value => v.text?.getD "") h v es

end Entry

/-- The value of a known field is read in full, and its text is kept. -/
theorem read_recordShape {v : Value} (f : RecordField) (h : Placed data room pos v next) :
    (recordShape data room).read f pos = unlessWide v.wide? (v.text?.getD "", next) := by
  show (readValue data room pos >>= _) = _
  rw [readValue_of_placed h]
  exact unlessWide_map rfl

theorem field?_recordShape (k : String) :
    (recordShape data room).field? (.name (Utf8.encode k)) = RecordField.ofKey? k := by
  have hkey : ∀ f : RecordField,
      (Utf8.encode f.key == Utf8.encode k) = decide (f.key = k) := by
    intro f
    by_cases h : f.key = k
    · simp [h]
    · have hne : Utf8.encode f.key ≠ Utf8.encode k := fun e => h (encode_injective e)
      simp [h, hne]
  rw [Shape.field?, RecordField.ofKey?]
  show RecordField.all.find? (fun f => Utf8.encode f.key == Utf8.encode k) = _
  simp only [hkey]

/-- **Reading the entries of a record**, behind entries that were seen before. -/
theorem Entries.readEntries {es : List (String × Value)} (h : Entries data room pos es next)
    (hnodup : (knownFields es).Nodup) (seen : List (RecordField × String))
    (hseen : ∀ p ∈ seen, p.1 ∉ knownFields es) :
    Database.readEntries data (recordShape data room) es.length pos seen =
      unlessWide (knownWide? es) (seen.reverse ++ knownTexts es) := by
  induction h generalizing seen with
  | nil =>
      rw [knownTexts, List.filterMap_nil, List.append_nil]
      rfl
  | @unknown _ _ _ _ _ k v es hf hk hv hes ih =>
      rw [knownFields_cons_of_unknown es hf] at hnodup hseen
      rw [List.length_cons, Database.readEntries, readKey_of_placed hk,
        knownWide?_cons_of_unknown es hf, knownTexts_cons_of_unknown es hf]
      simp only [bind, Except.bind, field?_recordShape, hf, pass_of_placed hv]
      exact ih hnodup seen hseen
  | @known _ mid _ _ k v es f hf hk hv hes ih =>
      rw [knownFields_cons_of_known es hf] at hnodup hseen
      obtain ⟨hnew, hnodup⟩ := List.nodup_cons.1 hnodup
      -- the field was not seen before, since its key stands here
      have hfresh : seen.any (fun p => decide (p.1 = f)) = false := by
        rw [List.any_eq_false]
        intro p hp
        simp only [decide_eq_true_eq]
        intro heq
        exact hseen p hp (heq ▸ List.mem_cons_self)
      have hrest := ih hnodup ((f, v.text?.getD "") :: seen) (by
        intro p hp
        rcases List.mem_cons.1 hp with rfl | hp
        · exact hnew
        · exact fun hmem => hseen p hp (List.mem_cons_of_mem f hmem))
      rw [List.reverse_cons, List.append_assoc, List.singleton_append,
        ← knownTexts_cons_of_known es hf] at hrest
      rw [List.length_cons, Database.readEntries, readKey_of_placed hk,
        knownWide?_cons_of_known es hf]
      simp only [bind, Except.bind, field?_recordShape, hf, hfresh, Bool.false_eq_true, if_false]
      show ((recordShape data room).read f mid >>= _) = _
      rw [read_recordShape f hv]
      exact unlessWide_bind hrest

/-! ## Records -/

/-- The record of entries: a text for each field whose value counts as one. -/
def recordOf (es : List (String × Value)) : IpRecord :=
  .ofFn fun f => ((Members.get? f.key es).bind Value.text?).getD ""

/-- The record of the texts among entries. -/
def textRecord (es : List (String × Value)) : IpRecord :=
  .ofFn fun f => match Members.get? f.key es with
    | some (.scalar (.text s)) => s
    | _ => ""

theorem find?_knownTexts (f : RecordField) (es : List (String × Value)) :
    ((knownTexts es).find? fun p => p.1 = f).map (·.2) =
      (Members.get? f.key es).map fun v => v.text?.getD "" :=
  RecordField.find?_textsOf (fun v : Value => v.text?.getD "") f es

theorem ofFields_knownTexts (es : List (String × Value)) :
    IpRecord.ofFields (knownTexts es) = recordOf es := by
  rw [IpRecord.ofFields, recordOf]
  congr 1
  funext f
  rw [find?_knownTexts]
  cases Members.get? f.key es <;> rfl

/-- A map with these entries stands at an offset, and as a record it can be read. -/
structure MapAt (data : Bytes) (room pos : Nat) (es : List (String × Value)) : Prop where
  size : es.length ≤ maxSize
  control : HasBytes data pos (controlBytes .map es.length)
  entries : ∃ next, Entries data room (pos + (controlBytes .map es.length).length) es next

/-- A record with these entries, or a pointer to one, stands at an offset. -/
inductive RecordAt (data : Bytes) (es : List (String × Value)) : Nat → Nat → Prop
  | direct {room pos : Nat} (h : MapAt data room pos es) : RecordAt data es (room + 1) pos
  | pointer {room pos target : Nat} {bs : List UInt8} (hp : PointsTo bs target)
      (hb : HasBytes data pos bs) (h : MapAt data room target es) :
      RecordAt data es (room + 2) pos

/-- A map of the grammar is a record. -/
theorem recordAt_of_placed {es : List (String × Value)}
    (h : Placed data room pos (.ofMembers es) next) : RecordAt data es room pos := by
  cases h with
  | direct h =>
      obtain ⟨inner, rfl, hsize, hb, hes⟩ := h.pairs
      exact .direct ⟨hsize, hb, _, hes.entries⟩
  | pointer hp hpointer h =>
      obtain ⟨inner, rfl, hsize, hb, hes⟩ := h.pairs
      exact .pointer hp hpointer ⟨hsize, hb, _, hes.entries⟩

/-- The entries of a record are reached, also if a pointer leads to it. -/
theorem RecordAt.reach {es : List (String × Value)} (h : RecordAt data es room pos) :
    ∃ r last, Database.reach data room none pos = .ok r ∧ r.head = .map es.length ∧
      Entries data r.room r.next es last := by
  cases h with
  | @direct room _ h =>
      obtain ⟨last, hes⟩ := h.entries
      exact ⟨_, last, (headAt_map h.control h.size).reach_map room none, rfl, hes⟩
  | @pointer room _ target bs hp hb h =>
      obtain ⟨hd, hheader, hnumber, htarget⟩ := hp.header hb
      obtain ⟨last, hes⟩ := h.entries
      refine ⟨⟨.map es.length, target + (controlBytes .map es.length).length, room,
        some (pos + bs.length)⟩, last, ?_, rfl, hes⟩
      rw [Database.reach, hheader]
      simp only [bind, Except.bind, hnumber, if_true, htarget]
      exact (headAt_map h.control h.size).reach_map room _

/-- **A record is read**, unless a number of 128 bits is in one of its fields. -/
theorem readRecord_of_recordAt {es : List (String × Value)} (h : RecordAt data es maxDepth pos)
    (hnodup : (knownFields es).Nodup) :
    readRecord data pos = unlessWide (knownWide? es) (.ofFields (knownTexts es)) := by
  obtain ⟨r, last, hreach, hhead, hes⟩ := h.reach
  have hentries := hes.readEntries hnodup [] (by simp)
  rw [readRecord, hreach]
  simp only [bind, Except.bind, hhead, hentries]
  cases knownWide? es <;> rfl

/-- Of keys that occur once, fields are named once. -/
theorem nodup_knownFields {es : List (String × Value)} (h : (Members.names es).Nodup) :
    (knownFields es).Nodup := by
  have hfields : knownFields es = (Members.names es).filterMap RecordField.ofKey? := by
    rw [knownFields, Members.names, List.filterMap_map]
    rfl
  rw [hfields]
  exact RecordField.nodup_filterMap_ofKey? h

theorem readRecord_of_placed {es : List (String × Value)}
    (h : Placed data maxDepth pos (.ofMembers es) next) (hnodup : (Members.names es).Nodup) :
    readRecord data pos = unlessWide (knownWide? es) (recordOf es) := by
  rw [readRecord_of_recordAt (recordAt_of_placed h) (nodup_knownFields hnodup),
    ofFields_knownTexts]

theorem knownWide?_eq_none_iff {es : List (String × Value)} (hnodup : (Members.names es).Nodup) :
    knownWide? es = none ↔
      ∀ (f : RecordField) (v : Value), Members.get? f.key es = some v → v.wide? = none := by
  rw [knownWide?, List.findSome?_eq_none_iff]
  constructor
  · intro h f v hv
    have hentry := h (f.key, v) (Members.mem_of_get? hv)
    rwa [RecordField.ofKey?_eq_some_iff.2 rfl] at hentry
  · rintro h ⟨k, v⟩ hmem
    cases hf : RecordField.ofKey? k with
    | none => rfl
    | some f =>
        obtain rfl := RecordField.ofKey?_eq_some_iff.1 hf
        exact h f v (Members.get?_of_mem hnodup hmem)

/-- The record is that of the texts if no bytes are taken for a text, but for the empty one. -/
theorem recordOf_eq_textRecord_iff (es : List (String × Value)) :
    recordOf es = textRecord es ↔
      ∀ (f : RecordField) (bs : List UInt8) (t : String),
        Members.get? f.key es = some (.scalar (.bytes bs)) → Utf8.decode? bs = some t →
          t = "" := by
  constructor
  · intro h f bs t hbytes htext
    have hfield := congrArg (fun r => IpRecord.get r f) h
    simpa [recordOf, textRecord, hbytes, Value.text?, htext] using hfield
  · intro h
    rw [recordOf, textRecord]
    congr 1
    funext f
    cases hv : Members.get? f.key es with
    | none => rfl
    | some v =>
        cases v with
        | array vs => rfl
        | map es => rfl
        | scalar s =>
            cases s with
            | bytes bs =>
                show (Utf8.decode? bs).getD "" = ""
                cases htext : Utf8.decode? bs with
                | none => rfl
                | some t => exact h f bs t hv htext
            | _ => rfl

end Database

namespace LocalDatabase

/-- What a database answers for an address whose item is a map of the grammar. -/
theorem lookupRecord_eq {db : LocalDatabase} {x : Address} {offset next : Nat}
    {es : List (String × Value)} (hfind : db.find x = .ok (some offset))
    (hitem : Placed db.data maxDepth offset (.ofMembers es) next)
    (hnodup : (Members.names es).Nodup) :
    db.lookupRecord x = (unlessWide (knownWide? es) (recordOf es)).mapError fun e =>
      ⟨.codeNotFound, x.render ++ ": undecodable record: " ++ e.message⟩ := by
  rw [lookupRecord, hfind]
  dsimp only
  rw [readRecord_of_placed hitem hnodup]
  cases knownWide? es <;> rfl

/-- **The record of an address** whose item is a map with texts as keys, each of them once, and any
values of the grammar. It is read unless the value of a field has a number of 128 bits in it, which
the error then names. It is made of the texts under the names of its fields, and of nothing else, just
if there is no such number and no field has bytes that are a text, but for the empty one. -/
theorem lookupRecord_of_placed {db : LocalDatabase} {x : Address} {offset next : Nat}
    {es : List (String × Value)} (hfind : db.find x = .ok (some offset))
    (hitem : Placed db.data maxDepth offset (.ofMembers es) next)
    (hnodup : (Members.names es).Nodup) :
    (knownWide? es = none → db.lookupRecord x = .ok (recordOf es)) ∧
      (∀ n, knownWide? es = some n → db.lookupRecord x =
        .error ⟨.codeNotFound, x.render ++ ": undecodable record: " ++ (Failure.wide n).message⟩) ∧
      (db.lookupRecord x = .ok (textRecord es) ↔
        ∀ (f : RecordField) (v : Value), Members.get? f.key es = some v →
          v.wide? = none ∧
            ∀ bs t, v = .scalar (.bytes bs) → Utf8.decode? bs = some t → t = "") := by
  have hanswer := lookupRecord_eq hfind hitem hnodup
  have hread : knownWide? es = none → db.lookupRecord x = .ok (recordOf es) := by
    intro hwide
    rw [hanswer, hwide]
    rfl
  have hrefused : ∀ n, knownWide? es = some n → db.lookupRecord x =
      .error ⟨.codeNotFound, x.render ++ ": undecodable record: " ++ (Failure.wide n).message⟩ := by
    intro n hwide
    rw [hanswer, hwide]
    rfl
  refine ⟨hread, hrefused, ?_⟩
  constructor
  · intro h
    cases hwide : knownWide? es with
    | some n =>
        rw [hrefused n hwide] at h
        cases h
    | none =>
        rw [hread hwide] at h
        have hvalues := (knownWide?_eq_none_iff hnodup).1 hwide
        have hbytes := (recordOf_eq_textRecord_iff es).1 (Except.ok.inj h)
        intro f v hv
        refine ⟨hvalues f v hv, ?_⟩
        rintro bs t rfl htext
        exact hbytes f bs t hv htext
  · intro h
    have hwide := (knownWide?_eq_none_iff hnodup).2 fun f v hv => (h f v hv).1
    have hsame := (recordOf_eq_textRecord_iff es).2 fun f bs t hv htext =>
      (h f _ hv).2 bs t rfl htext
    rw [hread hwide, hsame]

/-! ## Two databases -/

/-- A database that holds a map for the addresses that do not start with two zero bits. -/
def quarterDatabase (es : List (String × Value)) : LocalDatabase :=
  ofImage (plainMetadata 4 28 2) quarterRows (Value.ofMembers es).encode .embedded

theorem ofBytes_quarterDatabase (es : List (String × Value)) :
    ofBytes .embedded (quarterDatabase es).file = .ok (quarterDatabase es) :=
  ofBytes_image (writable_plainMetadata (.inl rfl) (.inr (.inl rfl)) (by decide)) _ _ _

theorem placed_quarterDatabase {es : List (String × Value)}
    (h : Writable maxDepth (.ofMembers es)) :
    ∃ next, Placed (quarterDatabase es).data maxDepth 0 (.ofMembers es) next := by
  have hdata : (quarterDatabase es).data = ([] ++ (Value.ofMembers es).encode ++
      metadataBytes (plainMetadata 4 28 2)).toArray := by
    rw [quarterDatabase, data_image (.inr (.inl rfl)) rfl]
    simp
  rw [hdata]
  exact ⟨_, placed_encode h (hasBytes_toArray [] _ _)⟩

/-- A number where a code should be, and a key that nobody knows with a number of 128 bits. -/
def oddMembers : List (String × Value) :=
  [ ("country_code", .ofNat 7), ("asn", .array [.scalar (.uint128 5)]), ("country", .ofText "JP") ]

/-- An address in the database. -/
def someAddress : Address := .v4 ⟨128, 0, 0, 1⟩

/-- Neither the odd type nor the number behind the unknown key does any harm. -/
theorem lookupRecord_of_placed_odd :
    ofBytes .embedded (quarterDatabase oddMembers).file = .ok (quarterDatabase oddMembers) ∧
      (quarterDatabase oddMembers).lookupRecord someAddress = .ok { country := "JP" } := by
  have hvalue : ∀ e ∈ oddMembers, Writable 511 e.2 := by
    intro e he
    simp only [oddMembers, List.mem_cons, List.not_mem_nil, or_false] at he
    rcases he with rfl | rfl | rfl
    · exact .scalar (.unsigned .uint32 (show 1 ≤ 4 by decide) (show 7 < twoTo 8 by decide)) rfl
    · refine .array (by decide) ?_
      intro v hv
      rw [List.mem_singleton.1 hv]
      exact .scalar (.uint128 (show 1 ≤ 16 by decide) (show 5 < twoTo 8 by decide)) rfl
    · exact writable_ofText (by decide +kernel)
  have hwritable : Writable maxDepth (.ofMembers oddMembers) :=
    .map (by decide) (by decide +kernel) hvalue
  obtain ⟨next, hplaced⟩ := placed_quarterDatabase hwritable
  have hanswer := (lookupRecord_of_placed (x := someAddress) (by decide +kernel) hplaced
    (by decide)).1 rfl
  exact ⟨ofBytes_quarterDatabase oddMembers, hanswer⟩

/-- A number of 128 bits where a code should be. -/
def wideMembers : List (String × Value) :=
  [("country_code", .scalar (.uint128 7)), ("continent_code", .ofText "EU")]

/-- **One field of a wrong type spoils the record,** although the others are texts. -/
theorem lookupRecord_wideMembers :
    ofBytes .embedded (quarterDatabase wideMembers).file = .ok (quarterDatabase wideMembers) ∧
      (quarterDatabase wideMembers).find someAddress = .ok (some 0) ∧
      (∃ next, Placed (quarterDatabase wideMembers).data maxDepth 0 (.ofMembers wideMembers) next) ∧
      (Members.names wideMembers).Nodup ∧
      textRecord wideMembers = { continentCode := "EU" } ∧
      ∃ e, (quarterDatabase wideMembers).lookupRecord someAddress = .error e := by
  have hvalue : ∀ e ∈ wideMembers, Writable 511 e.2 := by
    intro e he
    simp only [wideMembers, List.mem_cons, List.not_mem_nil, or_false] at he
    rcases he with rfl | rfl
    · exact .scalar (.uint128 (show 1 ≤ 16 by decide) (show 7 < twoTo 8 by decide)) rfl
    · exact writable_ofText (by decide +kernel)
  have hwritable : Writable maxDepth (.ofMembers wideMembers) :=
    .map (by decide) (by decide +kernel) hvalue
  obtain ⟨next, hplaced⟩ := placed_quarterDatabase hwritable
  have hfind : (quarterDatabase wideMembers).find someAddress = .ok (some 0) := by decide +kernel
  exact ⟨ofBytes_quarterDatabase wideMembers, hfind, ⟨next, hplaced⟩, by decide, rfl, _,
    lookupRecord_eq hfind hplaced (by decide)⟩

end LocalDatabase

end CountryLookup
