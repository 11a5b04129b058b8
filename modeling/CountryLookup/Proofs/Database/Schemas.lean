import CountryLookup.Proofs.Database.Encodings

/-!
# The two schemas

Databases of one kind keep codes under `country` and `continent`, and names under `country_name` and
`continent_name`. Those of the other kind keep names under `country` and `continent`, and codes
under `country_code` and `continent_code`. Nothing in a record says of which kind it is. It need
not: the fields are asked in one order, and under the two keys that serve for both a code has two
bytes and a name has not. So what is said about a network in either way has one code.

## Main results

* `ofFields_perm` — a record does not depend on the order of its texts.
* `code?_texts` — either schema gives the code of the country, or else that of the continent.
* `lookupCode_schemas` — two databases that say the same about an address give the same code.
-/

namespace CountryLookup

open Database Text

/-! ## What is said about a network -/

/-- A country and a continent, each with a code and a name. -/
structure Whereabouts where
  country : String
  countryName : String
  continent : String
  continentName : String
  deriving Repr, DecidableEq

namespace Whereabouts

/-- Codes are missing or have two bytes, and names have another length. -/
structure Coded (w : Whereabouts) : Prop where
  country : w.country = "" ∨ IpRecord.isTwoLetter w.country = true
  countryName : IpRecord.isTwoLetter w.countryName = false
  continent : w.continent = "" ∨ IpRecord.isTwoLetter w.continent = true
  continentName : IpRecord.isTwoLetter w.continentName = false

/-- The code of the country, or else that of the continent. -/
def code? (w : Whereabouts) : Option String :=
  if w.country ≠ "" then some (lowercase w.country)
  else if w.continent ≠ "" then some (lowercase w.continent)
  else none

end Whereabouts

/-- The kinds of databases, by what they keep under `country` and `continent`. -/
inductive Schema where
  | codes | names
  deriving Repr, DecidableEq

namespace Schema

/-- The texts of a record, by field. -/
def texts (w : Whereabouts) : Schema → List (RecordField × String)
  | codes =>
    [ (.country, w.country), (.countryName, w.countryName), (.continent, w.continent),
      (.continentName, w.continentName)]
  | names =>
    [ (.countryCode, w.country), (.country, w.countryName), (.continentCode, w.continent),
      (.continent, w.continentName)]

/-- The entries of a record. -/
def entries (s : Schema) (w : Whereabouts) : List (String × Value) :=
  (s.texts w).map fun t => (t.1.key, .ofText t.2)

/-- Among these entries those of the fields are the ones of the schema, in any order. -/
def Describes (s : Schema) (w : Whereabouts) (es : List (String × Value)) : Prop :=
  (es.filter fun e => (RecordField.ofKey? e.1).isSome).Perm (s.entries w)

end Schema

/-- A database holds a record of a schema for an address. -/
def LocalDatabase.Stores (db : LocalDatabase) (x : Address) (s : Schema) (w : Whereabouts) : Prop :=
  ∃ offset es, db.find x = .ok (some offset) ∧ RecordAt db.data es maxDepth offset ∧
    s.Describes w es

/-- Of a code that may be missing, the length says whether it is there. -/
theorem isTwoLetter_iff {t : String} (h : t = "" ∨ IpRecord.isTwoLetter t = true) :
    IpRecord.isTwoLetter t = true ↔ t ≠ "" := by
  constructor
  · rintro htwo rfl
    cases htwo
  · exact h.resolve_left

/-! ## The record -/

theorem map_fst_knownTexts (es : List (String × Value)) :
    (knownTexts es).map (·.1) = knownFields es := by
  rw [knownTexts, knownFields, List.map_filterMap]
  congr 1
  funext e
  cases RecordField.ofKey? e.1 <;> rfl

theorem find?_perm {fs gs : List (RecordField × String)} (h : fs.Perm gs)
    (hnodup : (fs.map (·.1)).Nodup) (f : RecordField) :
    fs.find? (fun p => p.1 = f) = gs.find? fun p => p.1 = f := by
  induction h with
  | nil => rfl
  | cons p _ ih =>
      rw [List.map_cons, List.nodup_cons] at hnodup
      rw [List.find?_cons, List.find?_cons, ih hnodup.2]
  | swap p q fs =>
      rw [List.map_cons, List.map_cons, List.nodup_cons, List.mem_cons, not_or] at hnodup
      have hne : q.1 ≠ p.1 := hnodup.1.1
      rw [List.find?_cons, List.find?_cons, List.find?_cons, List.find?_cons]
      by_cases hp : p.1 = f
      · have hq : ¬ q.1 = f := fun hq => hne (hq.trans hp.symm)
        simp [hp, hq]
      · simp [hp]
  | trans h _ ih ih' => rw [ih hnodup, ih' ((h.map _).nodup_iff.1 hnodup)]

/-- **A record does not depend on the order of its texts.** -/
theorem ofFields_perm {fs gs : List (RecordField × String)} (h : fs.Perm gs)
    (hnodup : (fs.map (·.1)).Nodup) : IpRecord.ofFields fs = IpRecord.ofFields gs := by
  rw [IpRecord.ofFields, IpRecord.ofFields]
  congr 1
  funext f
  rw [find?_perm h hnodup f]

namespace Schema

variable {s : Schema} {w : Whereabouts} {es : List (String × Value)}

theorem knownTexts_entries (s : Schema) (w : Whereabouts) :
    knownTexts (s.entries w) = s.texts w := by
  cases s <;> rfl

theorem nodup_texts (s : Schema) (w : Whereabouts) : ((s.texts w).map (·.1)).Nodup := by
  cases s with
  | codes =>
      show [RecordField.country, .countryName, .continent, .continentName].Nodup
      decide
  | names =>
      show [RecordField.countryCode, .country, .continentCode, .continent].Nodup
      decide

/-- Keys that are no fields give no texts. -/
theorem knownTexts_filter (es : List (String × Value)) :
    knownTexts (es.filter fun e => (RecordField.ofKey? e.1).isSome) = knownTexts es := by
  rw [knownTexts, knownTexts, List.filterMap_filter]
  congr 1
  funext e
  cases RecordField.ofKey? e.1 <;> rfl

theorem Describes.knownTexts_perm (h : s.Describes w es) :
    (knownTexts es).Perm (s.texts w) := by
  rw [← knownTexts_filter, ← knownTexts_entries]
  exact h.filterMap _

theorem Describes.nodup_knownTexts (h : s.Describes w es) :
    ((knownTexts es).map (·.1)).Nodup :=
  (h.knownTexts_perm.map _).nodup_iff.2 (s.nodup_texts w)

/-- No number is in a field, as all of them are texts. -/
theorem Describes.knownWide? (h : s.Describes w es) : Database.knownWide? es = none := by
  rw [Database.knownWide?, List.findSome?_eq_none_iff]
  intro e he
  cases hf : RecordField.ofKey? e.1 with
  | none => rfl
  | some f =>
      have hknown : e ∈ es.filter fun e => (RecordField.ofKey? e.1).isSome :=
        List.mem_filter.2 ⟨he, by rw [hf]; rfl⟩
      obtain ⟨t, -, rfl⟩ := List.mem_map.1 (h.mem_iff.1 hknown)
      rfl

/-- **Either schema gives the code of the country, or else that of the continent.** -/
theorem code?_texts (hw : w.Coded) (s : Schema) :
    (IpRecord.ofFields (s.texts w)).code? = w.code? := by
  cases s with
  | codes =>
      have hrecord : IpRecord.ofFields (texts w .codes) =
          { country := w.country, countryName := w.countryName, continent := w.continent,
            continentName := w.continentName } := rfl
      have hcountry := isTwoLetter_iff hw.country
      have hcontinent := isTwoLetter_iff hw.continent
      have hempty : IpRecord.isTwoLetter "" = false := rfl
      rw [hrecord, IpRecord.code?, IpRecord.source?, Whereabouts.code?]
      by_cases h : w.country = ""
      · by_cases h' : w.continent = ""
        · simp [h, h', hempty]
        · simp [h, h', hempty, hcontinent]
      · simp [h, hcountry]
  | names =>
      have hrecord : IpRecord.ofFields (texts w .names) =
          { countryCode := w.country, country := w.countryName, continentCode := w.continent,
            continent := w.continentName } := rfl
      rw [hrecord, IpRecord.code?, IpRecord.source?, Whereabouts.code?]
      by_cases h : w.country = ""
      · by_cases h' : w.continent = ""
        · simp [h, h', hw.countryName, hw.continentName]
        · simp [h, h', hw.countryName]
      · simp [h]

end Schema

namespace LocalDatabase

/-- The record of a schema is read, whatever else stands among its entries. -/
theorem Stores.lookupRecord {db : LocalDatabase} {x : Address} {s : Schema} {w : Whereabouts}
    (h : db.Stores x s w) : db.lookupRecord x = .ok (.ofFields (s.texts w)) := by
  obtain ⟨offset, es, hfind, hitem, hes⟩ := h
  have hread : readRecord db.data offset = .ok (.ofFields (s.texts w)) := by
    rw [readRecord_of_recordAt hitem (map_fst_knownTexts es ▸ hes.nodup_knownTexts), hes.knownWide?,
      ← ofFields_perm hes.knownTexts_perm (hes.nodup_knownTexts)]
    rfl
  rw [LocalDatabase.lookupRecord, hfind]
  dsimp only
  rw [hread]

/-- **Two databases that say the same about an address give the same code**, or none of them has
one, whichever of the two schemas each of them is of. The entries may stand in any order, other keys
may be among them, and these may hold anything. The code is that of the country, or else that of the
continent. -/
theorem lookupCode_schemas {db db' : LocalDatabase} {x : Address} {s s' : Schema}
    {w : Whereabouts} (hw : w.Coded) (h : db.Stores x s w) (h' : db'.Stores x s' w) :
    db.lookupCode x = db'.lookupCode x ∧
      db.lookupCode x = match w.code? with
        | some code => .ok code
        | none => .error ⟨.codeNotFound, "IP not found: " ++ x.render⟩ := by
  have hcode : ∀ (d : LocalDatabase) (t : Schema), d.Stores x t w →
      d.lookupCode x = match w.code? with
        | some code => .ok code
        | none => .error ⟨.codeNotFound, "IP not found: " ++ x.render⟩ := by
    intro d t hd
    have hanswer := lookupCode_of_ok hd.lookupRecord
    rw [codeOf, t.code?_texts hw] at hanswer
    exact hanswer
  exact ⟨(hcode db s h).trans (hcode db' s' h').symm, hcode db s h⟩

/-- A country and a continent with codes. -/
def japan : Whereabouts := ⟨"JP", "Japan", "AS", "Asia"⟩

/-- Four texts, with a key that is no field before them and behind them. It holds a number of 128
bits. -/
def mixedMembers (texts : List (RecordField × String)) : List (String × Value) :=
  ("asn", oddValue) :: (texts.map fun t => (t.1.key, .ofText t.2)) ++ [("asn", oddValue)]

theorem stores_mixedMembers {texts : List (RecordField × String)} {s : Schema} {w : Whereabouts}
    (hperm : texts.Perm (s.texts w)) (hsize : (mixedMembers texts).length ≤ maxSize)
    (hfits : ∀ t ∈ texts, TextFits t.1.key ∧ TextFits t.2)
    (hfind : (quarterDatabase (mixedMembers texts)).find someAddress = .ok (some 0)) :
    (quarterDatabase (mixedMembers texts)).Stores someAddress s w := by
  have hknown : (mixedMembers texts).filter (fun e => (RecordField.ofKey? e.1).isSome) =
      texts.map fun t => (t.1.key, .ofText t.2) := by
    have hodd : RecordField.ofKey? "asn" = none := rfl
    have hall : ∀ e ∈ texts.map (fun t => (t.1.key, Value.ofText t.2)),
        (RecordField.ofKey? e.1).isSome = true := by
      intro e he
      obtain ⟨t, -, rfl⟩ := List.mem_map.1 he
      rw [RecordField.ofKey?_eq_some_iff.2 rfl]
      rfl
    rw [mixedMembers, List.filter_append, List.filter_cons, hodd, List.filter_eq_self.2 hall,
      List.filter_cons, hodd]
    simp
  have hwritable : ∀ e ∈ mixedMembers texts, TextFits e.1 ∧ Writable 511 e.2 := by
    have hodd : TextFits "asn" ∧ Writable 511 oddValue := ⟨by decide, writable_oddValue 510⟩
    intro e he
    rw [mixedMembers, List.mem_append, List.mem_cons, List.mem_singleton] at he
    rcases he with (rfl | he) | rfl
    · exact hodd
    · obtain ⟨t, ht, rfl⟩ := List.mem_map.1 he
      exact ⟨(hfits t ht).1, writable_ofText (hfits t ht).2⟩
    · exact hodd
  obtain ⟨next, hplaced⟩ := placed_quarterDatabase
    (.map hsize (fun e he => (hwritable e he).1) fun e he => (hwritable e he).2)
  refine ⟨0, mixedMembers texts, hfind, recordAt_of_placed hplaced, ?_⟩
  rw [Schema.Describes, hknown]
  exact hperm.map _

/-- A database of either schema. -/
def japanDatabase (s : Schema) : LocalDatabase :=
  quarterDatabase (mixedMembers (s.texts japan).reverse)

theorem stores_japanDatabase (s : Schema) : (japanDatabase s).Stores someAddress s japan := by
  refine stores_mixedMembers (List.reverse_perm _) ?_ ?_ ?_
  · cases s <;> decide
  · cases s <;> decide +kernel
  · cases s <;> decide +kernel

/-- Japan is found in a database of the one schema and in one of the other. -/
theorem lookupCode_schemas_japan :
    (∀ s, ofBytes .embedded (japanDatabase s).file = .ok (japanDatabase s)) ∧ japan.Coded ∧
      (∀ s, (japanDatabase s).Stores someAddress s japan) ∧
      (japanDatabase .codes).lookupCode someAddress = .ok "jp" ∧
      (japanDatabase .names).lookupCode someAddress = .ok "jp" := by
  have hcoded : japan.Coded := ⟨.inr rfl, rfl, .inr rfl, rfl⟩
  obtain ⟨hsame, hcode⟩ := lookupCode_schemas hcoded (stores_japanDatabase .codes)
    (stores_japanDatabase .names)
  exact ⟨fun s => ofBytes_quarterDatabase _, hcoded, stores_japanDatabase, hcode,
    hsame.symm.trans hcode⟩

end LocalDatabase

end CountryLookup
