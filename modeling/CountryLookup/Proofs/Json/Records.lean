import CountryLookup.Proofs.FieldTexts
import CountryLookup.Proofs.Json.Documents
import CountryLookup.Proofs.Json.Magnitudes
import CountryLookup.Proofs.Json.Recognition
import CountryLookup.Record.Json
import Mathlib.Logic.Relation

/-!
# Records of JSON objects

An object whose keys are distinct is a record, however it is written: a field has the text of the
member under its key, and no text if there is no such member or if it holds anything else. The members
are read one after the other, and what has been read so far is kept in front of what is still to come,
so that at the end every text is there once.

A member that no field asks for is only passed over, so nothing is asked of its depth and of its
numbers. The code of a record depends on four of the fields, and each of these on one member, so an
object may be rearranged, get members that no field asks for, lose such members and change its names,
and the code stays the same.

## Main results

* `ofMembers?_of_content` — members are read by key.
* `parse?_of_object` — an object is read as the record of its texts.
* `parse?_by_key` — the texts of the record, and the code after edits.
-/

namespace CountryLookup

open Json

/-- The text of a content: itself if it is a text, and empty if it is anything else. -/
def Json.Content.asText : Content → String
  | .text s => s
  | _ => ""

namespace IpRecord

/-- The text of the member under a key, which is empty if there is none. -/
def memberText (key : String) (ms : List (String × Content)) : String :=
  ((Members.get? key ms).map Content.asText).getD ""

/-! ## Reading members -/

theorem fieldOfKey?_eq (key : List Char) :
    fieldOfKey? key = RecordField.ofKey? (String.ofList key) := by
  rw [fieldOfKey?, RecordField.ofKey?]
  congr 1
  funext f
  rw [Bool.eq_iff_iff, beq_iff_eq, decide_eq_true_eq]
  constructor
  · rintro rfl
    exact String.ofList_toList.symm
  · intro h
    rw [h, String.toList_ofList]

theorem fieldText_of_content {v : Json.Value} {d : Content} (h : v.content? = some d) :
    fieldText v = d.asText := by
  cases v with
  | text us =>
      obtain ⟨cs, hcs, rfl⟩ := Option.map_eq_some_iff.1 h
      rw [fieldText, hcs]
      rfl
  | array vs =>
      obtain ⟨ds, -, rfl⟩ := Option.map_eq_some_iff.1 h
      rfl
  | object ms =>
      obtain ⟨ds, -, rfl⟩ := Option.map_eq_some_iff.1 h
      rfl
  | _ =>
      cases h
      rfl

/-- The members under the keys of fields are within the limits of nesting and of numbers. -/
def KnownWithin (ms : List (String × Content)) : Prop :=
  ∀ m ∈ ms, (RecordField.ofKey? m.1).isSome → m.2.Within (maxDepth - 1)

instance (ms : List (String × Content)) : Decidable (KnownWithin ms) :=
  inferInstanceAs (Decidable (∀ m ∈ ms, _ → _))

/-- If a whole object is within the limits, these members are. -/
theorem KnownWithin.of_within {ms : List (String × Content)}
    (h : (Content.object ms).Within maxDepth) : KnownWithin ms :=
  fun _ hm _ => h.member hm

/-- For numbers it is enough that they are not too large. -/
theorem KnownWithin.of_isModerate {ms : List (String × Content)}
    (hdepth : (Content.object ms).depth ≤ maxDepth)
    (hnumbers : ∀ x ∈ (Content.object ms).numbers, x.IsModerate) : KnownWithin ms :=
  .of_within (Content.within_of_isModerate hdepth hnumbers)

/-- **Members are read by key**: those of fields give their texts, and the others nothing. -/
theorem ofMembers?_of_content {vs : List (List Part × Json.Value)} {ms : List (String × Content)}
    (h : contentMembers? vs = some ms) (hwithin : KnownWithin ms)
    {seen : List (RecordField × String)}
    (hnodup : ((seen ++ RecordField.textsOf Content.asText ms).map (·.1)).Nodup) :
    ofMembers? seen vs = some (seen.reverse ++ RecordField.textsOf Content.asText ms) := by
  induction vs generalizing seen ms with
  | nil =>
      cases h
      rw [ofMembers?, RecordField.textsOf, List.filterMap_nil, List.append_nil]
  | cons m vs ih =>
      obtain ⟨k, v⟩ := m
      obtain ⟨key, d, rest, hk, hv, hvs, rfl⟩ := contentMembers?_cons h
      have hrest : KnownWithin rest := fun m hm => hwithin m (List.mem_cons_of_mem _ hm)
      rw [ofMembers?, hk]
      simp only [Option.bind_eq_bind, Option.bind_some, fieldOfKey?_eq]
      cases hf : RecordField.ofKey? (String.ofList key) with
      | none =>
          rw [RecordField.textsOf_cons_of_unknown _ hf] at hnodup ⊢
          exact ih hvs hrest hnodup
      | some f =>
          rw [RecordField.textsOf_cons_of_known _ hf] at hnodup ⊢
          have hd := hwithin _ List.mem_cons_self (by rw [hf]; rfl)
          have hsound : v.sound (maxDepth - 1) = true := sound_of_within hv hd.depth hd.numbers
          -- The text that was just read moves from what is to come to what was read.
          have hnext : (((f, d.asText) :: seen ++
              RecordField.textsOf Content.asText rest).map (·.1)).Nodup :=
            (List.perm_middle.map _).nodup_iff.1 hnodup
          have hnew : (seen.any fun p => p.1 = f) = false := by
            rw [List.any_eq_false]
            intro p hp hpf
            refine (List.nodup_cons.1 hnext).1 (List.mem_map.2 ⟨p, List.mem_append_left _ hp, ?_⟩)
            exact of_decide_eq_true hpf
          simp only [hnew, hsound, Bool.not_true, Bool.or_false, Bool.false_eq_true, if_false,
            fieldText_of_content hv]
          rw [ih hvs hrest hnext, List.reverse_cons, List.append_assoc]
          rfl

/-- The record of an object: each field has the text of the member under its key. -/
theorem get_ofFields_textsOf (ms : List (String × Content)) (f : RecordField) :
    (ofFields (RecordField.textsOf Content.asText ms)).get f = memberText f.key ms := by
  rw [ofFields, get_ofFn, RecordField.find?_textsOf, memberText]

/-- A text that is an object with these members: their keys are distinct, and those under the keys of
fields are within the limits. -/
structure IsObject (s : String) (ms : List (String × Content)) : Prop where
  denotes : Denotes s (.object ms)
  distinct : (Members.names ms).Nodup
  within : KnownWithin ms

/-- A text is an object with one list of members alone. -/
theorem IsObject.unique {s : String} {ms ns : List (String × Content)} (h : IsObject s ms)
    (h' : IsObject s ns) : ms = ns := by
  cases h.denotes.unique h'.denotes
  rfl

/-- **An object is read as the record of its texts**, whatever its other members hold. -/
theorem parse?_of_object {s : String} {ms : List (String × Content)} (h : IsObject s ms) :
    ∃ r, parse? s = some r ∧ ∀ f : RecordField, r.get f = memberText f.key ms := by
  obtain ⟨v, hparse, hmeans⟩ := parse?_of_denotes h.denotes
  obtain ⟨vs, rfl, hvs⟩ := content?_eq_object hmeans
  have hread : ofMembers? [] vs = some ([] ++ RecordField.textsOf Content.asText ms) :=
    ofMembers?_of_content hvs h.within (RecordField.nodup_textsOf _ h.distinct)
  refine ⟨_, ?_, get_ofFields_textsOf ms⟩
  rw [parse?, hparse]
  show (ofMembers? [] vs).map ofFields = _
  rw [hread]
  rfl

/-! ## Edits -/

/-- The fields that hold names. -/
def IsName (f : RecordField) : Prop := f = .countryName ∨ f = .continentName

/-- An edit of the members of an object that no code depends on: they are put in another order, or a
member that is no field or that is a name comes to them. -/
inductive Edit : List (String × Content) → List (String × Content) → Prop where
  | permute {ms ns : List (String × Content)} (h : ms.Perm ns) : Edit ms ns
  | unknown {ms : List (String × Content)} {k : String} (h : RecordField.ofKey? k = none)
    (d : Content) : Edit ms ((k, d) :: ms)
  | name {ms : List (String × Content)} {f : RecordField} (h : IsName f) (d : Content) :
    Edit ms ((f.key, d) :: ms)

/-- An edit leaves the members of all other fields. -/
theorem Edit.mem_iff {ms ns : List (String × Content)} (h : Edit ms ns) {f : RecordField}
    (hf : ¬ IsName f) (d : Content) : (f.key, d) ∈ ns ↔ (f.key, d) ∈ ms := by
  cases h with
  | permute h => exact h.mem_iff.symm
  | @unknown k hk e =>
      have hne : (f.key, d) ≠ (k, e) := by
        intro heq
        rw [← (Prod.mk.inj heq).1, RecordField.ofKey?_eq_some_iff.2 rfl] at hk
        cases hk
      rw [List.mem_cons, or_iff_right hne]
  | @name g hg e =>
      have hne : (f.key, d) ≠ (g.key, e) := by
        intro heq
        exact hf (RecordField.key_injective (Prod.mk.inj heq).1 ▸ hg)
      rw [List.mem_cons, or_iff_right hne]

/-- So do any edits, made and taken back. -/
theorem mem_iff_of_edits {ms ns : List (String × Content)} (h : Relation.EqvGen Edit ms ns)
    {f : RecordField} (hf : ¬ IsName f) (d : Content) : (f.key, d) ∈ ns ↔ (f.key, d) ∈ ms := by
  induction h with
  | rel _ _ h => exact h.mem_iff hf d
  | refl _ => exact Iff.rfl
  | symm _ _ _ ih => exact ih.symm
  | trans _ _ _ _ _ ih₁ ih₂ => exact ih₂.trans ih₁

/-- If their keys are distinct, the text of such a field is the same before and after. -/
theorem memberText_of_edits {ms ns : List (String × Content)} (h : Relation.EqvGen Edit ms ns)
    (hms : (Members.names ms).Nodup) (hns : (Members.names ns).Nodup) {f : RecordField}
    (hf : ¬ IsName f) : memberText f.key ns = memberText f.key ms := by
  have hget : Members.get? f.key ns = Members.get? f.key ms := by
    refine Option.ext fun d => ?_
    rw [Members.get?_eq_some_iff hns, Members.get?_eq_some_iff hms, mem_iff_of_edits h hf]
  rw [memberText, memberText, hget]

/-- The code depends on the fields that are no names. -/
theorem code?_congr {r r' : IpRecord} (h : ∀ f, ¬ IsName f → r'.get f = r.get f) :
    r'.code? = r.code? := by
  have hcountryCode : r'.countryCode = r.countryCode := h .countryCode (by simp [IsName])
  have hcountry : r'.country = r.country := h .country (by simp [IsName])
  have hcontinentCode : r'.continentCode = r.continentCode := h .continentCode (by simp [IsName])
  have hcontinent : r'.continent = r.continent := h .continent (by simp [IsName])
  rw [code?, source?, hcountryCode, hcountry, hcontinentCode, hcontinent]
  rfl

/-- **A record is read from an object by key, and leniently.** Every field has the text of the member
under its key, and an object that edits lead to has the same code. -/
theorem parse?_by_key {s : String} {ms : List (String × Content)} (h : IsObject s ms) :
    ∃ r, parse? s = some r ∧ (∀ f : RecordField, r.get f = memberText f.key ms) ∧
      ∀ {t : String} {ns : List (String × Content)}, IsObject t ns → Relation.EqvGen Edit ms ns →
        ∃ r', parse? t = some r' ∧ r'.code? = r.code? := by
  obtain ⟨r, hread, htexts⟩ := parse?_of_object h
  refine ⟨r, hread, htexts, fun ht hedits => ?_⟩
  obtain ⟨r', hread', htexts'⟩ := parse?_of_object ht
  refine ⟨r', hread', code?_congr fun f hf => ?_⟩
  rw [htexts', htexts, memberText_of_edits hedits h.distinct ht.distinct hf]

/-- An object with white space and an escape, a member that no field asks for, and a number and a map
where texts are expected. -/
def nestedText : String :=
  "\x7b \"extra\":[null,-1.5e+3], \"country_name\":12.5e+306," ++
    " \"country\":\x7b\"iso_code\":\"FR\"\x7d, \"continent_code\":\"\\u0045U\" \x7d"

/-- Its members. -/
def nestedMembers : List (String × Content) :=
  [ ("extra", .array [.null, .number ⟨true, ['1'], ['5'], some (false, ['3'])⟩]),
    ("country_name", .number ⟨false, ['1', '2'], ['5'], some (false, ['3', '0', '6'])⟩),
    ("country", .object [("iso_code", .text "FR")]),
    ("continent_code", .text "EU") ]

/-- Two of these members, the other way round, and a name. -/
def namedMembers : List (String × Document) :=
  [ ("continent_name", .text "🌍"), ("continent_code", .text "EU"),
    ("country", .object [("iso_code", .text "FR")]) ]

theorem denotes_nestedText : Denotes nestedText (.object nestedMembers) := by
  have hspace : Blank [' '] := by simp [Blank]
  have hkey (k : String) : TextSpelling k.toList (k.toList.flatMap escapeChar) :=
    textSpelling_flatMap k.toList
  have hsmall : Spells (.number ⟨true, ['1'], ['5'], some (false, ['3'])⟩) "-1.5e+3".toList :=
    .number (.number true ⟨by decide, by decide⟩ (by decide) (.some ⟨by decide, by decide⟩)
      (.plus (.inl rfl) ⟨by decide, by decide⟩))
  have hlarge : Spells (.number ⟨false, ['1', '2'], ['5'], some (false, ['3', '0', '6'])⟩)
      "12.5e+306".toList :=
    .number (.number false ⟨by decide, by decide⟩ (by decide) (.some ⟨by decide, by decide⟩)
      (.plus (.inl rfl) ⟨by decide, by decide⟩))
  have hextra := Spells.array (.more Spells.null.spaced (.one hsmall.spaced))
  have hcountry := Spells.object (.one (Spells.member "iso_code" (.text (hkey "FR"))))
  have hunit : CodeUnit ['0', '0', '4', '5'] 'E'.toNat := codeUnit_of_digits (by decide)
  have hplain : CharSpelling 'U' ['U'] := .plain (by decide) (by decide) (by decide)
  have hcode : TextSpelling "EU".toList _ := .cons (.unit hunit) (.cons hplain .nil)
  have hobject := Spells.object (.more (.member hspace (hkey "extra") .nil hextra.spaced)
    (.more (.member hspace (hkey "country_name") .nil hlarge.spaced)
      (.more (.member hspace (hkey "country") .nil hcountry.spaced)
        (.one (.member hspace (hkey "continent_code") .nil (.spaced .nil (.text hcode) hspace))))))
  refine Eq.subst (motive := Spaced Spells _) ?_ hobject.spaced
  decide +kernel

theorem edits_namedMembers :
    Relation.EqvGen Edit nestedMembers (contentEach namedMembers) := by
  have hunknown : Relation.EqvGen Edit nestedMembers nestedMembers.tail :=
    .symm _ _ (.rel _ _ (.unknown (by decide) _))
  have hunnamed : Relation.EqvGen Edit nestedMembers.tail nestedMembers.tail.tail :=
    .symm _ _ (.rel _ _ (.name (.inl rfl) _))
  have hswapped : Relation.EqvGen Edit nestedMembers.tail.tail (contentEach namedMembers).tail :=
    .rel _ _ (.permute (.swap _ _ []))
  have hnamed : Relation.EqvGen Edit (contentEach namedMembers).tail (contentEach namedMembers) :=
    .rel _ _ (.name (.inr rfl) _)
  exact ((hunknown.trans _ _ _ hunnamed).trans _ _ _ hswapped).trans _ _ _ hnamed

/-- The number and the map are no texts, so the code is that of the continent, and it stays so. -/
theorem parse?_by_key_nested :
    ∃ r, parse? nestedText = some r ∧ r.get .country = "" ∧ r.get .continentCode = "EU" ∧
      ∃ r', parse? (String.ofList (Document.object namedMembers).write) = some r' ∧
        r'.code? = some "eu" := by
  have hwithin : KnownWithin nestedMembers := .of_isModerate (by decide) (by decide +kernel)
  have hnested : IsObject nestedText nestedMembers := ⟨denotes_nestedText, by decide, hwithin⟩
  have hnamed : IsObject (String.ofList (Document.object namedMembers).write)
      (contentEach namedMembers) := ⟨denotes_write _, by decide, by decide⟩
  obtain ⟨r, hread, htexts, hedits⟩ := parse?_by_key hnested
  obtain ⟨r', hread', hcode⟩ := hedits hnamed edits_namedMembers
  have hr : r = { continentCode := "EU" } := by
    rw [← ofFn_get r, funext htexts]
    rfl
  refine ⟨r, hread, htexts .country, htexts .continentCode, r', hread', ?_⟩
  rw [hcode, hr]
  decide

end IpRecord

end CountryLookup
