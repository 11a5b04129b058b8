import CountryLookup.Proofs.Settings.Members
import CountryLookup.Record
import Mathlib.Data.List.Nodup

/-!
# Fields among members

A record is stored as members with keys, in a database as in JSON. Some keys are those of fields, and
each such member gives a text for its field; all other members give nothing. As different fields have
different keys, the text of a field is that of the member under its key, wherever it stands among the
others.

## Main results

* `find?_textsOf` — the text of a field is that of the member under its key.
* `nodup_textsOf` — members with distinct keys give texts of distinct fields.
-/

namespace CountryLookup.RecordField

/-- The texts that members give for fields. -/
def textsOf {α : Type} (text : α → String) (ms : List (String × α)) : List (RecordField × String) :=
  ms.filterMap fun m => (ofKey? m.1).map fun f => (f, text m.2)

variable {α : Type} (text : α → String)

theorem textsOf_cons_of_unknown {k : String} (h : ofKey? k = none) (v : α)
    (ms : List (String × α)) : textsOf text ((k, v) :: ms) = textsOf text ms := by
  rw [textsOf, List.filterMap_cons, h]
  rfl

theorem textsOf_cons_of_known {k : String} {f : RecordField} (h : ofKey? k = some f) (v : α)
    (ms : List (String × α)) : textsOf text ((k, v) :: ms) = (f, text v) :: textsOf text ms := by
  rw [textsOf, List.filterMap_cons, h]
  rfl

/-- **The text of a field is that of the member under its key.** -/
theorem find?_textsOf (f : RecordField) (ms : List (String × α)) :
    ((textsOf text ms).find? fun p => p.1 = f).map (·.2) = (Members.get? f.key ms).map text := by
  induction ms with
  | nil => rfl
  | cons m ms ih =>
      obtain ⟨k, v⟩ := m
      rw [Members.get?]
      by_cases hk : k = f.key
      · rw [if_pos hk, textsOf_cons_of_known text (ofKey?_eq_some_iff.2 hk.symm)]
        simp
      · rw [if_neg hk, ← ih]
        cases hg : ofKey? k with
        | none => rw [textsOf_cons_of_unknown text hg]
        | some g =>
            have hne : g ≠ f := by
              rintro rfl
              exact hk (ofKey?_eq_some_iff.1 hg).symm
            rw [textsOf_cons_of_known text hg]
            simp [hne]

theorem map_fst_textsOf (ms : List (String × α)) :
    (textsOf text ms).map (·.1) = (Members.names ms).filterMap ofKey? := by
  rw [textsOf, Members.names, List.map_filterMap, List.filterMap_map]
  congr 1
  funext m
  show ((ofKey? m.1).map _).map _ = ofKey? m.1
  cases ofKey? m.1 <;> rfl

/-- Of keys that occur once, fields are named once. -/
theorem nodup_filterMap_ofKey? {ks : List String} (h : ks.Nodup) : (ks.filterMap ofKey?).Nodup := by
  refine List.Nodup.filterMap ?_ h
  intro k k' f hk hk'
  rw [← ofKey?_eq_some_iff.1 hk, ← ofKey?_eq_some_iff.1 hk']

/-- **Members with distinct keys give texts of distinct fields.** -/
theorem nodup_textsOf {ms : List (String × α)} (h : (Members.names ms).Nodup) :
    ((textsOf text ms).map (·.1)).Nodup := by
  rw [map_fst_textsOf]
  exact nodup_filterMap_ofKey? h

end CountryLookup.RecordField
