import CountryLookup.Text.Lowercase
import CountryLookup.Text.Quoted

/-!
# Records and their codes

A local database stores a record of up to six texts for a network. Two kinds of databases are in
use. One keeps codes under `country` and `continent` and names under `country_name` and
`continent_name`; the other keeps names under `country` and `continent` and codes under
`country_code` and `continent_code`. No mark tells them apart, so a code is looked for in one
order that serves both: a country code, else a country of two bytes, else a continent code, else
a continent of two bytes.

## Main results

* `code_names` — the two name fields never matter.
-/

namespace CountryLookup

/-- The fields of a record, in the order in which they are stored without names. -/
inductive RecordField where
  | countryCode | country | countryName | continentCode | continent | continentName
  deriving Repr, DecidableEq

namespace RecordField

/-- All fields in order. -/
def all : List RecordField :=
  [countryCode, country, countryName, continentCode, continent, continentName]

/-- The name under which a field is stored. -/
def key : RecordField → String
  | countryCode => "country_code"
  | country => "country"
  | countryName => "country_name"
  | continentCode => "continent_code"
  | continent => "continent"
  | continentName => "continent_name"

theorem mem_all (f : RecordField) : f ∈ all := by cases f <;> simp [all]

theorem key_injective {f g : RecordField} (h : f.key = g.key) : f = g := by
  cases f <;> cases g <;> first | rfl | exact absurd h (by decide)

/-- The field that is stored under a key. -/
def ofKey? (k : String) : Option RecordField := all.find? fun f => f.key = k

theorem ofKey?_eq_some_iff {k : String} {f : RecordField} : ofKey? k = some f ↔ f.key = k := by
  constructor
  · intro h
    simpa using List.find?_some h
  · rintro rfl
    cases f <;> decide

end RecordField

/-- What a database holds about a network. A text that is not there is empty. -/
structure IpRecord where
  countryCode : String := ""
  country : String := ""
  countryName : String := ""
  continentCode : String := ""
  continent : String := ""
  continentName : String := ""
  deriving Repr, DecidableEq

namespace IpRecord

/-- The text of a field. -/
def get (r : IpRecord) : RecordField → String
  | .countryCode => r.countryCode
  | .country => r.country
  | .countryName => r.countryName
  | .continentCode => r.continentCode
  | .continent => r.continent
  | .continentName => r.continentName

/-- The record of given texts. -/
def ofFn (f : RecordField → String) : IpRecord where
  countryCode := f .countryCode
  country := f .country
  countryName := f .countryName
  continentCode := f .continentCode
  continent := f .continent
  continentName := f .continentName

@[simp] theorem get_ofFn (f : RecordField → String) (x : RecordField) : (ofFn f).get x = f x := by
  cases x <;> rfl

@[simp] theorem ofFn_get (r : IpRecord) : ofFn r.get = r := rfl

/-- The record that a list of fields describes; of a field that is listed twice the first text
counts. -/
def ofFields (fs : List (RecordField × String)) : IpRecord :=
  ofFn fun f => ((fs.find? fun p => p.1 = f).map (·.2)).getD ""

/-! ## The code -/

/-- Whether a text has the length of a code. Bytes count, not characters. -/
def isTwoLetter (s : String) : Bool := s.utf8ByteSize == 2

/-- The text from which the code is taken. -/
def source? (r : IpRecord) : Option String :=
  if r.countryCode ≠ "" then some r.countryCode
  else if isTwoLetter r.country then some r.country
  else if r.continentCode ≠ "" then some r.continentCode
  else if isTwoLetter r.continent then some r.continent
  else none

/-- The code of a record, in lower case. -/
def code? (r : IpRecord) : Option String := r.source?.map Text.lowercase

/-- The names of a record do not change its code. -/
theorem code_names (r : IpRecord) (n k : String) :
    code? { r with countryName := n, continentName := k } = r.code? := rfl

/-- A record as it stands in a log line. -/
def debug (r : IpRecord) : String :=
  let parts := RecordField.all.map fun f => f.key ++ ": " ++ Text.quoted (r.get f)
  "IpRecord \x7b " ++ String.intercalate ", " parts ++ " \x7d"

end IpRecord

end CountryLookup
