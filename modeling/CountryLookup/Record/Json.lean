import CountryLookup.Json.Reader
import CountryLookup.Record

/-!
# Records from JSON

A record is also read from a JSON text, an object with the record's keys or an array of its fields
in order. Any value may stand under a known key; one that is no string leaves the field empty. A
member under another key is passed over without a question, but its key must be a text.
-/

namespace CountryLookup.IpRecord

open Json

/-- The text of a field's value: a string is itself, anything else is empty. -/
def fieldText : Json.Value → String
  | .text us => ((textOfParts? us).map String.ofList).getD ""
  | _ => ""

/-- The field that a key names. -/
def fieldOfKey? (key : List Char) : Option RecordField :=
  RecordField.all.find? fun f => f.key.toList == key

/-- Reads the members of an object, with the fields read so far beside them; `none` if a field
occurs twice, or if a key or the value of a field makes no sense. -/
def ofMembers? (seen : List (RecordField × String)) :
    List (List Json.Part × Json.Value) → Option (List (RecordField × String))
  | [] => some seen.reverse
  | (k, v) :: ms => do
    let key ← textOfParts? k
    match fieldOfKey? key with
    | none => ofMembers? seen ms
    | some f =>
      if seen.any (fun p => p.1 = f) || !v.sound (maxDepth - 1) then none
      else ofMembers? ((f, fieldText v) :: seen) ms

/-- The record that a JSON value describes. -/
def ofJson? : Json.Value → Option IpRecord
  | .object ms => (ofMembers? [] ms).map ofFields
  | .array vs =>
    if RecordField.all.length < vs.length || vs.any (fun v => !v.sound (maxDepth - 1)) then none
    else some (ofFields (RecordField.all.zip (vs.map fieldText)))
  | _ => none

/-- The record that a JSON text describes. -/
def parse? (s : String) : Option IpRecord := (Json.parse? s).bind ofJson?

end CountryLookup.IpRecord
