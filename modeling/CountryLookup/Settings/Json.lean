import CountryLookup.Json.Reader
import CountryLookup.Settings.Tree

/-!
# Configuration from JSON

A JSON object is a table; of a name that occurs twice the last value counts. Whole numbers that fit
64 bits are integers, the others are doubles.
-/

namespace CountryLookup.Setting

open Json

mutual

/-- The setting that a JSON value stands for. -/
def ofJson? : Json.Value → Option Setting
  | .null => some nothing
  | .bool b => some (truth b)
  | .number n => n.meaning?.map fun m => match m with
    | .integer i => integer i
    | .double x => real x
  | .text us => (textOfParts? us).map fun cs => text (String.ofList cs)
  | .array vs => (ofElements? vs).map list
  | .object ms => (ofMembers? [] ms).map table

/-- The settings that the elements of an array stand for. -/
def ofElements? : List Json.Value → Option (List Setting)
  | [] => some []
  | v :: vs => do
    let x ← ofJson? v
    let xs ← ofElements? vs
    return x :: xs

/-- The members that an object adds to those read so far. -/
def ofMembers? (sofar : List (String × Setting)) :
    List (List Json.Part × Json.Value) → Option (List (String × Setting))
  | [] => some sofar
  | (k, v) :: ms => do
    let key ← textOfParts? k
    let x ← ofJson? v
    ofMembers? (Members.put (String.ofList key) x sofar) ms

end

/-- The members of the object that a JSON text is. -/
def membersOfJson? (s : String) : Option (List (String × Setting)) := do
  let v ← Json.parse? s
  if v.sound Json.maxDepth then
    match ← ofJson? v with
    | table ms => return ms
    | _ => none
  else none

end CountryLookup.Setting
