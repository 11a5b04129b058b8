import CountryLookup.Database.Value
import CountryLookup.Number.Power

/-!
# Database metadata

The metadata is a map behind the last marker in the file. It says how the search tree is laid out
and which addresses the database holds. All nine entries are required, though the program uses
four of them. An array of the nine values in order stands for the map.
-/

namespace CountryLookup.Database

/-- The entries of the metadata in order. -/
inductive MetadataField where
  | majorVersion | minorVersion | buildEpoch | databaseType | description | ipVersion
  | languages | nodeCount | recordSize
  deriving Repr, DecidableEq

namespace MetadataField

/-- All entries in order. -/
def all : List MetadataField :=
  [majorVersion, minorVersion, buildEpoch, databaseType, description, ipVersion, languages,
    nodeCount, recordSize]

/-- The key of an entry. -/
def key : MetadataField → String
  | majorVersion => "binary_format_major_version"
  | minorVersion => "binary_format_minor_version"
  | buildEpoch => "build_epoch"
  | databaseType => "database_type"
  | description => "description"
  | ipVersion => "ip_version"
  | languages => "languages"
  | nodeCount => "node_count"
  | recordSize => "record_size"

end MetadataField

/-- The value of an entry. -/
inductive MetadataValue where
  | number (n : Nat)
  | text (s : String)
  | texts (ts : List String)
  | pairs (ps : List (String × String))
  deriving Repr, DecidableEq

/-- What the metadata says. -/
structure Metadata where
  majorVersion : Nat
  minorVersion : Nat
  buildEpoch : Nat
  databaseType : String
  description : List (String × String)
  ipVersion : Nat
  languages : List String
  nodeCount : Nat
  recordSize : Nat
  deriving Repr, DecidableEq

/-! ## Typed values -/

/-- Reads an unsigned number of at most `bits` bits; integers of any kind but the widest will
do. -/
def readUnsigned (data : Bytes) (room bits : Nat) (pos : Nat) : Except Failure (Nat × Nat) := do
  let expected := "u" ++ Text.decimal bits
  let r ← reach data room none pos
  match r.head with
  | .scalar (.unsigned n) =>
    if n < twoTo bits then .ok (n, r.after r.next)
    else .error (.mismatch (.wrongValue (.integer n) expected))
  | .scalar (.int32 i) =>
    if 0 ≤ i ∧ i.toNat < twoTo bits then .ok (i.toNat, r.after r.next)
    else .error (.mismatch (.wrongValue (.integer i) expected))
  | head => .error (.wrongType head.found expected)

/-- Reads a text; bytes that are UTF-8 will do. -/
def readText (data : Bytes) (room : Nat) (pos : Nat) : Except Failure (String × Nat) := do
  let r ← reach data room none pos
  match r.head with
  | .scalar (.text s) => .ok (s, r.after r.next)
  | .scalar (.bytes bs) =>
    match Text.Utf8.decode? bs with
    | some s => .ok (s, r.after r.next)
    | none => .error (.mismatch (.wrongValue .bytes "a string"))
  | head => .error (.wrongType head.found "a string")

/-- Reads a list of texts. -/
def readTexts (data : Bytes) (room : Nat) (pos : Nat) : Except Failure (List String × Nat) := do
  let r ← reach data room none pos
  match r.head with
  | .array n => do
    let (ts, next) ← readMany (readText data r.room) n r.next
    .ok (ts, r.after next)
  | head => .error (.wrongType head.found "a sequence")

/-- Reads a map of texts. -/
def readTextMap (data : Bytes) (room : Nat) (pos : Nat) :
    Except Failure (List (String × String) × Nat) := do
  let r ← reach data room none pos
  match r.head with
  | .map n => do
    let pair := fun pos => do
      let (k, pos) ← readText data r.room pos
      let (v, pos) ← readText data r.room pos
      .ok ((k, v), pos)
    let (ps, next) ← readMany pair n r.next
    .ok (ps, r.after next)
  | head => .error (.wrongType head.found "a map")

/-! ## The whole -/

/-- How the metadata stands in a map or an array. -/
def metadataShape (data : Bytes) (room : Nat) : Shape MetadataField MetadataValue where
  name := "struct Metadata"
  fields := MetadataField.all
  key := MetadataField.key
  read f pos :=
    match f with
    | .majorVersion | .minorVersion | .ipVersion | .recordSize => do
      let (n, pos) ← readUnsigned data room 16 pos
      .ok (.number n, pos)
    | .buildEpoch => do
      let (n, pos) ← readUnsigned data room 64 pos
      .ok (.number n, pos)
    | .nodeCount => do
      let (n, pos) ← readUnsigned data room 32 pos
      .ok (.number n, pos)
    | .databaseType => do
      let (s, pos) ← readText data room pos
      .ok (.text s, pos)
    | .description => do
      let (ps, pos) ← readTextMap data room pos
      .ok (.pairs ps, pos)
    | .languages => do
      let (ts, pos) ← readTexts data room pos
      .ok (.texts ts, pos)

/-- The value of an entry, which must be there. -/
def requireField (vs : List (MetadataField × MetadataValue)) (f : MetadataField) :
    Except Failure MetadataValue :=
  match vs.find? fun p => p.1 = f with
  | some p => .ok p.2
  | none => .error (.mismatch (.missingField f.key))

/-- The number that an entry holds. -/
def MetadataValue.asNumber : MetadataValue → Nat
  | number n => n
  | _ => 0

/-- The text that an entry holds. -/
def MetadataValue.asText : MetadataValue → String
  | text s => s
  | _ => ""

/-- The texts that an entry holds. -/
def MetadataValue.asTexts : MetadataValue → List String
  | texts ts => ts
  | _ => []

/-- The pairs of texts that an entry holds. -/
def MetadataValue.asPairs : MetadataValue → List (String × String)
  | pairs ps => ps
  | _ => []

/-- The metadata of its entries; the first one in order that is missing is reported. -/
def Metadata.ofFields (vs : List (MetadataField × MetadataValue)) : Except Failure Metadata := do
  let major ← requireField vs .majorVersion
  let minor ← requireField vs .minorVersion
  let epoch ← requireField vs .buildEpoch
  let type ← requireField vs .databaseType
  let description ← requireField vs .description
  let version ← requireField vs .ipVersion
  let languages ← requireField vs .languages
  let count ← requireField vs .nodeCount
  let size ← requireField vs .recordSize
  .ok {
    majorVersion := major.asNumber
    minorVersion := minor.asNumber
    buildEpoch := epoch.asNumber
    databaseType := type.asText
    description := description.asPairs
    ipVersion := version.asNumber
    languages := languages.asTexts
    nodeCount := count.asNumber
    recordSize := size.asNumber }

/-- Reads the metadata at the start of the data. -/
def Metadata.read (data : Bytes) : Except Failure Metadata := do
  let r ← reach data maxDepth none 0
  let shape := metadataShape data r.room
  match r.head with
  | .map n => do
    let vs ← readEntries data shape n r.next []
    Metadata.ofFields vs
  | .array n => do
    let vs ← readElements shape MetadataField.all n r.next
    if n < MetadataField.all.length then
      .error (.mismatch (.wrongLength n (shape.name ++ " with 9 elements")))
    else Metadata.ofFields vs
  | head => .error (.wrongType head.found shape.name)

end CountryLookup.Database
