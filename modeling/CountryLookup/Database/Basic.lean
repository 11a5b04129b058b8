import CountryLookup.Address.Printer
import CountryLookup.Database.Tree
import CountryLookup.Error
import CountryLookup.Record

/-!
# Local databases

A database is opened from its bytes: the metadata behind the last marker is read and the record
size checked. A lookup walks the search tree along the bits of the address and reads the record
that the walk leads to. What can go wrong on the way is reported by kind: the database holds
nothing for the address, or what it holds is no record, or the record has no code.
-/

namespace CountryLookup

open Database

namespace Database

/-- The bytes that stand before the metadata. -/
def marker : List UInt8 :=
  [0xAB, 0xCD, 0xEF] ++ Text.Utf8.encode "MaxMind.com"

/-- The offset after the last marker in a list of bytes that starts at offset `pos`, or else what
was found before it. -/
def afterLastMarker (found : Option Nat) (pos : Nat) : List UInt8 → Option Nat
  | [] => found
  | b :: bs =>
    let found := if marker.isPrefixOf (b :: bs) then some (pos + marker.length) else found
    afterLastMarker found (pos + 1) bs

/-- Reads the texts of a record's field: a value that is no text leaves the field empty. -/
def recordShape (data : Bytes) (room : Nat) : Shape RecordField String where
  name := "struct IpRecord"
  fields := RecordField.all
  key := RecordField.key
  read _ pos := do
    let (v, pos) ← readValue data room pos
    .ok (v.text?.getD "", pos)

/-- Reads the record at an offset of the data, from a map or from an array. -/
def readRecord (data : Bytes) (pos : Nat) : Except Failure IpRecord := do
  let r ← reach data maxDepth none pos
  let shape := recordShape data r.room
  match r.head with
  | .map n => do
    let fs ← readEntries data shape n r.next []
    .ok (IpRecord.ofFields fs)
  | .array n => do
    let fs ← readElements shape RecordField.all n r.next
    .ok (IpRecord.ofFields fs)
  | head => .error (.wrongType head.found shape.name)

end Database

/-- Where an open database comes from. -/
inductive DatabaseSource where
  | external (path : String)
  | embedded
  deriving Repr, DecidableEq

/-- How a source is named in texts. -/
def DatabaseSource.render : DatabaseSource → String
  | external path => "external (" ++ path ++ ")"
  | embedded => "embedded"

/-- An open database. -/
structure LocalDatabase where
  file : Bytes
  metadata : Metadata
  source : DatabaseSource
  deriving Repr, DecidableEq

namespace LocalDatabase

/-- Opens a database from its bytes. -/
def ofBytes (source : DatabaseSource) (file : Bytes) : Except Failure LocalDatabase :=
  match afterLastMarker none 0 file.toList with
  | none => .error (.corrupt .noMetadata none)
  | some start => do
    let m ← Metadata.read (file.extract start file.size)
    if m.recordSize = 24 ∨ m.recordSize = 28 ∨ m.recordSize = 32 then .ok ⟨file, m, source⟩
    else .error (.corrupt (.badRecordSize m.recordSize) none)

/-- What the database calls its contents. -/
def type (db : LocalDatabase) : String := db.metadata.databaseType

/-- The offset of the data in the file. -/
def dataStart (db : LocalDatabase) : Nat :=
  db.metadata.nodeCount * db.metadata.recordSize / 4 + separatorSize

/-- The data of the database, up to the end of the file. -/
def data (db : LocalDatabase) : Bytes := db.file.extract db.dataStart db.file.size

/-- The offset in the data of what the database holds for an address, if it holds anything. -/
def find (db : LocalDatabase) (x : Address) : Except Failure (Option Nat) := do
  let m := db.metadata
  if x.isV6 ∧ m.ipVersion = 4 then .error .wrongFamily
  else
    let start ← startNode db.file m x.isV6
    let reached ← walk db.file m start x.bits
    if reached ≤ m.nodeCount then .ok none
    else
      let offset := reached - m.nodeCount - separatorSize
      if reached < m.nodeCount + separatorSize ∨ db.file.size - db.dataStart ≤ offset then
        .error (.corrupt .badDataPointer none)
      else .ok (some offset)

/-- The record that the database holds for an address. -/
def lookupRecord (db : LocalDatabase) (x : Address) : Except LookupError IpRecord :=
  match db.find x with
  | .error e => .error ⟨.recordNotFound, x.render ++ ": " ++ e.message⟩
  | .ok none =>
    .error ⟨.recordNotFound, x.render ++ " is not in the " ++ db.source.render ++ " database"⟩
  | .ok (some offset) =>
    match readRecord db.data offset with
    | .ok r => .ok r
    | .error e => .error ⟨.codeNotFound, x.render ++ ": undecodable record: " ++ e.message⟩

/-- The code that a record gives for an address. -/
def codeOf (x : Address) (r : IpRecord) : CodeResult :=
  match r.code? with
  | some c => .ok c
  | none => .error ⟨.codeNotFound, "IP not found: " ++ x.render⟩

/-- The code that the database gives for an address. -/
def lookupCode (db : LocalDatabase) (x : Address) : CodeResult := do
  let r ← db.lookupRecord x
  codeOf x r

end LocalDatabase

end CountryLookup
