import CountryLookup.Number.Shortest
import CountryLookup.Text.Quoted

/-!
# Why a database cannot be read

A database file fails in four ways: it cannot be read from disk, its bytes break the format, its
values have other types than the program asks for, or it is asked for an address of a family that
it does not hold. Each has causes of its own, and the texts are made in one place.
-/

namespace CountryLookup.Database

/-- How bytes break the format. -/
inductive Corruption where
  /-- The bytes end where a value or a part of one should stand. -/
  | endOfBuffer
  /-- A key is longer than the bytes that follow. -/
  | keyTooLong
  /-- A value of this kind has an impossible length. -/
  | badSize (kind : String) (size : Nat)
  /-- A control byte names a kind that values do not have. -/
  | unknownKind (number : Nat)
  /-- The bytes of a string are no UTF-8. -/
  | badText
  /-- A key is a pointer that leads to a pointer. -/
  | doublePointer
  /-- Containers and pointers nest too deep. -/
  | tooDeep
  /-- A value that is passed over contains itself. -/
  | endless
  /-- No metadata marker occurs in the file. -/
  | noMetadata
  /-- The metadata names a record size that the format does not have. -/
  | badRecordSize (bits : Nat)
  /-- The search tree leads to an offset outside the data. -/
  | badDataPointer
  /-- The search tree leads to a node outside the file. -/
  | badNode
  deriving Repr, DecidableEq

/-- The wording of a corruption. -/
def Corruption.message : Corruption → String
  | endOfBuffer => "unexpected end of buffer"
  | keyTooLong => "string length exceeds buffer"
  | badSize kind size => kind ++ " of size " ++ Text.decimal size
  | unknownKind number => "unknown data type: " ++ Text.decimal number
  | badText => "invalid UTF-8 in string"
  | doublePointer => "pointer points to another pointer"
  | tooDeep => "exceeded maximum data structure depth; database is likely corrupt"
  | endless => "value contains itself"
  | noMetadata => "could not find MaxMind DB metadata in file"
  | badRecordSize bits =>
    "record_size - Expected: 24, 28, or 32 Actual: " ++ Text.decimal bits
  | badDataPointer => "the MaxMind DB file's data pointer resolves to an invalid location"
  | badNode => "search tree node lies outside the file"

/-- A value found where another type is asked for. -/
inductive Found where
  | bool (b : Bool)
  | integer (i : Int)
  | integer128 (n : Nat)
  | number (x : Double)
  | text (s : String)
  | bytes
  | sequence
  | map
  deriving Repr, DecidableEq

/-- How a found value is named. -/
def Found.message : Found → String
  | bool b => "boolean `" ++ (if b then "true" else "false") ++ "`"
  | integer i => "integer `" ++ Text.signedDecimal i ++ "`"
  | integer128 n => "integer `" ++ Text.decimal n ++ "` as u128"
  | number x => "floating point `" ++ x.renderPointed ++ "`"
  | text s => "string " ++ Text.quoted s
  | bytes => "byte array"
  | sequence => "sequence"
  | map => "map"

/-- How values differ from what the program asks for. -/
inductive Mismatch where
  /-- The value has another type. -/
  | wrongType (found : Found) (expected : String)
  /-- The value has the type but lies outside its range. -/
  | wrongValue (found : Found) (expected : String)
  /-- A list is too short. -/
  | wrongLength (size : Nat) (expected : String)
  | missingField (name : String)
  | duplicateField (name : String)
  deriving Repr, DecidableEq

/-- The wording of a mismatch. -/
def Mismatch.message : Mismatch → String
  | wrongType found expected => "invalid type: " ++ found.message ++ ", expected " ++ expected
  | wrongValue found expected => "invalid value: " ++ found.message ++ ", expected " ++ expected
  | wrongLength size expected =>
    "invalid length " ++ Text.decimal size ++ ", expected " ++ expected
  | missingField name => "missing field `" ++ name ++ "`"
  | duplicateField name => "duplicate field `" ++ name ++ "`"

/-- Why a database cannot be opened or read. -/
inductive Failure where
  /-- The bytes break the format, at an offset of the part being read if there is one. -/
  | corrupt (cause : Corruption) (offset : Option Nat)
  | mismatch (cause : Mismatch)
  /-- The file itself cannot be read. -/
  | file (reason : String)
  /-- An address of the sixth version is looked up where only the fourth is held. -/
  | wrongFamily
  deriving Repr, DecidableEq

/-- The wording of a failure. -/
def Failure.message : Failure → String
  | corrupt cause (some offset) =>
    "invalid database at offset " ++ Text.decimal offset ++ ": " ++ cause.message
  | corrupt cause none => "invalid database: " ++ cause.message
  | mismatch cause => "decoding error: " ++ cause.message
  | file reason => "i/o error: " ++ reason
  | wrongFamily => "invalid input: cannot look up IPv6 address in IPv4-only database"

/-- A corruption at an offset. -/
def Failure.at (cause : Corruption) (offset : Nat) : Failure := .corrupt cause (some offset)

/-- A value of another type than the one asked for. -/
def Failure.wrongType (found : Found) (expected : String) : Failure :=
  .mismatch (.wrongType found expected)

end CountryLookup.Database
