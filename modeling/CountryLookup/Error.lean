import CountryLookup.Text.Paint
import CountryLookup.Text.Quoted

/-!
# Errors of a lookup

A failed lookup has a kind and a message. The kind fixes a code, which scripts test, and a title,
which people read. The message says what happened in words, and the functions that build errors
live beside the operations that fail.

An error is shown in three forms: in one line for logs and JSON output, in two lines with colours
for a terminal, and quoted as a value in debug logs.

## Main results

* `coloured_false` — without colours the terminal form is the bare words.
-/

namespace CountryLookup

/-- Why a lookup fails. -/
inductive ErrorKind where
  /-- The text or the bytes denote no address. -/
  | invalidInput
  /-- The remote service gave no usable answer. -/
  | remoteUnavailable
  /-- No local database could be opened. -/
  | databaseInitFailed
  /-- The local database holds nothing for the address. -/
  | recordNotFound
  /-- The local database holds something, but no code in it. -/
  | codeNotFound
  /-- The task that ran the lookup broke off. -/
  | taskFailed
  deriving Repr, DecidableEq

namespace ErrorKind

/-- The code that scripts test. -/
def code : ErrorKind → String
  | invalidInput => "G001"
  | remoteUnavailable => "G002"
  | databaseInitFailed => "G003"
  | recordNotFound => "G004"
  | codeNotFound => "G005"
  | taskFailed => "G006"

/-- The title that people read. -/
def title : ErrorKind → String
  | invalidInput => "Invalid Input"
  | remoteUnavailable => "Remote Lookup Unavailable"
  | databaseInitFailed => "Database Initialization Failed"
  | recordNotFound => "Record Not Found"
  | codeNotFound => "Country Code Not Found"
  | taskFailed => "Lookup Task Failed"

/-- The name that stands before the quoted message in debug logs. -/
def name : ErrorKind → String
  | invalidInput => "InvalidInput"
  | remoteUnavailable => "RemoteUnavailable"
  | databaseInitFailed => "DatabaseInitFailed"
  | recordNotFound => "RecordNotFound"
  | codeNotFound => "CodeNotFound"
  | taskFailed => "TaskFailed"

theorem code_injective {k l : ErrorKind} (h : k.code = l.code) : k = l := by
  cases k <;> cases l <;> first | rfl | exact absurd h (by decide)

end ErrorKind

/-- A failed lookup: its kind and what happened. -/
structure LookupError where
  kind : ErrorKind
  message : String
  deriving Repr, DecidableEq

namespace LookupError

/-- The code of the error's kind. -/
def code (e : LookupError) : String := e.kind.code

/-- One line: the title and the message. -/
def simple (e : LookupError) : String := e.kind.title ++ ": " ++ e.message

/-- Two lines for a terminal: a mark, the code and the title, then the message two columns in. -/
def coloured (colour : Bool) (e : LookupError) : String :=
  Text.paint colour "1;31" "[ERROR]" ++ " " ++ Text.paint colour "33" e.code ++ " "
    ++ Text.paint colour "31" e.kind.title ++ "\n  " ++ Text.paint colour "37" e.message

/-- The error as a quoted value. -/
def debug (e : LookupError) : String := e.kind.name ++ "(" ++ Text.quoted e.message ++ ")"

/-- Without colours the terminal form is the mark, code, title and message as they are. -/
theorem coloured_false (e : LookupError) :
    e.coloured false = "[ERROR]" ++ " " ++ e.code ++ " " ++ e.kind.title ++ "\n  " ++ e.message := by
  simp [coloured]

end LookupError

/-- What a lookup answers: a code or an error. -/
abbrev CodeResult := Except LookupError String

/-- The answer of a lookup as a quoted value. -/
def CodeResult.debug : CodeResult → String
  | .ok code => "Ok(" ++ Text.quoted code ++ ")"
  | .error e => "Err(" ++ e.debug ++ ")"

end CountryLookup
