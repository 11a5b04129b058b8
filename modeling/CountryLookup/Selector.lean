import CountryLookup.Database.Basic
import CountryLookup.Event
import CountryLookup.Files.Tree

/-!
# Choosing the local database

One local database serves a run of the program. The choice is made when it is first needed: the
file at the configured path if it is a regular file that opens, else the embedded database. The
outcome, be it a database or an error, is kept, and nothing that happens to the file later
changes it.

## Main results

* `get_get` — the second question gets the answer of the first, whatever became of the file.
* `activeSource_get` — a database that was chosen is the active one from then on.
-/

namespace CountryLookup

/-- How to choose: the path of the external file, and the bytes of the embedded database if there
are any. -/
structure Selector where
  path : String
  embedded : Option Database.Bytes
  deriving Repr, DecidableEq

/-- The outcome of a choice. -/
abbrev Choice := Except LookupError LocalDatabase

/-- What a selector remembers: the outcome, once there is one, how often the embedded database
was asked for, and what was told. -/
structure SelectorState where
  choice : Option Choice := none
  loads : Nat := 0
  events : List Event := []

namespace Selector

/-- An event told by the selector. -/
def event (level : Level) (message : String) : Event := ⟨level, .database, "GeoIP: " ++ message⟩

/-- Tries the external file: the database if it opens, and what is told. -/
def tryExternal (s : Selector) (file : Option Entry) : Option LocalDatabase × Event :=
  match file with
  | none => (none, event .debug ("No external database at " ++ s.path))
  | some .directory => (none, event .debug (s.path ++ " is not a regular file, skipping"))
  | some (.regular content) =>
    match LocalDatabase.ofBytes (.external s.path) content.toArray with
    | .ok db =>
      (some db, event .info ("Using external database at " ++ s.path ++ " (" ++ db.type ++ ")"))
    | .error e =>
      (none, event .warn ("Failed to open external database at " ++ s.path ++ ": " ++ e.message
        ++ ", falling back to embedded database"))

/-- Opens the embedded database: the outcome, and what is told. -/
def openEmbedded (s : Selector) : Choice × Event :=
  match s.embedded with
  | none =>
    (.error ⟨.databaseInitFailed,
      "external database unavailable and embedded database is missing"⟩,
      event .warn "Embedded database is missing")
  | some bytes =>
    match LocalDatabase.ofBytes .embedded bytes with
    | .ok db => (.ok db, event .info ("Using embedded database (" ++ db.type ++ ")"))
    | .error e =>
      (.error ⟨.databaseInitFailed, "embedded database: " ++ e.message⟩,
        event .warn ("Failed to parse embedded database: " ++ e.message))

/-- The choice for a state of the file: its outcome, whether the embedded database was asked for,
and what is told. -/
def choose (s : Selector) (file : Option Entry) : Choice × Bool × List Event :=
  match s.tryExternal file with
  | (some db, e) => (.ok db, false, [e])
  | (none, e) => (s.openEmbedded.1, true, [e, s.openEmbedded.2])

/-- The database, chosen now if it has not been chosen before. -/
def get (s : Selector) (file : Option Entry) (st : SelectorState) : Choice × SelectorState :=
  match st.choice with
  | some choice => (choice, st)
  | none =>
    let (outcome, loaded, told) := s.choose file
    (outcome, {
      choice := some outcome
      loads := st.loads + (if loaded then 1 else 0)
      events := st.events ++ told })

/-- The source of the database in use, if one was chosen. -/
def activeSource (st : SelectorState) : Option DatabaseSource :=
  match st.choice with
  | some (.ok db) => some db.source
  | _ => none

theorem choice_get (s : Selector) (file : Option Entry) (st : SelectorState) :
    (s.get file st).2.choice = some (s.get file st).1 := by
  unfold get
  split
  · assumption
  · rfl

/-- **The answer stays.** Asking again changes nothing, in whatever state the file is then. -/
theorem get_get (s : Selector) (file later : Option Entry) (st : SelectorState) :
    s.get later (s.get file st).2 = s.get file st := by
  have h := s.choice_get file st
  rw [get, h]

/-- A chosen database is the active one. -/
theorem activeSource_get (s : Selector) (file : Option Entry) (st : SelectorState)
    {db : LocalDatabase} (h : (s.get file st).1 = .ok db) :
    activeSource (s.get file st).2 = some db.source := by
  simp [activeSource, s.choice_get file st, h]

end Selector

end CountryLookup
