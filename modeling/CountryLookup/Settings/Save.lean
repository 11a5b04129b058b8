import CountryLookup.Files.Tree
import CountryLookup.Settings.Basic
import CountryLookup.Text.Utf8
import CountryLookup.Toml.Printer

/-!
# Saving settings

Settings are written as a TOML document of three tables, without what is not set. The directories
above the file are created if they are missing.

## Main results

* `save_eq_ok` — what is saved at the place of the file is the text of the settings.
-/

namespace CountryLookup.Settings

open Text Toml

/-- A truth value as it is written. -/
def writeTruth (b : Bool) : List Char := if b then "true".toList else "false".toList

/-- The tables of the settings with their fields. -/
def tables (s : Settings) : List (String × List (String × Option (List Char))) :=
  [ ("database", [("external_path", some (writeText s.database.externalPath))]),
    ("remote",
      [ ("enabled", some (writeTruth s.remote.enabled)),
        ("base_url", some (writeText s.remote.baseUrl)),
        ("timeout_secs", some (decimal s.remote.timeoutSeconds.toNat).toList),
        ("token", s.remote.token.map writeText)]),
    ("logging",
      [ ("level", some (writeText s.logging.level)),
        ("format", some (writeText s.logging.format)),
        ("file", s.logging.file.map writeText),
        ("max_backups", some (decimal s.logging.maxBackups.toNat).toList),
        ("enable_rotation", some (writeTruth s.logging.enableRotation))]) ]

/-- The settings as a document. -/
def render (s : Settings) : String :=
  String.ofList (writeTables (s.tables.map fun t => writeTable t.1 t.2))

/-- The document that shows all settings with their defaults. -/
def sample : String := ({} : Settings).render

/-- The files with the directory above a path created. -/
def prepare (files : FileTree) (path : String) : Except FileError FileTree :=
  match Path.parent? path with
  | some parent =>
    if parent = "" ∨ files.holds parent then .ok files else files.createDirectories parent
  | none => .ok files

/-- Saves the settings at the end of a path. -/
def save (s : Settings) (files : FileTree) (path : String) : Except FileError FileTree := do
  (← prepare files path).write path (Utf8.encode s.render)

/-- **Saving writes the document of the settings.** -/
theorem save_eq_ok {s : Settings} {files after : FileTree} {path : String}
    (h : s.save files path = .ok after) :
    ∃ ready, prepare files path = .ok ready ∧ ready.write path (Utf8.encode s.render) = .ok after := by
  unfold save at h
  cases hp : prepare files path with
  | error e => simp [hp, bind, Except.bind] at h
  | ok ready => exact ⟨ready, rfl, by simpa [hp, bind, Except.bind] using h⟩

end CountryLookup.Settings
