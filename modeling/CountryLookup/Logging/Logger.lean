import CountryLookup.Logging.Filter
import CountryLookup.Logging.Line
import CountryLookup.Logging.Rotation
import CountryLookup.Settings.Basic

/-!
# Loggers

A logger says which events are written, how, and where to: to the error stream, with colours, or
to a file, of which there is one for each day if the settings ask for rotation. Opening it creates
the file.

## Main results

* `openSink_none` — without a file nothing is created.
-/

namespace CountryLookup.Logging

/-- Where lines are written. -/
inductive Sink where
  | errorStream
  | file (path : String)
  deriving Repr, DecidableEq

/-- Which events are written, how, and where to. -/
structure Logger where
  filter : Filter
  format : LineFormat
  sink : Sink
  deriving Repr, DecidableEq

/-- What becomes of opening something: the lines that are told at once, the files as they are
then, and what was opened or the causes of the failure. -/
structure Opening (α : Type) where
  told : List String := []
  files : FileTree
  result : Except (List String) α

namespace Logger

/-- The format that settings name. -/
def formatOf (name : String) (sink : Sink) : LineFormat :=
  if name = "json" then .json
  else match sink with
    | .errorStream => .colouredWords
    | .file _ => .words

/-- Opens the sink of a log on a date. The sink of a rotating log is the file of that date, also for
lines that are written later: it does not change to another file at midnight. -/
def openSink (s : LoggingSettings) (date : String) (files : FileTree) : Opening Sink :=
  match s.file.filter (· ≠ "") with
  | none => { files, result := .ok .errorStream }
  | some file =>
    if s.enableRotation then
      let r := Rotation.ofPath file
      let (files, told) := r.prune s.maxBackups.toNat files
      match r.create date files with
      | .ok files => { told, files, result := .ok (.file (r.path date)) }
      | .error e => { told, files, result := .error e.causes }
    else
      match files.append file [] with
      | .ok files => { files, result := .ok (.file file) }
      | .error e => { files, result := .error [e.message] }

/-- Opens the logger that settings describe. -/
def ofSettings (s : LoggingSettings) (date : String) (files : FileTree) : Opening Logger :=
  let opening := openSink s date files
  match opening.result with
  | .error causes => { told := opening.told, files := opening.files, result := .error causes }
  | .ok sink =>
    let (filter, complaints) := Filter.parse s.level
    { told := opening.told ++ complaints
      files := opening.files
      result := .ok ⟨filter, formatOf s.format sink, sink⟩ }

/-- Without a file nothing is created. -/
theorem openSink_none {s : LoggingSettings} (h : s.file = none) (date : String)
    (files : FileTree) : openSink s date files = { files, result := .ok .errorStream } := by
  simp [openSink, h]

end Logger

end CountryLookup.Logging
