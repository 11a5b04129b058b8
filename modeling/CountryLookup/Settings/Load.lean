import CountryLookup.Settings.Decode
import CountryLookup.Settings.Formats

/-!
# Loading settings

Settings come from a file and from the environment, which is laid over the file. The file is the
one at the given path, if its name tells the format; if there is no file of that name, the first one
with the extension of a format behind it. Nothing that goes wrong ends the program: a tree that
cannot be built or does not convert is reported, and the defaults stand in for it. In every case the
token is resolved last.

## Main results

* `load_token` — the token of loaded settings is resolved.
-/

namespace CountryLookup

open Text

/-- What is reported about loading. -/
inductive LoadReport where
  | loaded | silent | undecodable | unbuildable
  deriving Repr, DecidableEq

/-- The words for a failure, and its cause behind them if there are words for it. -/
def withCause (failure : String) (cause : Option String) : String :=
  failure ++ (cause.map (": " ++ ·)).getD ""

/-- The line that a report writes, that of a failure with its cause. -/
def LoadReport.line? (path : String) (report : LoadReport) (cause : Option String := none) :
    Option String :=
  match report with
  | loaded => some ("[INFO] Configuration loaded from: " ++ path)
  | silent => none
  | undecodable => some (withCause "[ERROR] Failed to deserialize config" cause)
  | unbuildable => some (withCause "[ERROR] Failed to build config" cause)

/-- The mark of the byte order in front of a text. -/
def byteOrderMark : List UInt8 := [0xEF, 0xBB, 0xBF]

/-- The text of a file: without a mark of the byte order, and with `U+FFFD` for what is not
UTF-8. -/
def configurationText (bytes : List UInt8) : String :=
  Utf8.decodeWith '\uFFFD'
    (if byteOrderMark.isPrefixOf bytes then bytes.drop byteOrderMark.length else bytes)

namespace FileTree

/-- The path from the root. -/
def absolute (t : FileTree) (p : String) : String :=
  if Path.isAbsolute p then p else Path.ofParts ("" :: t.home) ++ "/" ++ p

/-- The content of the file at the end of a path, if there is one. -/
def content? (t : FileTree) (p : String) : Option (List UInt8) := (t.read p).toOption

/-- The content of the file beside a path: the one with an extension behind it. -/
def beside? (t : FileTree) (path extension : String) : Option (List UInt8) :=
  (Path.extended? (t.absolute path) ("." ++ extension)).bind t.content?

/-- The configuration file for a path, and its format. -/
def configuration? (t : FileTree) (path : String) (formats : Formats) :
    Option (FileFormat × List UInt8) :=
  match t.content? path with
  | some bytes => do
    let extension ← Path.extension? (← Path.fileName? path)
    let format ← FileFormat.ofExtension? extension
    return (format, bytes)
  | none =>
    formats.tried.findSome? fun e => (t.beside? path e.2).map (e.1, ·)

end FileTree

namespace Settings

/-- Assigns members to the places that their names denote. -/
def assignAll (ms : List (String × Setting)) (root : Setting) : Setting :=
  ms.foldl (fun root (k, v) => Setting.assign v (Step.stepsOf k) root) root

theorem assignAll_cons (k : String) (v : Setting) (ms : List (String × Setting)) (root : Setting) :
    assignAll ((k, v) :: ms) root = assignAll ms (Setting.assign v (Step.stepsOf k) root) := rfl

/-- The tree of a configuration: the file if there is one, and the environment over it. -/
def tree? (files : FileTree) (env : Environment) (path : String) (formats : Formats) :
    Option Setting := do
  let fromFile ← match files.configuration? path formats with
    | some (format, bytes) => formats.members? format (configurationText bytes)
    | none => some []
  let fromEnvironment ← env.settings?
  return assignAll fromEnvironment (assignAll fromFile (.table []))

/-- Loads settings before their token is resolved. -/
def loadRaw (files : FileTree) (env : Environment) (path : String) (formats : Formats) :
    LoadReport × Settings :=
  match tree? files env path formats with
  | none => (.unbuildable, {})
  | some tree =>
    match tree.toSettings? with
    | none => (.undecodable, {})
    | some settings => (if files.holds path then .loaded else .silent, settings)

/-- Loads settings. -/
def load (files : FileTree) (env : Environment) (path : String)
    (formats : Formats := .builtin) : LoadReport × Settings :=
  let (report, settings) := loadRaw files env path formats
  (report, settings.resolveToken (env.text? tokenVariable))

/-- **The token of loaded settings is the first usable one.** -/
theorem load_token (files : FileTree) (env : Environment) (path : String) (formats : Formats) :
    (load files env path formats).2.remote.token =
      RemoteSettings.firstToken (loadRaw files env path formats).2.remote.token
        (env.text? tokenVariable) := by
  rfl

end Settings

end CountryLookup
