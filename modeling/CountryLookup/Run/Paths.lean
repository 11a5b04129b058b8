import CountryLookup.Run

/-!
# The paths of a run

A run depends on few files, and which they are follows from what is known when they are needed: the
files of variables from the working directory, the configuration from the command line, and
database and log from the settings. Whoever supplies the files of a world needs to supply no
others.
-/

namespace CountryLookup

open CommandLine Logging

namespace FileTree

/-- The paths at which a file of variables is looked for. -/
def variablePaths (t : FileTree) : List String :=
  (VariableFile.upwards t.home.reverse).map fun place => Path.ofParts ("" :: place ++ [".env"])

/-- The paths at which a configuration is looked for. -/
def configurationPaths (t : FileTree) (path : String) : List String :=
  path :: (FileFormat.all.flatMap FileFormat.extensions).filterMap fun extension =>
    Path.extended? (t.absolute path) ("." ++ extension)

end FileTree

/-- The rotating log that settings ask for. -/
def LoggingSettings.rotation? (s : LoggingSettings) : Option Rotation :=
  if s.enableRotation then (s.file.filter (· ≠ "")).map Rotation.ofPath else none

/-- The paths at which a log is written on a date. -/
def LoggingSettings.paths (s : LoggingSettings) (date : String) : List String :=
  match s.rotation? with
  | some r => [r.path date]
  | none => s.file.toList

/-- The paths that carrying a command out looks at. -/
def CommandLine.Command.paths (s : Settings) : Command → List String
  | .configGen output => output.toList
  | _ => [s.database.externalPath]

end CountryLookup
