import CountryLookup.Run.Paths
import Std.Time.DateTime.Timestamp

/-!
# The program

The files that a run may look at are read into a tree, the run is computed from them, and then what
it wrote is written and the files are made to be as it left them. Nothing is decided here.
-/

namespace CountryLookup.Program

open CommandLine Logging

/-- The path of a place. -/
def pathOf (place : Place) : String := Path.ofParts ("" :: place)

/-- What stands at a place. -/
def entryAt (place : Place) : IO (Option Entry) := do
  try
    return some (.regular (← IO.FS.readBinFile (pathOf place)).toList)
  catch _ =>
    try
      let _ ← ((← IO.currentDir) / pathOf place).readDir
      return some .directory
    catch _ => return none

/-- Adds to a tree what stands along a path. -/
def observeAlong (t : FileTree) (here : Place) : List String → IO FileTree
  | [] => return t
  | name :: names => do
    let next :=
      if !Path.isTelling name then here else if name = ".." then here.dropLast else here ++ [name]
    let t ← if (t.get? next).isSome then pure t
      else match ← entryAt next with
        | some e => pure (t.put next e)
        | none => pure t
    observeAlong t next names

/-- Adds to a tree what stands along paths. -/
def observe (t : FileTree) (paths : List String) : IO FileTree :=
  paths.foldlM
    (fun t p => observeAlong t (if Path.isAbsolute p then [] else t.home) (Path.names p)) t

/-- Adds the files of a rotating log to a tree, the oldest first. -/
def observeLog (t : FileTree) (r : Rotation) : IO FileTree := do
  let t ← observe t [r.directory]
  try
    let found ← ((← IO.currentDir) / r.directory).readDir
    let dated ← (found.toList.filter fun e => r.counts e.fileName).mapM fun e =>
      return ((← e.path.metadata).modified, e.fileName)
    let sorted := dated.mergeSort fun a b => (compare a.1 b.1).isLE
    observe t (sorted.map fun e => Path.child r.directory e.2)
  catch _ => return t

/-- The files that a run with given arguments may look at. -/
def observeAll (env : Environment) (start : Instant) (args : List String) : IO FileTree := do
  let home := (Path.names (← IO.currentDir).toString).filter Path.isTelling
  let t : FileTree := ⟨home, []⟩
  let t ← observe t t.variablePaths
  match parse args with
  | .error _ => return t
  | .ok i =>
    let t ← observe t (t.configurationPaths i.config)
    let s := (Settings.load t (VariableFile.load t env) i.config).2
    let t ← match s.logging.rotation? with
      | some r => observeLog t r
      | none => pure t
    observe t (s.logging.paths start.date ++ i.command.paths s)

/-- Makes what stands at places as it is in a new tree. -/
def writeBack (old new : FileTree) : IO Unit := do
  for (place, e) in new.entries do
    if old.get? place ≠ some e then
      match e with
      | .directory => IO.FS.createDirAll (pathOf place)
      | .regular content => IO.FS.writeBinFile (pathOf place) ⟨content.toArray⟩
  for (place, _) in old.entries do
    if (new.get? place).isNone then IO.FS.removeFile (pathOf place)

/-- The present time. -/
def now : IO Instant := do
  let t ← Std.Time.Timestamp.now
  return ⟨(t.toNanosecondsSinceUnixEpoch.val / 1000).toNat⟩

/-- Runs the program: the exit status. -/
def execute (args : List String) : IO UInt32 := do
  let start ← now
  let env := Environment.ofBlock (← IO.FS.readBinFile "/proc/self/environ").toList
  let files ← observeAll env start args
  let o := run {
    files := files
    environment := env
    network := Network.unreachable
    start := start
    clock := fun _ => start } args
  IO.print o.output
  IO.eprint o.errors
  writeBack files o.files
  return o.status.toUInt32

end CountryLookup.Program

def main (args : List String) : IO UInt32 := CountryLookup.Program.execute args
