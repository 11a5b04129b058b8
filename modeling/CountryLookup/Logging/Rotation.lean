import CountryLookup.Files.Tree

/-!
# Rotating log files

A rotating log has a file for each day, named after the configured file, the date and `log`. When a
log is opened, old files are deleted first, the oldest one before the others, so that with the file
of the day no more remain than configured. The files that count are those in the same directory
whose names start as the log's files do and end in `log`.

A log that is still open at midnight goes on in the file of the next day, for which files are deleted
again. That second opening is not part of this: everything is said of the day on which a log is
opened, and of a log that is closed on that day.

## Main results

* `get?_prune_of_not_counts` — a file that does not count is never deleted.
-/

namespace CountryLookup.Logging

/-- A rotating log: the directory of its files, and how their names start. -/
structure Rotation where
  directory : String
  stem : String
  deriving Repr, DecidableEq

namespace Rotation

/-- Drops endings `.log`, one after the other, from a name read backwards. -/
def dropEndings : List Char → List Char
  | 'g' :: 'o' :: 'l' :: '.' :: cs => dropEndings cs
  | cs => cs

/-- The rotating log of a configured file. A path without a file name gets one. -/
def ofPath (file : String) : Rotation where
  directory := (Path.parent? file).getD "."
  stem :=
    let name := (Path.fileName? file).getD "geoip.log"
    String.ofList (dropEndings name.toList.reverse).reverse

/-- The name of the file of a day. -/
def fileName (r : Rotation) (date : String) : String :=
  if r.stem = "" then date ++ ".log" else r.stem ++ "." ++ date ++ ".log"

/-- The path of the file of a day. -/
def path (r : Rotation) (date : String) : String := Path.child r.directory (r.fileName date)

/-- Whether a file in the directory counts as a file of the log. -/
def counts (r : Rotation) (name : String) : Bool :=
  r.stem.toList.isPrefixOf name.toList && ['l', 'o', 'g'].isSuffixOf name.toList

/-- The names of the files that count, the oldest first. -/
def counted (r : Rotation) (files : FileTree) (place : Place) : List String :=
  ((files.filesIn place).map (·.1)).filter r.counts

/-- The names of the files to delete so that with one more file at most `most` are there. -/
def surplus (most : Nat) (names : List String) : List String :=
  if names.length < most then [] else names.take (names.length - (most - 1))

/-- The place of the directory. -/
def place? (r : Rotation) (files : FileTree) : Except FileError Place := do
  let place ← files.locate r.directory
  match files.get? place with
  | some .directory => .ok place
  | some (.regular _) => .error .notDirectory
  | none => .error .notFound

/-- Deletes files of a directory. -/
def deleteAll (place : Place) (names : List String) (files : FileTree) : FileTree :=
  names.foldl (fun files name => files.erase (place ++ [name])) files

/-- Deletes the surplus of old files. A directory that cannot be read is told of and left alone. -/
def prune (r : Rotation) (most : Nat) (files : FileTree) : FileTree × List String :=
  match r.place? files with
  | .ok place => (deleteAll place (surplus most (r.counted files place)) files, [])
  | .error e => (files, ["Error reading the log directory/files: " ++ e.message])

/-- Why a log cannot be opened. -/
inductive OpenError where
  | directory (e : FileError)
  | file (e : FileError)
  deriving Repr, DecidableEq

/-- The causes of the error, the nearest first. -/
def OpenError.causes : OpenError → List String
  | directory e => ["failed to create log directory: " ++ e.message, e.message]
  | file e => ["failed to create initial log file: " ++ e.message, e.message]

/-- Creates the file of a day, with its directory if need be; a file that exists is kept. -/
def create (r : Rotation) (date : String) (files : FileTree) : Except OpenError FileTree :=
  match files.append (r.path date) [] with
  | .ok files => .ok files
  | .error _ =>
    match files.createDirectories ((Path.parent? (r.path date)).getD "") with
    | .error e => .error (.directory e)
    | .ok files => (files.append (r.path date) []).mapError .file

/-! ## What pruning leaves alone -/

theorem get?_deleteAll (place q : Place) (names : List String) (files : FileTree)
    (h : ∀ name ∈ names, q ≠ place ++ [name]) :
    (deleteAll place names files).get? q = files.get? q := by
  induction names generalizing files with
  | nil => rfl
  | cons name names ih =>
    rw [deleteAll, List.foldl_cons]
    have h1 : q ≠ place ++ [name] := h name (by simp)
    have := ih (files.erase (place ++ [name])) fun n hn => h n (by simp [hn])
    rw [deleteAll] at this
    rw [this, FileTree.get?_erase, if_neg (fun e => h1 e.1)]

theorem surplus_subset {most : Nat} {names : List String} {name : String}
    (h : name ∈ surplus most names) : name ∈ names := by
  unfold surplus at h
  split at h
  · simp at h
  · exact List.mem_of_mem_take h

/-- **A file that does not count is never deleted.** -/
theorem get?_prune_of_not_counts {r : Rotation} {most : Nat} {files : FileTree} {q : Place}
    (h : ∀ name, q.getLast? = some name → r.counts name = false) :
    (r.prune most files).1.get? q = files.get? q := by
  unfold prune
  split
  · refine get?_deleteAll _ _ _ _ fun name hn he => ?_
    have hc : r.counts name = true := (List.mem_filter.1 (surplus_subset hn)).2
    rw [h name (by simp [he])] at hc
    exact absurd hc (by decide)
  · rfl

/-- At most one less than allowed remain. -/
theorem length_surplus {most : Nat} (names : List String) (h : 0 < most) :
    names.length - (surplus most names).length < most := by
  unfold surplus
  split
  · simpa using by assumption
  · simp only [List.length_take]
    omega

end Rotation

end CountryLookup.Logging
