import CountryLookup.Files.Path

/-!
# Files

A run of the program depends on files: configuration, databases, old logs. And it leaves files
behind. Both are values of one type, a tree of directories and files with a working directory, in
which a path is followed name by name as a file system does it. So every way in which following a
path, reading or writing can fail is a value too.

## Main results

* `get?_put`, `get?_erase` — what stands at a place after a change.
* `walk_put_regular` — writing a file changes no way through the tree that led to it.
-/

namespace CountryLookup

/-- Why a file operation fails. -/
inductive FileError where
  | notFound | alreadyExists | notDirectory | isDirectory | nameTooLong | zeroInName
  deriving Repr, DecidableEq

/-- The text of a file error. -/
def FileError.message : FileError → String
  | notFound => "No such file or directory (os error 2)"
  | alreadyExists => "File exists (os error 17)"
  | notDirectory => "Not a directory (os error 20)"
  | isDirectory => "Is a directory (os error 21)"
  | nameTooLong => "File name too long (os error 36)"
  | zeroInName => "file name contained an unexpected NUL byte"

/-- What can stand at a place. -/
inductive Entry where
  | directory
  | regular (content : List UInt8)
  deriving Repr, DecidableEq

/-- A place in the tree: the names from the root downwards. -/
abbrev Place := List String

/-- A tree of files and the place of the working directory. -/
structure FileTree where
  home : Place
  entries : List (Place × Entry) := []
  deriving Repr, DecidableEq

namespace FileTree

/-! ## Places -/

/-- What stands at a place. The working directory and those above it are always there. -/
def get? (t : FileTree) (p : Place) : Option Entry :=
  if p.isPrefixOf t.home then some .directory
  else (t.entries.find? fun e => e.1 = p).map (·.2)

/-- Removes what stands at a place. -/
def erase (t : FileTree) (p : Place) : FileTree :=
  { t with entries := t.entries.filter fun e => e.1 ≠ p }

/-- Puts something at a place, instead of what stands there. -/
def put (t : FileTree) (p : Place) (e : Entry) : FileTree :=
  { t with entries := (t.erase p).entries ++ [(p, e)] }

@[simp] theorem home_erase (t : FileTree) (p : Place) : (t.erase p).home = t.home := rfl

@[simp] theorem home_put (t : FileTree) (p : Place) (e : Entry) : (t.put p e).home = t.home := rfl

private theorem find?_filter_ne (es : List (Place × Entry)) (p q : Place) :
    (es.filter fun e => e.1 ≠ p).find? (fun e => e.1 = q) =
      if q = p then none else es.find? fun e => e.1 = q := by
  induction es with
  | nil => simp
  | cons e es ih =>
    by_cases hp : e.1 = p
    · by_cases hq : q = p
      · subst hq; simp_all
      · have : ¬ e.1 = q := fun h => hq (h ▸ hp)
        simp_all
    · by_cases hq : e.1 = q
      · have : ¬ q = p := fun h => hp (hq ▸ h)
        simp_all
      · simp_all

/-- After removing, nothing stands at the place, and elsewhere all is as before. -/
theorem get?_erase (t : FileTree) (p q : Place) :
    (t.erase p).get? q = if q = p ∧ q.isPrefixOf t.home = false then none else t.get? q := by
  unfold get? erase
  simp only [find?_filter_ne]
  by_cases h : q.isPrefixOf t.home = true <;> by_cases hq : q = p <;> simp [h, hq] <;> simp_all

/-- After putting, the entry stands at the place, and elsewhere all is as before. -/
theorem get?_put (t : FileTree) (p q : Place) (e : Entry) :
    (t.put p e).get? q = if q = p ∧ q.isPrefixOf t.home = false then some e else t.get? q := by
  unfold get? put erase
  simp only [List.find?_append, find?_filter_ne]
  by_cases h : q.isPrefixOf t.home = true
  · simp [h]
  · by_cases hq : q = p
    · subst hq
      simp [h]
    · have hne : ¬ p = q := fun e => hq e.symm
      simp [h, hq, hne]

/-- The places and contents of the files directly in a directory, in the order of the tree. -/
def filesIn (t : FileTree) (dir : Place) : List (String × List UInt8) :=
  t.entries.filterMap fun (p, e) =>
    match p.getLast?, e with
    | some name, .regular content => if p = dir ++ [name] then some (name, content) else none
    | _, _ => none

/-! ## Following a path -/

/-- Follows names from a place. Each step needs a directory to stand in; where the last one leads
need not exist. -/
def walk (t : FileTree) (here : Place) : List String → Except FileError Place
  | [] => .ok here
  | name :: names =>
    match t.get? here with
    | none => .error .notFound
    | some (.regular _) => .error .notDirectory
    | some .directory =>
      if !Path.isTelling name then t.walk here names
      else if name = ".." then t.walk here.dropLast names
      else if 255 < name.utf8ByteSize then .error .nameTooLong
      else t.walk (here ++ [name]) names

/-- The place that a path leads to. -/
def locate (t : FileTree) (p : String) : Except FileError Place :=
  if p.toList.contains '\x00' then .error .zeroInName
  else if p = "" then .error .notFound
  else if 4096 ≤ p.utf8ByteSize then .error .nameTooLong
  else t.walk (if Path.isAbsolute p then [] else t.home) (Path.names p)

/-- What stands at the end of a path. -/
def stat (t : FileTree) (p : String) : Except FileError Entry := do
  match t.get? (← t.locate p) with
  | some e => .ok e
  | none => .error .notFound

/-- Whether something stands at the end of a path. -/
def holds (t : FileTree) (p : String) : Bool :=
  match t.stat p with
  | .ok _ => true
  | .error _ => false

/-- The content of the file at the end of a path. -/
def read (t : FileTree) (p : String) : Except FileError (List UInt8) := do
  match ← t.stat p with
  | .regular content => .ok content
  | .directory => .error .isDirectory

/-! ## Changes -/

/-- The place of a file that is to be written, and its content so far. A path that ends in a slash
stands for a directory. -/
def locateFile (t : FileTree) (p : String) : Except FileError (Place × List UInt8) := do
  let q := if Path.withoutEndSlashes p = "" then p else Path.withoutEndSlashes p
  let place ← t.locate q
  match t.get? place with
  | some .directory => .error .isDirectory
  | some (.regular content) => if q = p then .ok (place, content) else .error .isDirectory
  | none => if q = p then .ok (place, []) else .error .isDirectory

/-- Writes a file, new or instead of an old one. -/
def write (t : FileTree) (p : String) (content : List UInt8) : Except FileError FileTree := do
  let (place, _) ← t.locateFile p
  .ok (t.put place (.regular content))

/-- Writes at the end of a file, which is created if need be. -/
def append (t : FileTree) (p : String) (content : List UInt8) : Except FileError FileTree := do
  let (place, old) ← t.locateFile p
  .ok (t.put place (.regular (old ++ content)))

/-- Creates a directory. -/
def createDirectory (t : FileTree) (p : String) : Except FileError FileTree := do
  let q := if Path.withoutEndSlashes p = "" then p else Path.withoutEndSlashes p
  let place ← t.locate q
  match t.get? place with
  | some _ => .error .alreadyExists
  | none => .ok (t.put place .directory)

/-- Whether a directory stands at the end of a path. -/
def isDirectory (t : FileTree) (p : String) : Bool :=
  match t.stat p with
  | .ok .directory => true
  | _ => false

/-- Creates a directory that may exist already. -/
def ensureDirectory (t : FileTree) (p : String) : Except FileError FileTree :=
  match t.createDirectory p with
  | .ok t => .ok t
  | .error e => if t.isDirectory p then .ok t else .error e

/-- Creates a directory and those above it that are missing. The fuel bounds how many names the
path has. -/
def createDirectoriesWith (fuel : Nat) (t : FileTree) (p : String) : Except FileError FileTree :=
  if p = "" then .ok t
  else match fuel with
    | 0 => t.ensureDirectory p
    | fuel + 1 =>
      match t.ensureDirectory p with
      | .error .notFound =>
        match Path.parent? p with
        | none => .error .notFound
        | some parent =>
          match createDirectoriesWith fuel t parent with
          | .ok t => t.ensureDirectory p
          | .error e => .error e
      | result => result

/-- Creates a directory and those above it that are missing. -/
def createDirectories (t : FileTree) (p : String) : Except FileError FileTree :=
  createDirectoriesWith p.length t p

/-- Puts an entry at the end of a path and creates the directories above it; what cannot be put
there is left out. -/
def install (t : FileTree) (p : String) (e : Entry) : FileTree :=
  let above := match Path.parent? p with
    | some parent => (t.createDirectories parent).toOption.getD t
    | none => t
  match e with
  | .directory => (above.createDirectories p).toOption.getD above
  | .regular content => (above.write p content).toOption.getD above

/-- A way that leads to a file, or to where one can be, leads there also after it is written. -/
theorem walk_put_regular {t : FileTree} {p : Place} (names : List String)
    {start : Place} (c c' : List UInt8) (h : t.walk start names = .ok p)
    (hp : t.get? p = none ∨ t.get? p = some (.regular c)) :
    (t.put p (.regular c')).walk start names = .ok p := by
  induction names generalizing start with
  | nil => simpa [walk] using h
  | cons name names ih =>
    rw [walk] at h ⊢
    by_cases hs : start = p
    · subst hs
      rcases hp with hp | hp <;> simp [hp] at h
    · have hg : (t.put p (.regular c')).get? start = t.get? start := by
        rw [get?_put, if_neg (fun h => hs h.1)]
      rw [hg]
      cases hq : t.get? start with
      | none => simp [hq] at h
      | some e =>
        cases e with
        | regular _ => simp [hq] at h
        | directory =>
          simp only [hq] at h ⊢
          split
          · rw [if_pos ‹_›] at h; exact ih h
          · rw [if_neg ‹_›] at h
            split
            · rw [if_pos ‹_›] at h; exact ih h
            · rw [if_neg ‹_›] at h
              split
              · rw [if_pos ‹_›] at h; cases h
              · rw [if_neg ‹_›] at h; exact ih h

end FileTree

end CountryLookup
