import CountryLookup.Settings.Tree

/-!
# Tables in TOML

A document is a sequence of headers and assignments, and what they may do to the tables that are
there already depends on how those came about. A header opens a table once, though it may open one
that the path of another header implied. An assignment to a dotted name may enter tables that
dotted names made and nothing that a header opened. Values, among them tables written on one line,
are closed.

## Main results

* `get?_closeMembers` — closing keeps every name, and no other.
-/

namespace CountryLookup.Toml

/-- How a table came about: on the way of a header, by its own header, or on the way of a dotted
name. -/
inductive Origin where
  | implied | declared | dotted
  deriving Repr, DecidableEq

/-- What a name stands for while a document is read: a value, a table, or a list of tables of
which the last is open. -/
inductive Node where
  | closed (v : Setting)
  | table (o : Origin) (ms : List (String × Node))
  | tables (done : List Setting) (last : List (String × Node))
  deriving Repr

mutual

/-- The value of what is read. -/
def Node.close : Node → Setting
  | .closed v => v
  | .table _ ms => .table (closeMembers ms)
  | .tables done last => .list (done ++ [.table (closeMembers last)])

/-- The values of members. -/
def closeMembers : List (String × Node) → List (String × Setting)
  | [] => []
  | (k, n) :: ms => (k, n.close) :: closeMembers ms

end

/-- **Closing keeps every name.** -/
theorem get?_closeMembers (k : String) (ms : List (String × Node)) :
    Members.get? k (closeMembers ms) = (Members.get? k ms).map Node.close := by
  induction ms with
  | nil => rfl
  | cons m ms ih =>
    obtain ⟨j, n⟩ := m
    by_cases h : j = k <;> simp [closeMembers, Members.get?, h, ih]

/-- Assigns a value to a dotted name below the members. The table in which the last name is set
must have come about by a dotted name, too, unless it is the one with the members. -/
def assign (v : Setting) : List String → List (String × Node) → Option (List (String × Node))
  | [], _ => none
  | [k], ms => if (Members.get? k ms).isSome then none else some (Members.put k (.closed v) ms)
  | p :: q :: rest, ms =>
    match Members.get? p ms with
    | none => (assign v (q :: rest) []).map fun sub => Members.put p (.table .dotted sub) ms
    | some (.table .dotted sub) =>
      (assign v (q :: rest) sub).map fun sub => Members.put p (.table .dotted sub) ms
    | some (.table .implied sub) =>
      if rest.isEmpty then none
      else (assign v (q :: rest) sub).map fun sub => Members.put p (.table .implied sub) ms
    | some (.tables done sub) =>
      if rest.isEmpty then none
      else (assign v (q :: rest) sub).map fun sub => Members.put p (.tables done sub) ms
    | some _ => none

/-- Changes the members of the table at the end of a path. Tables that are missing on the way are
implied; in a list of tables the way goes on in the last one. -/
def within (f : List (String × Node) → Option (List (String × Node))) :
    List String → List (String × Node) → Option (List (String × Node))
  | [], ms => f ms
  | p :: ps, ms =>
    match Members.get? p ms with
    | none => (within f ps []).map fun sub => Members.put p (.table .implied sub) ms
    | some (.table o sub) => (within f ps sub).map fun sub => Members.put p (.table o sub) ms
    | some (.tables done sub) =>
      (within f ps sub).map fun sub => Members.put p (.tables done sub) ms
    | some (.closed _) => none

/-- Opens a table by its header. -/
def openTable (k : String) (ms : List (String × Node)) : Option (List (String × Node)) :=
  match Members.get? k ms with
  | none => some (Members.put k (.table .declared []) ms)
  | some (.table .implied sub) => some (Members.put k (.table .declared sub) ms)
  | _ => none

/-- Opens the next table of a list by its header. -/
def openElement (k : String) (ms : List (String × Node)) : Option (List (String × Node)) :=
  match Members.get? k ms with
  | none => some (Members.put k (.tables [] []) ms)
  | some (.tables done sub) =>
    some (Members.put k (.tables (done ++ [.table (closeMembers sub)]) []) ms)
  | _ => none

/-! ## Documents -/

/-- What a line of a document does. A path is never empty. -/
inductive Statement where
  | table (path : List String)
  | element (path : List String)
  | assignment (path : List String) (v : Setting)
  deriving Repr

/-- A document while it is read: its members, and the path of the table that is open. -/
structure Draft where
  members : List (String × Node) := []
  path : List String := []

/-- What a statement makes of a draft, if it is allowed there. -/
def Draft.step (d : Draft) : Statement → Option Draft
  | .table path => do
    let k ← path.getLast?
    let ms ← within (openTable k) path.dropLast d.members
    return ⟨ms, path⟩
  | .element path => do
    let k ← path.getLast?
    let ms ← within (openElement k) path.dropLast d.members
    return ⟨ms, path⟩
  | .assignment path v => do
    let ms ← within (assign v path) d.path d.members
    return { d with members := ms }

/-- The table that statements make, if each is allowed where it stands. -/
def ofStatements (ss : List Statement) : Option (List (String × Setting)) :=
  (ss.foldlM Draft.step {}).map fun d => closeMembers d.members

/-- The table that assignments make, as they stand in a table on one line. -/
def ofAssignments (as : List (List String × Setting)) : Option Setting :=
  (as.foldlM (fun ms (path, v) => assign v path ms) []).map fun ms => .table (closeMembers ms)

end CountryLookup.Toml
