import CountryLookup.Number.Double
import CountryLookup.Settings.Members

/-!
# Configuration trees

Whatever a configuration comes from, a file in one of two formats or variables of the
environment, it is a tree of tables, lists and plain values. Trees are laid over each other: a
table over a table sets name by name, anything else takes the place of what was there. A place in
the tree is a name followed by steps to members of tables and elements of lists, and what is
missing on the way to a place is created.

## Main results

* `get?_assign_name` — a value that is no table and is assigned to a name is found there.
-/

namespace CountryLookup

/-- A value in a configuration. -/
inductive Setting where
  | nothing
  | truth (b : Bool)
  | integer (i : Int)
  | real (x : Double)
  | text (s : String)
  | list (xs : List Setting)
  | table (ms : List (String × Setting))
  deriving Repr

/-- A step into a value: to a member of a table or to an element of a list, counted from the end
if negative. -/
inductive Step where
  | name (k : String)
  | index (i : Int)
  deriving Repr, DecidableEq

namespace Setting

/-- The members of a table; anything else has none. -/
def members : Setting → List (String × Setting)
  | table ms => ms
  | _ => []

/-- The elements of a list; anything else has none. -/
def elements : Setting → List Setting
  | list xs => xs
  | _ => []

mutual

/-- Lays a value over another. -/
def overlay (old : Setting) : Setting → Setting
  | table ms => table (overlayMembers old.members ms)
  | v => v

/-- Lays members over others. -/
def overlayMembers (olds : List (String × Setting)) :
    List (String × Setting) → List (String × Setting)
  | [] => olds
  | (k, v) :: ms =>
    overlayMembers (Members.put k (overlay ((Members.get? k olds).getD nothing) v) olds) ms

end

/-- The list with room for an element at an index, and the index counted from the start. Before
the first element and behind the last, `nothing` fills the gap. -/
def makeRoom (i : Int) (xs : List Setting) : List Setting × Nat :=
  if 0 ≤ i then (xs ++ List.replicate (i.toNat + 1 - xs.length) nothing, i.toNat)
  else
    let back := (-i).toNat
    if back ≤ xs.length then (xs, xs.length - back)
    else (List.replicate (back - xs.length) nothing ++ xs, 0)

/-- Assigns a value to a place below a value. -/
def assign (v : Setting) : List Step → Setting → Setting
  | [], here => overlay here v
  | .name k :: steps, here =>
    table (Members.put k (assign v steps ((Members.get? k here.members).getD nothing))
      here.members)
  | .index i :: steps, here =>
    let (xs, n) := makeRoom i here.elements
    list (xs.set n (assign v steps ((xs[n]?).getD nothing)))

/-- A table that another is laid over with nothing in it stays what it is. -/
@[simp] theorem overlay_table_nil (ms : List (String × Setting)) :
    overlay (table ms) (table []) = table ms := rfl

/-- What is no table takes the place of what was there. -/
theorem overlay_of_not_table {v : Setting} (h : ∀ ms, v ≠ table ms) (old : Setting) :
    overlay old v = v := by
  cases v <;> first | rfl | exact absurd rfl (h _)

/-- **An assigned value is found under its name.** -/
theorem get?_assign_name {v : Setting} (h : ∀ ms, v ≠ table ms) (k : String) (here : Setting) :
    Members.get? k (assign v [.name k] here).members = some v := by
  simp [assign, members, overlay_of_not_table h]

end Setting

end CountryLookup
