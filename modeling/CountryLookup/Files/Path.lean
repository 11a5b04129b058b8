import CountryLookup.Text.Fields
import CountryLookup.Text.Space

/-!
# Paths

A path is a text of names between slashes. Empty names and names that are a single dot say
nothing, save in front, where the empty name stands for the root. What a file is called, where it
lies and of what format it is are read off the last name. The examples at the end show what becomes
of dots and of slashes in odd places.
-/

namespace CountryLookup.Path

open Text

/-- The names between the slashes, empty ones included. -/
def names (p : String) : List String := (fields '/' p.toList).map String.ofList

/-- Whether the path starts at the root. -/
def isAbsolute (p : String) : Bool := p.toList.head? == some '/'

/-- The path without the slashes at its end. -/
def withoutEndSlashes (p : String) : String := String.ofList (dropEndWhile (· == '/') p.toList)

/-- Whether a name says something. -/
def isTelling (name : String) : Bool := name ≠ "" && name ≠ "."

/-- The first name and those of the others that say something. The empty path has none. -/
def parts (p : String) : List String :=
  if p = "" then []
  else match names p with
    | [] => []
    | first :: rest => first :: rest.filter isTelling

/-- The path of given parts. -/
def ofParts : List String → String
  | [""] => "/"
  | ps => String.intercalate "/" ps

/-- The path of the directory that the path lies in; it is empty for a single name, and the root
and the empty path lie nowhere. -/
def parent? (p : String) : Option String :=
  match parts p with
  | [] => none
  | [""] => none
  | ps => some (ofParts ps.dropLast)

/-- The last name, if it names something and does not lead upwards. -/
def fileName? (p : String) : Option String :=
  match (parts p).getLast? with
  | some name => if isTelling name && name ≠ ".." then some name else none
  | none => none

/-- What stands after the last dot of a name. A dot at the start begins no extension. -/
def extension? (name : String) : Option String :=
  match (fields '.' name.toList).reverse with
  | ext :: front =>
    if front.isEmpty || front == [[]] then none else some (String.ofList ext)
  | [] => none

/-- The path with a text behind its file name, if it has one. -/
def extended? (p ending : String) : Option String :=
  (fileName? p).map fun name => ofParts ((parts p).dropLast ++ [name ++ ending])

/-- A name in a directory. -/
def child (dir name : String) : String := if dir = "" then name else dir ++ "/" ++ name

example : (["a/b", "./b", "b", "/b", "/", "", "a/./b/", "a/.."].map parent?) =
    [some "a", some ".", some "", some "/", none, none, some "a", some "a"] := by decide +kernel

example : (["a/b.c", "a/", "a/.", "..", ""].map fileName?) =
    [some "b.c", some "a", some "a", none, none] := by decide +kernel

example : (["a.b.c", "a", ".a", "a.", ".a.b"].map extension?) =
    [some "c", none, none, some "", some "b"] := by decide +kernel

end CountryLookup.Path
