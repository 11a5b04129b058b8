import CountryLookup.Files.Tree
import CountryLookup.Settings.Environment
import CountryLookup.Text.Space

/-!
# Variables from a file

A file `.env` in the working directory, or in the nearest directory above it that has one, adds
variables to the environment. A line is a name, an equals sign and a value, perhaps after the word
`export`. Values may be quoted, also over several lines, take escapes with a backslash, and refer
to other variables by a dollar sign. What the environment has already stays as it is, and reading
ends at the first line that makes no sense.

## Main results

* `addVariable_of_some` — a variable that is set keeps its value.
-/

namespace CountryLookup.VariableFile

open Text

/-! ## Lines -/

/-- Where the reader of lines stands: between words, behind white space, in quotes or behind a
backslash. -/
inductive Scan where
  | plain | blank | comment | escape
  | weak | weakEscape | strong | strongEscape
  deriving Repr, DecidableEq

/-- One character outside quotes. -/
def Scan.outside (c : Char) : Scan :=
  if c == '\\' then .escape else if c == '"' then .weak else if c == '\'' then .strong else .plain

/-- One character. -/
def Scan.step (s : Scan) (c : Char) : Scan :=
  match s with
  | .plain => if isSpace c && c != '\n' && c != '\r' then .blank else outside c
  | .blank => if c == '#' then .comment else outside c
  | .comment => .comment
  | .escape => .plain
  | .weak => if c == '\\' then .weakEscape else if c == '"' then .plain else .weak
  | .weakEscape => .weak
  | .strong => if c == '\\' then .strongEscape else if c == '\'' then .plain else .strong
  | .strongEscape => .strong

/-- Runs over a line up to a comment: what stands before the comment, and where the reader stands
then. -/
def Scan.run (s : Scan) : List Char → List Char × Scan
  | [] => ([], s)
  | c :: cs =>
    let next := s.step c
    if next = .comment then ([], .comment) else (c :: (run next cs).1, (run next cs).2)

/-- The lines of a file, each with its line break. -/
def physical : List UInt8 → List (List UInt8)
  | [] => []
  | b :: bs =>
    if b = 10 then [b] :: physical bs
    else match physical bs with
      | [] => [[b]]
      | l :: ls => (b :: l) :: ls

/-- A line without its line break. -/
def withoutBreak (cs : List Char) : List Char :=
  match cs.reverse with
  | '\n' :: '\r' :: r => r.reverse
  | '\n' :: r => r.reverse
  | _ => cs

/-- Joins lines that are in quotes together, `held` being what has been read of the next one. What
cannot be read is `none`. -/
def logical (held : List Char) (s : Scan) : List (List UInt8) → List (Option (List Char))
  | [] => if s = .plain then [] else [none]
  | l :: ls =>
    match Utf8.decode? l with
    | none => [none]
    | some text =>
      let all := held ++ text.toList
      if (all.dropWhile isSpace).head? = some '#' then some [] :: logical [] .plain ls
      else match s.run text.toList with
        | (_, .plain) => some (withoutBreak all) :: logical [] .plain ls
        | (kept, .comment) => some (held ++ kept) :: logical [] .plain ls
        | (_, s) => logical all s ls

/-! ## Values -/

/-- How a reference to a variable is being read: by a bare name or by a name in braces. -/
inductive Reference where
  | bare | braced
  deriving Repr, DecidableEq

/-- Where the reader of a value stands. -/
structure ValueState where
  strong : Bool := false
  weak : Bool := false
  escaped : Bool := false
  ended : Bool := false
  reference : Option Reference := none
  name : List Char := []
  output : List Char := []
  deriving Repr

/-- A function from names to the values that references to them stand for. -/
abbrev Lookup := List Char → List Char

namespace ValueState

/-- Puts a character out. -/
def put (s : ValueState) (c : Char) : ValueState := { s with output := s.output ++ [c] }

/-- Puts the value of the reference out. -/
def refer (look : Lookup) (s : ValueState) : ValueState :=
  { s with output := s.output ++ look s.name, name := [], reference := none }

/-- Whether a character belongs to a bare name. Characters beyond ASCII are taken for letters. -/
def isNameChar (c : Char) : Bool := c.isAlphanum || 128 ≤ c.toNat

/-- One character of a reference. -/
def stepReference (look : Lookup) (s : ValueState) (r : Reference) (c : Char) : ValueState :=
  if isNameChar c then { s with name := s.name ++ [c] }
  else match r with
    | .bare =>
      if c == '\x7b' && s.name.isEmpty then { s with reference := some .braced }
      else if c == '$' then { s.refer look with reference := some .bare }
      else (s.refer look).put c
    | .braced => if c == '\x7d' then s.refer look else { s with name := s.name ++ [c] }

/-- One character; `none` at what makes no sense. A comment ends the value. -/
def step (look : Lookup) (s : ValueState) (c : Char) : Option ValueState :=
  if s.ended then if c == ' ' || c == '\t' then some s else none
  else if s.escaped then
    let s := { s with escaped := false }
    if c == '\\' || c == '\'' || c == '"' || c == '$' || c == ' ' then some (s.put c)
    else if c == 'n' then some (s.put '\n')
    else none
  else if s.strong then some (if c == '\'' then { s with strong := false } else s.put c)
  else match s.reference with
    | some r => some (s.stepReference look r c)
    | none =>
      if c == '$' then some { s with reference := some .bare }
      else if s.weak then
        some (if c == '"' then { s with weak := false }
          else if c == '\\' then { s with escaped := true } else s.put c)
      else if c == '\'' then some { s with strong := true }
      else if c == '"' then some { s with weak := true }
      else if c == '\\' then some { s with escaped := true }
      else if c == ' ' || c == '\t' then some { s with ended := true }
      else some (s.put c)

/-- Runs over a value. -/
def run (look : Lookup) (s : ValueState) : List Char → Option ValueState
  | [] => some s
  | c :: cs => if s.ended && c == '#' then some s else (s.step look c).bind fun s => run look s cs

/-- The value at its end; `none` if quotes or braces are open. -/
def finish (look : Lookup) (s : ValueState) : Option (List Char) :=
  if s.strong || s.weak || s.reference = some .braced then none
  else some (s.refer look).output

end ValueState

/-- The value that a text stands for. -/
def value? (look : Lookup) (cs : List Char) : Option (List Char) :=
  (ValueState.run look {} cs).bind (·.finish look)

/-! ## Assignments -/

/-- Splits a name off. -/
def name? (cs : List Char) : Option (List Char × List Char) :=
  match cs with
  | c :: _ =>
    if c.isAlpha || c == '_' then
      let isPart (c : Char) : Bool := c.isAlphanum || c == '_' || c == '.'
      some (cs.takeWhile isPart, cs.dropWhile isPart)
    else none
  | [] => none

/-- Skips white space and an equals sign. -/
def afterEquals? (cs : List Char) : Option (List Char) :=
  match cs.dropWhile isSpace with
  | '=' :: cs => some cs
  | _ => none

/-- Splits a line at its equals sign into the name and what follows. The word `export` is a name if
the equals sign follows it. -/
def split? (cs : List Char) : Option (List Char × List Char) := do
  let (name, rest) ← name? cs
  match afterEquals? rest with
  | some value => return (name, value)
  | none =>
    if name = "export".toList then
      let (name, rest) ← name? (rest.dropWhile isSpace)
      return (name, ← afterEquals? rest)
    else none

/-- What a line says: nothing, or a variable and its value; `none` if it makes no sense. -/
def assignment? (look : Lookup) (line : List Char) : Option (Option (List Char × List Char)) := do
  let cs := trimChars line
  if cs.isEmpty || cs.head? = some '#' then return none
  let (name, rest) ← split? cs
  let rest := rest.dropWhile isSpace
  if rest.isEmpty || rest.head? = some '#' then return some (name, [])
  return some (name, ← value? look rest)

/-! ## Loading -/

/-- Adds a variable to an environment that does not have it. -/
def addVariable (env : Environment) (name value : String) : Environment :=
  match env.text? name with
  | some _ => env
  | none => Members.put name (Utf8.encode value) env

/-- The value of a variable in the environment, else in what the file assigned so far. -/
def lookIn (env : Environment) (assigned : List (String × String)) (name : List Char) :
    List Char :=
  let n := String.ofList name
  (((env.text? n).or (Members.get? n assigned)).getD "").toList

/-- Carries lines out up to the first one that makes no sense. -/
def carryOut (env : Environment) (assigned : List (String × String)) :
    List (Option (List Char)) → Environment
  | [] => env
  | none :: _ => env
  | some line :: lines =>
    match assignment? (lookIn env assigned) line with
    | none => env
    | some none => carryOut env assigned lines
    | some (some (name, value)) =>
      let n := String.ofList name
      let v := String.ofList value
      carryOut (addVariable env n v) (Members.put n v assigned) lines

/-- The mark of the byte order, which may stand in front of a file. -/
def dropMark : List UInt8 → List UInt8
  | 0xEF :: 0xBB :: 0xBF :: bs => bs
  | bs => bs

/-- The places of the directories from a place upwards, read backwards. -/
def upwards : List String → List Place
  | [] => [[]]
  | name :: names => (name :: names).reverse :: upwards names

/-- The file of variables that is in force. -/
def content? (files : FileTree) : Option (List UInt8) :=
  (upwards files.home.reverse).findSome? fun place =>
    match files.get? (place ++ [".env"]) with
    | some (.regular content) => some content
    | _ => none

/-- The environment with the variables of the file that is in force. -/
def load (files : FileTree) (env : Environment) : Environment :=
  match content? files with
  | some content => carryOut env [] (logical [] .plain (physical (dropMark content)))
  | none => env

/-- **A variable that is set keeps its value.** -/
theorem addVariable_of_some {env : Environment} {name v : String} (h : env.text? name = some v)
    (value : String) : addVariable env name value = env := by
  simp [addVariable, h]

end CountryLookup.VariableFile
