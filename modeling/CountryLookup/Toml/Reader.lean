import CountryLookup.Toml.Scalar
import CountryLookup.Toml.Table

/-!
# Reading TOML

A document is read line by line into statements, and those are then carried out one after the
other. Values nest in lists and in tables on one line; both may run over several lines, with
comments, and end with a comma. They nest eighty deep at most, and a dotted name has at most
eighty names before the last.
-/

namespace CountryLookup.Toml

/-- A reader of values: the value, and the characters behind it. -/
abbrev ValueReader := List Char → Option (Setting × List Char)

/-- How deep values nest. -/
def maxDepth : Nat := 80

/-! ## Blanks, breaks and comments -/

/-- Skips white space, line breaks and comments; `none` at what no comment may hold. -/
def skipLines (inComment : Bool) : List Char → Option (List Char)
  | [] => some []
  | '\n' :: cs => skipLines false cs
  | '\r' :: '\n' :: cs => skipLines false cs
  | c :: cs =>
    if inComment then if isPrintable c then skipLines true cs else none
    else if isGap c then skipLines false cs
    else if c == '#' then skipLines true cs
    else some (c :: cs)

/-- Goes on behind the end of a line, where nothing stands but white space and a comment. -/
def endLine (cs : List Char) : Option (List Char) :=
  match cs.dropWhile isGap with
  | [] => some []
  | '\n' :: cs => some cs
  | '\r' :: '\n' :: cs => some cs
  | '#' :: cs => skipLines true cs
  | _ => none

/-! ## Names -/

/-- The characters of a name without quotes. -/
def isNameChar (c : Char) : Bool := c.isAlphanum || c == '_' || c == '-'

/-- Reads a single name, with quotes or without. -/
def readName : List Char → Option (List Char × List Char)
  | '"' :: '"' :: '"' :: _ => none
  | '"' :: cs => readBasic cs
  | '\'' :: '\'' :: '\'' :: _ => none
  | '\'' :: cs => readLiteral cs
  | cs =>
    match cs.takeWhile isNameChar with
    | [] => none
    | name => some (name, cs.dropWhile isNameChar)

/-- Reads a dotted name; the fuel bounds the number of names. White space behind it is skipped. -/
def readPath : Nat → List Char → Option (List String × List Char)
  | 0, _ => none
  | fuel + 1, cs => do
    let (k, cs) ← readName (cs.dropWhile isGap)
    match cs.dropWhile isGap with
    | '.' :: cs =>
      let (ks, cs) ← readPath fuel cs
      return (String.ofList k :: ks, cs)
    | cs => return ([String.ofList k], cs)

/-- Reads a dotted name, an equals sign and a value. -/
def readAssignment (item : ValueReader) (cs : List Char) :
    Option ((List String × Setting) × List Char) := do
  let (path, cs) ← readPath (maxDepth + 1) cs
  let '=' :: cs := cs | none
  let (v, cs) ← item (cs.dropWhile isGap)
  return ((path, v), cs)

/-! ## Values -/

/-- Reads the elements of a list up to its closing bracket; the fuel bounds their number. -/
def readElements (item : ValueReader) : Nat → List Char → Option (List Setting × List Char)
  | 0, _ => none
  | fuel + 1, cs => do
    match ← skipLines false cs with
    | ']' :: cs => return ([], cs)
    | cs =>
      let (v, cs) ← item cs
      match ← skipLines false cs with
      | ',' :: cs =>
        let (vs, cs) ← readElements item fuel cs
        return (v :: vs, cs)
      | ']' :: cs => return ([v], cs)
      | _ => none

/-- Reads the assignments of a table up to its closing brace; the fuel bounds their number. -/
def readAssignments (item : ValueReader) :
    Nat → List Char → Option (List (List String × Setting) × List Char)
  | 0, _ => none
  | fuel + 1, cs => do
    match ← skipLines false cs with
    | '\x7d' :: cs => return ([], cs)
    | cs =>
      let (a, cs) ← readAssignment item cs
      match ← skipLines false cs with
      | ',' :: cs =>
        let (as, cs) ← readAssignments item fuel cs
        return (a :: as, cs)
      | '\x7d' :: cs => return ([a], cs)
      | _ => none

/-- Reads a string or a plain value. -/
def readSimple : ValueReader
  | '"' :: cs => (readText ('"' :: cs)).map fun r => (.text (String.ofList r.1), r.2)
  | '\'' :: cs => (readText ('\'' :: cs)).map fun r => (.text (String.ofList r.1), r.2)
  | cs => readWord cs

/-- Reads one value that starts here, given how to read the values inside it. -/
def readOne (item : ValueReader) : ValueReader
  | '[' :: cs => (readElements item (cs.length + 1) cs).map fun r => (.list r.1, r.2)
  | '\x7b' :: cs => do
    let (as, cs) ← readAssignments item (cs.length + 1) cs
    return (← ofAssignments as, cs)
  | cs => readSimple cs

/-- Reads one value in which at most `depth` levels nest. -/
def readValue : Nat → ValueReader
  | 0 => readSimple
  | depth + 1 => readOne (readValue depth)

/-! ## Documents -/

/-- Reads a header behind its opening bracket. -/
def readHeader (cs : List Char) : Option (Statement × List Char) :=
  match cs with
  | '[' :: cs => do
    let (path, cs) ← readPath (maxDepth + 1) cs
    let ']' :: ']' :: cs := cs | none
    return (.element path, cs)
  | cs => do
    let (path, cs) ← readPath (maxDepth + 1) cs
    let ']' :: cs := cs | none
    return (.table path, cs)

/-- Reads one statement. -/
def readStatement : List Char → Option (Statement × List Char)
  | '[' :: cs => readHeader cs
  | cs => do
    let ((path, v), cs) ← readAssignment (readValue maxDepth) cs
    return (.assignment path v, cs)

/-- Reads statements to the end; the fuel bounds their number. -/
def readStatements : Nat → List Char → Option (List Statement)
  | 0, _ => none
  | fuel + 1, cs => do
    match ← skipLines false cs with
    | [] => return []
    | cs =>
      let (s, cs) ← readStatement cs
      let ss ← readStatements fuel (← endLine cs)
      return s :: ss

/-- The mark of the byte order, which may stand in front of a document. -/
def dropMark : List Char → List Char
  | '\uFEFF' :: cs => cs
  | cs => cs

/-- The table that a document describes. -/
def parse? (s : String) : Option (List (String × Setting)) := do
  let cs := dropMark s.toList
  ofStatements (← readStatements (cs.length + 1) cs)

end CountryLookup.Toml
