import CountryLookup.Json.Basic
import CountryLookup.Text.Digits

/-!
# Reading JSON

The reader takes the whole text or nothing. Each function answers with what it read and the
characters after it. Nesting is followed level by level: the function for one level is given the
function for the levels below, and a text cannot nest deeper than it is long.
-/

namespace CountryLookup.Json

open Text

/-- White space between tokens: space, tab, line feed and carriage return. -/
def isBlankChar (c : Char) : Bool := c == ' ' || c == '\t' || c == '\n' || c == '\r'

/-- The text from the next token on. -/
def skipBlank (cs : List Char) : List Char := cs.dropWhile isBlankChar

/-! ## Strings -/

/-- The character that a letter after a backslash stands for. -/
def escaped? : Char → Option Char
  | '"' => some '"'
  | '\\' => some '\\'
  | '/' => some '/'
  | 'b' => some '\x08'
  | 'f' => some '\x0c'
  | 'n' => some '\n'
  | 'r' => some '\r'
  | 't' => some '\t'
  | _ => none

/-- Reads a string after its opening quote. -/
def readString : List Char → Option (List Part × List Char)
  | '"' :: cs => some ([], cs)
  | '\\' :: 'u' :: a :: b :: c :: d :: cs =>
    if isDigit 16 a && isDigit 16 b && isDigit 16 c && isDigit 16 d then
      (readString cs).map fun r => (.code (digitsValue 16 [a, b, c, d]) :: r.1, r.2)
    else none
  | '\\' :: e :: cs =>
    match escaped? e with
    | some x => (readString cs).map fun r => (.char x :: r.1, r.2)
    | none => none
  | c :: cs =>
    if c == '\\' || c.toNat < 0x20 then none
    else (readString cs).map fun r => (.char c :: r.1, r.2)
  | [] => none

/-! ## Numbers -/

/-- Splits a text after its leading decimal digits. -/
def spanDigits (cs : List Char) : List Char × List Char := cs.span (isDigit 10)

/-- Reads a fraction, if there is one; a point needs a digit behind it. -/
def readFraction : List Char → Option (List Char × List Char)
  | '.' :: cs =>
    match spanDigits cs with
    | ([], _) => none
    | r => some r
  | cs => some ([], cs)

/-- Reads an exponent, if there is one; its sign says whether it is negative. -/
def readExponent : List Char → Option (Option (Bool × List Char) × List Char)
  | c :: cs =>
    if c == 'e' || c == 'E' then
      let (negative, cs) := match cs with
        | '-' :: cs => (true, cs)
        | '+' :: cs => (false, cs)
        | cs => (false, cs)
      match spanDigits cs with
      | ([], _) => none
      | (ds, cs) => some (some (negative, ds), cs)
    else some (none, c :: cs)
  | [] => some (none, [])

/-- Reads a number. Its whole part is zero or starts with another digit. -/
def readNumber (cs : List Char) : Option (Number × List Char) := do
  let (neg, cs) := match cs with
    | '-' :: cs => (true, cs)
    | cs => (false, cs)
  let (whole, cs) ← match spanDigits cs with
    | ([], _) => none
    | (['0'], cs) => some (['0'], cs)
    | ('0' :: _, _) => none
    | r => some r
  let (fraction, cs) ← readFraction cs
  let (exponent, cs) ← readExponent cs
  pure ({ neg, whole, fraction, exponent }, cs)

/-! ## Containers -/

/-- Reads the elements of an array from the first one on; `fuel` bounds their number. -/
def readElements (item : List Char → Option (Value × List Char)) :
    Nat → List Char → Option (List Value × List Char)
  | 0, _ => none
  | fuel + 1, cs => do
    let (v, cs) ← item (skipBlank cs)
    match skipBlank cs with
    | ',' :: cs =>
      let (vs, cs) ← readElements item fuel cs
      pure (v :: vs, cs)
    | ']' :: cs => pure ([v], cs)
    | _ => none

/-- Reads the members of an object from the first one on; `fuel` bounds their number. -/
def readMembers (item : List Char → Option (Value × List Char)) :
    Nat → List Char → Option (List (List Part × Value) × List Char)
  | 0, _ => none
  | fuel + 1, cs => do
    let (k, cs) ← match skipBlank cs with
      | '"' :: cs => readString cs
      | _ => none
    let cs ← match skipBlank cs with
      | ':' :: cs => some cs
      | _ => none
    let (v, cs) ← item (skipBlank cs)
    match skipBlank cs with
    | ',' :: cs =>
      let (ms, cs) ← readMembers item fuel cs
      pure ((k, v) :: ms, cs)
    | '\x7d' :: cs => pure ([(k, v)], cs)
    | _ => none

/-- Reads one value that starts here, given how to read the values inside it. -/
def readOne (item : List Char → Option (Value × List Char)) (cs : List Char) :
    Option (Value × List Char) :=
  match cs with
  | 'n' :: 'u' :: 'l' :: 'l' :: cs => some (.null, cs)
  | 't' :: 'r' :: 'u' :: 'e' :: cs => some (.bool true, cs)
  | 'f' :: 'a' :: 'l' :: 's' :: 'e' :: cs => some (.bool false, cs)
  | '"' :: cs => (readString cs).map fun r => (.text r.1, r.2)
  | '[' :: cs =>
    match skipBlank cs with
    | ']' :: cs => some (.array [], cs)
    | _ => (readElements item cs.length cs).map fun r => (.array r.1, r.2)
  | '\x7b' :: cs =>
    match skipBlank cs with
    | '\x7d' :: cs => some (.object [], cs)
    | _ => (readMembers item cs.length cs).map fun r => (.object r.1, r.2)
  | cs => (readNumber cs).map fun r => (.number r.1, r.2)

/-- Reads one value in which at most `depth` levels nest. -/
def readValue : Nat → List Char → Option (Value × List Char)
  | 0 => fun _ => none
  | depth + 1 => readOne (readValue depth)

/-- Reads a whole text as one value. -/
def parse? (s : String) : Option Value := do
  let cs := skipBlank s.toList
  let (v, cs) ← readValue (cs.length + 1) cs
  if (skipBlank cs).isEmpty then pure v else none

end CountryLookup.Json
