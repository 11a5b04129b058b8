import CountryLookup.Text.Digits
import CountryLookup.Toml.Text

/-!
# Writing TOML

A text is written in the plainest way that shows it as it is: between double quotes if nothing in
it needs an escape, else between single quotes, else over several lines with either kind of quote,
and with escapes only if there is no other way. A text with line breaks starts on a line of its
own.

## Main results

* `writeInside_plain` — plain characters stand as they are.
-/

namespace CountryLookup.Toml

open Text

/-! ## What a text needs -/

/-- The longest run of a character, given the length of the run that has just been passed and the
longest so far. -/
def longestRunFrom (q : Char) (run best : Nat) : List Char → Nat
  | [] => best
  | c :: cs =>
    if c = q then longestRunFrom q (run + 1) (max best (run + 1)) cs
    else longestRunFrom q 0 best cs

/-- The longest run of a character in a text. -/
def longestRun (q : Char) (cs : List Char) : Nat := longestRunFrom q 0 0 cs

/-- Whether a character can only be written as an escape; tabs and line breaks can be shown. -/
def isHidden (c : Char) : Bool := !isPrintable c && c != '\n'

/-- The four ways to write a string. -/
inductive QuoteStyle where
  | basic | literal | longBasic | longLiteral
  deriving Repr, DecidableEq

/-- The way in which a text is written. -/
def styleOf (cs : List Char) : QuoteStyle :=
  let hidden := cs.any isHidden
  let broken := cs.contains '\n'
  if !hidden && !broken && !cs.contains '\\' && !cs.contains '"' then .basic
  else if !hidden && !broken && !cs.contains '\'' then .literal
  else if !hidden && !cs.contains '\\' && longestRun '"' cs ≤ 2 then .longBasic
  else if !hidden && longestRun '\'' cs ≤ 2 then .longLiteral
  else if broken then .longBasic
  else .basic

/-! ## Writing a text -/

/-- A hidden character as an escape. -/
def escapeHidden (c : Char) : List Char :=
  match c with
  | '\x08' => ['\\', 'b']
  | '\x0c' => ['\\', 'f']
  | '\r' => ['\\', 'r']
  | c => ['\\', 'u', '0', '0', (Nat.digitChar (c.toNat / 16)).toUpper,
      (Nat.digitChar (c.toNat % 16)).toUpper]

/-- The inside of a string between double quotes. As many quotes in a row as `most` allows stand as
they are; `run` have just been passed. -/
def writeInside (long : Bool) (run : Nat) : List Char → List Char
  | [] => []
  | '"' :: cs =>
    if run < (if long then 2 else 0) then '"' :: writeInside long (run + 1) cs
    else '\\' :: '"' :: writeInside long 0 cs
  | '\t' :: cs => '\\' :: 't' :: writeInside long 0 cs
  | '\n' :: cs =>
    if long then '\n' :: writeInside long 0 cs else '\\' :: 'n' :: writeInside long 0 cs
  | '\\' :: cs => '\\' :: '\\' :: writeInside long 0 cs
  | c :: cs => (if isHidden c then escapeHidden c else [c]) ++ writeInside long 0 cs

/-- The line break that a text with line breaks starts with. -/
def openingBreak (cs : List Char) : List Char := if cs.contains '\n' then ['\n'] else []

/-- A text as a string in a given style. -/
def writeStyled (cs : List Char) : QuoteStyle → List Char
  | .basic => '"' :: writeInside false 0 cs ++ ['"']
  | .literal => '\'' :: cs ++ ['\'']
  | .longBasic => ['"', '"', '"'] ++ openingBreak cs ++ writeInside true 0 cs ++ ['"', '"', '"']
  | .longLiteral => ['\'', '\'', '\''] ++ openingBreak cs ++ cs ++ ['\'', '\'', '\'']

/-- A text as a string. -/
def writeText (s : String) : List Char := writeStyled s.toList (styleOf s.toList)

/-! ## Writing tables -/

/-- A line that assigns a value, already written, to a name that needs no quotes. -/
def writeLine (name : String) (value : List Char) : List Char :=
  name.toList ++ [' ', '=', ' '] ++ value ++ ['\n']

/-- A table with its header, of the fields that have values. -/
def writeTable (name : String) (fields : List (String × Option (List Char))) : List Char :=
  '[' :: name.toList ++ [']', '\n']
    ++ fields.flatMap fun f => ((f.2.map (writeLine f.1)).getD [])

/-- Tables with a blank line between each two. -/
def writeTables (tables : List (List Char)) : List Char := (tables.intersperse ['\n']).flatten

theorem writeInside_plain {cs : List Char} (h : cs.all isPlain = true) (ht : '\t' ∉ cs) :
    writeInside false 0 cs = cs := by
  induction cs with
  | nil => rfl
  | cons c cs ih =>
    simp only [List.all_cons, Bool.and_eq_true, isPlain, bne_iff_ne, List.mem_cons, not_or]
      at h ht
    obtain ⟨⟨⟨hp, hq⟩, hb⟩, hr⟩ := h
    have hn : c ≠ '\n' := by
      rintro rfl
      exact absurd hp (by decide)
    rw [writeInside, ih (by simpa [isPlain] using hr) ht.2]
    · simp [isHidden, hp]
    · exact hq
    · exact fun e => ht.1 e.symm
    · exact hn
    · exact hb

end CountryLookup.Toml
