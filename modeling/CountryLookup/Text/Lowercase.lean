import CountryLookup.Text.CaseTable

/-!
# Full lower-casing

Codes are published in lower case. The source of a code may be any text, so the mapping is the
full one of the Unicode standard: `İ` becomes two characters, and a capital sigma becomes `ς` at
the end of a word and `σ` elsewhere. Both facts make the mapping depend on the whole text and
not on one character, so it is defined on a list with the part already read beside it.
-/

namespace CountryLookup.Text

/-- The lower-case form of a character that has one of length one; every other character
itself. -/
def lowerChar (c : Char) : Char :=
  match upperRuns.find? (·.has c.toNat) with
  | some r => Char.ofNat (c.toNat + r.shift).toNat
  | none => c

/-- Whether the first character that is not ignorable is cased. -/
def nextIsCased (cs : List Char) : Bool :=
  match cs.dropWhile (caseIgnorable.has ·.toNat) with
  | c :: _ => cased.has c.toNat
  | [] => false

/-- Whether a capital sigma between `before`, nearest character first, and `after` ends a
word. -/
def endsWord (before after : List Char) : Bool :=
  nextIsCased before && !nextIsCased after

/-- Lower-cases a list; `before` holds what precedes it, nearest character first. -/
def lowerAfter (before : List Char) : List Char → List Char
  | [] => []
  | c :: cs =>
    (if c = 'Σ' then [if endsWord before cs then 'ς' else 'σ']
     else if c = 'İ' then ['i', '\u0307']
     else [lowerChar c]) ++ lowerAfter (c :: before) cs

/-- The lower-case form of a text. -/
def lowercase (s : String) : String := String.ofList (lowerAfter [] s.toList)

@[simp] theorem lowerAfter_nil (before : List Char) : lowerAfter before [] = [] := rfl

/-- Lower-casing never shortens a text to nothing. -/
theorem lowerAfter_ne_nil (before : List Char) {cs : List Char} (h : cs ≠ []) :
    lowerAfter before cs ≠ [] := by
  cases cs with
  | nil => exact absurd rfl h
  | cons c cs =>
    rw [lowerAfter]
    split
    · simp
    · split <;> simp

/-! ## The letters of ASCII -/

/-- Lower-cases the letters `A` to `Z` and leaves every other character alone, as names of
levels are compared. -/
def lowercaseAscii (s : String) : String := String.ofList (s.toList.map Char.toLower)

end CountryLookup.Text
