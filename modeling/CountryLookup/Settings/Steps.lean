import CountryLookup.Number.Power
import CountryLookup.Settings.Tree
import CountryLookup.Text.Digits
import CountryLookup.Text.Runs

/-!
# Places in a configuration

The names at the top of a configuration may be places: a name and then, in any number, a point
with a name or an index in square brackets. A name that is not of this form is a plain name.

## Main results

* `stepsOf_word` — a single word is the place of that name.
-/

namespace CountryLookup.Step

open Text

/-- The characters of the names in a place. -/
def isWordChar (c : Char) : Bool := c.isAlphanum || c == '_' || c == '-'

/-- Splits a word off; `none` if there is none. -/
def word? (cs : List Char) : Option (List Char × List Char) :=
  match cs.takeWhile isWordChar with
  | [] => none
  | w => some (w, cs.dropWhile isWordChar)

/-- White space inside square brackets. -/
def isGap (c : Char) : Bool := c == ' ' || c == '\t'

/-- Reads an index up to its closing bracket. It fits 64 bits. -/
def index? (cs : List Char) : Option (Int × List Char) :=
  let cs := cs.dropWhile isGap
  let (neg, cs) := match cs with
    | '-' :: cs => (true, cs)
    | cs => (false, cs)
  match cs.takeWhile (isDigit 10) with
  | [] => none
  | ds =>
    let n : Int := if neg then -(digitsValue 10 ds : Int) else (digitsValue 10 ds : Int)
    match (cs.dropWhile (isDigit 10)).dropWhile isGap with
    | ']' :: cs => if fitsSigned 64 n then some (n, cs) else none
    | _ => none

/-- Reads the steps after the first name; the fuel bounds their number. -/
def rest? : Nat → List Char → Option (List Step)
  | _, [] => some []
  | fuel + 1, '.' :: cs => do
    let (w, cs) ← word? cs
    let steps ← rest? fuel cs
    pure (.name (String.ofList w) :: steps)
  | fuel + 1, '[' :: cs => do
    let (i, cs) ← index? cs
    let steps ← rest? fuel cs
    pure (.index i :: steps)
  | _, _ => none

/-- The place that a name denotes, if it is of that form. -/
def place? (s : String) : Option (List Step) := do
  let (w, cs) ← word? s.toList
  let steps ← rest? cs.length cs
  pure (.name (String.ofList w) :: steps)

/-- The place that a name stands for: the one that it denotes, else the plain name itself. -/
def stepsOf (s : String) : List Step := (place? s).getD [.name s]

/-- **A word is the place of that name.** -/
theorem stepsOf_word {s : String} (h : s.toList.all isWordChar = true) :
    stepsOf s = [.name s] := by
  unfold stepsOf place? word?
  rw [takeWhile_all h, dropWhile_all h]
  cases hs : s.toList with
  | nil => rfl
  | cons c cs =>
    have : String.ofList (c :: cs) = s := by rw [← hs, String.ofList_toList]
    simp [rest?, this]

end CountryLookup.Step
