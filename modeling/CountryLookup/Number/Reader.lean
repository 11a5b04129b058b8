import CountryLookup.Number.Double
import CountryLookup.Text.Digits

/-!
# Reading doubles

A number is a sign, digits with a point among them or around them, and an exponent, of which only
the digits must be there, at least one. The names of infinity and of no number are read in any
case.

## Main results

* `parse?_empty` — an empty text is no number.
-/

namespace CountryLookup.Double

open Text

/-- Splits a sign off; it says whether the number is negative. -/
def sign : List Char → Bool × List Char
  | '-' :: cs => (true, cs)
  | '+' :: cs => (false, cs)
  | cs => (false, cs)

/-- Reads what follows the digits of a number to the end: an exponent or nothing. -/
def exponent? : List Char → Option Int
  | [] => some 0
  | c :: cs =>
    if c == 'e' || c == 'E' then
      let (neg, ds) := sign cs
      if ds.isEmpty || ds.any (fun d => !isDigit 10 d) then none
      else some (if neg then -(digitsValue 10 ds : Int) else (digitsValue 10 ds : Int))
    else none

/-- Reads a number without its sign. -/
def unsigned? (neg : Bool) (cs : List Char) : Option Double :=
  let whole := cs.takeWhile (isDigit 10)
  let (fraction, rest) := match cs.dropWhile (isDigit 10) with
    | '.' :: cs => (cs.takeWhile (isDigit 10), cs.dropWhile (isDigit 10))
    | cs => ([], cs)
  if whole.isEmpty && fraction.isEmpty then none
  else (exponent? rest).map fun e =>
    ofDecimal neg (digitsValue 10 (whole ++ fraction)) (e - fraction.length)

/-- Reads a text as a double. -/
def parse? (s : String) : Option Double :=
  let (neg, cs) := sign s.toList
  let word := String.ofList (cs.map Char.toLower)
  if word = "inf" ∨ word = "infinity" then some (.infinite neg)
  else if word = "nan" then some .nan
  else unsigned? neg cs

theorem parse?_empty : parse? "" = none := by decide +kernel

end CountryLookup.Double
