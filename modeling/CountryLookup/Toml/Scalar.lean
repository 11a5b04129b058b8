import CountryLookup.Number.Power
import CountryLookup.Settings.Tree
import CountryLookup.Text.Digits
import CountryLookup.Text.Fields
import CountryLookup.Toml.Text

/-!
# Plain values in TOML

A plain value is a word: a truth value, an integer in one of four bases, a number with a point or
an exponent, or a moment in time. Digits may be grouped by single underscores. Only one space may
stand inside a plain value, the one between a date and a time.

A moment in time is a text to all settings, so it is read as its normal text, with a capital `T`
between date and time.

## Main results

* `integer?_range` — an integer that is read fits 64 bits.
-/

namespace CountryLookup.Toml

open Text

/-! ## Numbers -/

/-- The digits of a group notation: digits with single underscores between them. -/
def grouped? (base : Nat) (cs : List Char) : Option (List Char) :=
  let groups := fields '_' cs
  if groups.all fun g => !g.isEmpty && g.all (isDigit base) then some groups.flatten else none

/-- The digits of a whole number, which starts with a zero only if it is zero. -/
def whole? (cs : List Char) : Option (List Char) :=
  match grouped? 10 cs with
  | some ('0' :: _ :: _) => none
  | ds => ds

/-- Splits a sign off; it says whether the number is negative. -/
def sign : List Char → Bool × List Char
  | '-' :: cs => (true, cs)
  | '+' :: cs => (false, cs)
  | cs => (false, cs)

/-- An integer as written, of any size. -/
def unbounded? : List Char → Option Int
  | '0' :: 'x' :: cs => (grouped? 16 cs).map fun ds => (digitsValue 16 ds : Int)
  | '0' :: 'o' :: cs => (grouped? 8 cs).map fun ds => (digitsValue 8 ds : Int)
  | '0' :: 'b' :: cs => (grouped? 2 cs).map fun ds => (digitsValue 2 ds : Int)
  | cs =>
    let (neg, cs) := sign cs
    (whole? cs).map fun ds => if neg then -(digitsValue 10 ds : Int) else (digitsValue 10 ds : Int)

/-- An integer that fits 64 bits. -/
def integer? (cs : List Char) : Option Int :=
  (unbounded? cs).filter (fitsSigned 64)

theorem integer?_range {cs : List Char} {i : Int} (h : integer? cs = some i) :
    fitsSigned 64 i = true :=
  (Option.filter_eq_some_iff.1 h).2

/-- The exponent behind its letter. -/
def exponent? (cs : List Char) : Option Int :=
  let (neg, cs) := sign cs
  (grouped? 10 cs).map fun ds =>
    if neg then -(digitsValue 10 ds : Int) else (digitsValue 10 ds : Int)

/-- Whether a character starts an exponent. -/
def isExponentLetter (c : Char) : Bool := c == 'e' || c == 'E'

/-- A number with a point, an exponent or both. -/
def real? (cs : List Char) : Option Double := do
  let (neg, cs) := sign cs
  if cs = ['i', 'n', 'f'] then return .infinite neg
  if cs = ['n', 'a', 'n'] then return .nan
  let mantissa := cs.takeWhile fun c => !isExponentLetter c
  let e ← match cs.dropWhile fun c => !isExponentLetter c with
    | [] => some 0
    | _ :: cs => exponent? cs
  let whole ← whole? (mantissa.takeWhile (· != '.'))
  let fraction ← match mantissa.dropWhile (· != '.') with
    | [] => if mantissa = cs then none else some []
    | _ :: cs => grouped? 10 cs
  let x := Double.ofDecimal neg (digitsValue 10 (whole ++ fraction)) (e - fraction.length)
  if x.isFinite then return x else none

/-! ## Moments -/

/-- Splits a number of exactly `width` digits off, with its value. -/
def digits? (width : Nat) (cs : List Char) : Option (Nat × List Char × List Char) :=
  let ds := cs.take width
  if ds.length = width && ds.all (isDigit 10) then some (digitsValue 10 ds, ds, cs.drop width)
  else none

/-- How many days a month has. -/
def daysIn (year month : Nat) : Nat :=
  if month = 2 then
    if year % 4 = 0 ∧ (year % 100 ≠ 0 ∨ year % 400 = 0) then 29 else 28
  else if month = 4 ∨ month = 6 ∨ month = 9 ∨ month = 11 then 30
  else 31

/-- Splits a date off. -/
def date? (cs : List Char) : Option (List Char × List Char) := do
  let (year, y, cs) ← digits? 4 cs
  let '-' :: cs := cs | none
  let (month, m, cs) ← digits? 2 cs
  let '-' :: cs := cs | none
  let (day, d, cs) ← digits? 2 cs
  if 1 ≤ month ∧ month ≤ 12 ∧ 1 ≤ day ∧ day ≤ daysIn year month then
    return (y ++ '-' :: m ++ '-' :: d, cs)
  else none

/-- The digits of a fraction of a second as they are kept: nine at most, no zeros at the end. -/
def fractionText (ds : List Char) : List Char :=
  match ((ds.take 9).reverse.dropWhile (· == '0')).reverse with
  | [] => ['0']
  | ds => ds

/-- Splits seconds off, if there are any. -/
def seconds? : List Char → Option (List Char × List Char)
  | ':' :: cs => do
    let (second, s, cs) ← digits? 2 cs
    if 60 < second then none
    else match cs with
      | '.' :: cs =>
        match cs.takeWhile (isDigit 10) with
        | [] => none
        | ds => return (':' :: s ++ '.' :: fractionText ds, cs.dropWhile (isDigit 10))
      | cs => return (':' :: s, cs)
  | cs => some ([], cs)

/-- Splits hours and minutes off. -/
def clock? (cs : List Char) : Option (List Char × List Char) := do
  let (hour, h, cs) ← digits? 2 cs
  let ':' :: cs := cs | none
  let (minute, m, cs) ← digits? 2 cs
  if hour ≤ 23 ∧ minute ≤ 59 then return (h ++ ':' :: m, cs) else none

/-- Splits a time off. -/
def time? (cs : List Char) : Option (List Char × List Char) := do
  let (hm, cs) ← clock? cs
  let (s, cs) ← seconds? cs
  return (hm ++ s, cs)

/-- Reads the distance from universal time to the end. -/
def offset? : List Char → Option (List Char)
  | [] => some []
  | c :: cs =>
    if c == 'Z' || c == 'z' then if cs.isEmpty then some ['Z'] else none
    else if c == '+' || c == '-' then
      match clock? cs with
      | some (hm, []) => some ((if hm = ['0', '0', ':', '0', '0'] then '+' else c) :: hm)
      | _ => none
    else none

/-- Whether a character stands between date and time. -/
def isJoint (c : Char) : Bool := c == 'T' || c == 't' || c == ' '

/-- A moment as its normal text: a date, a time, or both and perhaps the distance from universal
time. -/
def moment? (cs : List Char) : Option (List Char) :=
  match date? cs with
  | some (d, []) => some d
  | some (d, c :: cs) =>
    if isJoint c then do
      let (t, cs) ← time? cs
      let o ← offset? cs
      return d ++ 'T' :: t ++ o
    else none
  | none =>
    match time? cs with
    | some (t, []) => some t
    | _ => none

/-! ## Words -/

/-- Whether a character can stand in a plain value. -/
def isWordChar (c : Char) : Bool :=
  !isGap c && c != '\n' && c != '\r' && c != ',' && c != ']' && c != '\x7d' && c != '#'

/-- Splits the word of a plain value off: a date goes on behind a space that a digit follows. -/
def splitWord (cs : List Char) : List Char × List Char :=
  let word := cs.takeWhile isWordChar
  let rest := cs.dropWhile isWordChar
  match date? word, rest with
  | some (_, []), ' ' :: c :: cs =>
    if isDigit 10 c then
      (word ++ ' ' :: (c :: cs).takeWhile isWordChar, (c :: cs).dropWhile isWordChar)
    else (word, rest)
  | _, _ => (word, rest)

/-- The value of a word. -/
def wordValue? (word : List Char) : Option Setting :=
  if word = ['t', 'r', 'u', 'e'] then some (.truth true)
  else if word = ['f', 'a', 'l', 's', 'e'] then some (.truth false)
  else match integer? word, real? word, moment? word with
    | some i, _, _ => some (.integer i)
    | none, some x, _ => some (.real x)
    | none, none, some m => some (.text (String.ofList m))
    | none, none, none => none

/-- Reads a plain value. -/
def readWord (cs : List Char) : Option (Setting × List Char) :=
  (wordValue? (splitWord cs).1).map (·, (splitWord cs).2)

end CountryLookup.Toml
