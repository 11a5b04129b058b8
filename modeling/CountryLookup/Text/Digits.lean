/-!
# Digits

Numbers are written and read in several places: addresses, sizes in error texts, settings, log
dates. The functions here are the common ground, with the value of a digit string defined by
recursion so that what is read back from what is written can be stated.

## Main results

* `digitsValue_append` — the value of a digit string is built from the left.
-/

namespace CountryLookup.Text

/-- The value of a digit in a base up to sixteen, letters of either case. -/
def digitValue? (base : Nat) (c : Char) : Option Nat :=
  let n := c.toNat
  let v :=
    if 48 ≤ n ∧ n ≤ 57 then n - 48
    else if 97 ≤ n ∧ n ≤ 102 then n - 87
    else if 65 ≤ n ∧ n ≤ 70 then n - 55
    else base
  if v < base then some v else none

/-- Whether the character is a digit of the base. -/
def isDigit (base : Nat) (c : Char) : Bool := (digitValue? base c).isSome

/-- The number that a digit string denotes after the number `acc`; other characters count
nothing. -/
def digitsValueFrom (base acc : Nat) : List Char → Nat
  | [] => acc
  | c :: cs => digitsValueFrom base (acc * base + (digitValue? base c).getD 0) cs

/-- The number that a digit string denotes. -/
def digitsValue (base : Nat) (cs : List Char) : Nat := digitsValueFrom base 0 cs

@[simp] theorem digitsValueFrom_nil (base acc : Nat) : digitsValueFrom base acc [] = acc := rfl

theorem digitsValueFrom_append (base acc : Nat) (cs ds : List Char) :
    digitsValueFrom base acc (cs ++ ds) = digitsValueFrom base (digitsValueFrom base acc cs) ds := by
  induction cs generalizing acc with
  | nil => rfl
  | cons c cs ih => simp [digitsValueFrom, ih]

theorem digitsValue_append (base : Nat) (cs ds : List Char) :
    digitsValue base (cs ++ ds) = digitsValueFrom base (digitsValue base cs) ds :=
  digitsValueFrom_append base 0 cs ds

/-- A number in decimal. -/
def decimal (n : Nat) : String := String.ofList (Nat.toDigits 10 n)

/-- A number in lower-case hexadecimal without leading zeros. -/
def hex (n : Nat) : String := String.ofList (Nat.toDigits 16 n)

/-- An integer in decimal, a minus sign before a negative one. -/
def signedDecimal (i : Int) : String :=
  if i < 0 then "-" ++ decimal i.natAbs else decimal i.natAbs

/-- A digit string padded with zeros on the left to the width. -/
def padZero (width : Nat) (s : String) : String :=
  String.ofList (List.replicate (width - s.length) '0') ++ s

/-- Reads a whole text as a number: an optional plus sign, then decimal digits, at least one. -/
def natural? (s : String) : Option Nat :=
  let cs := match s.toList with
    | '+' :: cs => cs
    | cs => cs
  if cs.isEmpty || cs.any (fun c => !isDigit 10 c) then none else some (digitsValue 10 cs)

/-- Reads a whole text as an integer: an optional sign of either kind, then decimal digits. -/
def integer? (s : String) : Option Int :=
  match s.toList with
  | '-' :: cs =>
    if cs.isEmpty || cs.any (fun c => !isDigit 10 c) then none
    else some (-(digitsValue 10 cs : Int))
  | _ => (natural? s).map Int.ofNat

end CountryLookup.Text
