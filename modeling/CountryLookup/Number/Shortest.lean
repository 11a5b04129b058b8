import CountryLookup.Number.Double
import CountryLookup.Number.Power
import CountryLookup.Text.Digits

/-!
# Shortest decimal text

A double is written with the fewest digits that read back as the same double, and of the texts
with that many digits the one nearest to it. The text is positional: no exponent, whatever the
size. The reals that read back as a given double form an interval between the midpoints to its
neighbours, its ends included when the significand is even; the search tries grids of one digit,
two digits and so on, and looks at the two grid points around the double.
-/

namespace CountryLookup.Double

/-- The numbers `lo / unit' … hi / unit'` that read back as a double, where `unit'` is
`4 * unit`, together with the double itself and whether the ends belong to them. -/
structure Nearby where
  lo : Nat
  value : Nat
  hi : Nat
  closed : Bool

/-- The interval around `m * 2 ^ p / unit`. The gap below a power of two is half as wide. -/
def nearby (m p : Nat) : Nearby where
  lo := (if m = 1 <<< 52 ∧ 0 < p then 4 * m - 1 else 4 * m - 2) <<< p
  value := (4 * m) <<< p
  hi := (4 * m + 2) <<< p
  closed := m % 2 == 0

/-- Whether `num / den`, counted in quarters of the unit, lies in the interval. -/
def Nearby.has (r : Nearby) (num den : Nat) : Bool :=
  if r.closed then r.lo * den ≤ num && num ≤ r.hi * den
  else r.lo * den < num && num < r.hi * den

/-- The multiple `a * 10 ^ e` nearest to the double that lies in the interval, if there is one. -/
def onGrid (r : Nearby) (e : Int) : Option Nat :=
  let up := if 0 ≤ e then tenTo e.toNat else 1
  let down := if 0 ≤ e then 1 else tenTo (-e).toNat
  let quarter := 4 * unit * up
  let a := r.value * down / quarter
  let below := r.has (a * quarter) down
  let above := r.has ((a + 1) * quarter) down
  if below && above then
    if r.value * down - a * quarter ≤ (a + 1) * quarter - r.value * down then some a
    else some (a + 1)
  else if below then some a
  else if above then some (a + 1)
  else none

/-- Tries grids from `10 ^ e` downwards, `fuel` of them. -/
def shortestFrom (r : Nearby) : Nat → Int → Nat × Int
  | 0, _ => (r.value / (4 * unit), 0)
  | fuel + 1, e =>
    match onGrid r e with
    | some a => (a, e)
    | none => shortestFrom r fuel (e - 1)

/-- The digits and the power of ten of the shortest decimal that reads back as the finite double
`m * 2 ^ p / unit`, which is not zero. Seventeen digits always suffice. -/
def shortest (m p : Nat) : Nat × Int :=
  let r := nearby m p
  let size : Int := (Nat.toDigits 10 (r.value * tenTo 330 / (4 * unit))).length - 330
  shortestFrom r 19 size

/-- The number `a * 10 ^ e` without an exponent. -/
def positional (a : Nat) (e : Int) : List Char :=
  let ds := Nat.toDigits 10 a
  if 0 ≤ e then ds ++ List.replicate e.toNat '0'
  else
    let places := (-e).toNat
    let ds := List.replicate (places + 1 - ds.length) '0' ++ ds
    ds.take (ds.length - places) ++ '.' :: ds.drop (ds.length - places)

/-- The text of a double. -/
def render : Double → String
  | .nan => "NaN"
  | .infinite neg => if neg then "-inf" else "inf"
  | .finite neg m p =>
    let digits := if m = 0 then ['0'] else positional (shortest m p).1 (shortest m p).2
    String.ofList (if neg then '-' :: digits else digits)

/-- The text of a double that shows a point: a whole number ends in `.0`. -/
def renderPointed (x : Double) : String :=
  let s := x.render
  if x.isFinite && !s.toList.contains '.' then s ++ ".0" else s

end CountryLookup.Double
