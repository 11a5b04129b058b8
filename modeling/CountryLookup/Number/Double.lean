import CountryLookup.Number.Power

/-!
# Doubles

Numbers with a fraction occur in databases, in configuration files and in the environment, and
some of them are printed or turned into settings. The arithmetic of the machine is opaque to
proofs, so a double is represented by what it denotes: a finite one is a significand below
`2 ^ 53` times a power of two, counted from the smallest, `2 ^ -1074`. Reading a decimal number
is one rounding of an exact ratio.

## Main results

* `ofRatio_zero` — the ratio zero is the double zero of the sign.
-/

namespace CountryLookup

/-- A double. The finite ones are `± m * 2 ^ p / 2 ^ 1074`. -/
inductive Double where
  | nan
  | infinite (neg : Bool)
  | finite (neg : Bool) (m p : Nat)
  deriving Repr, DecidableEq

namespace Double

/-- The scale of the representation: every finite double is a multiple of `1 / unit`. -/
def unit : Nat := 1 <<< 1074

/-- The quotient of two numbers rounded to the nearest whole number, a half to the even
neighbour. -/
def roundHalfEven (num den : Nat) : Nat :=
  let q := num / den
  let r := num % den
  if 2 * r < den then q
  else if den < 2 * r then q + 1
  else if q % 2 = 0 then q else q + 1

/-- The double nearest to `± num / den`, of two the one with the even significand. Ratios beyond
the largest double become infinite. -/
def ofRatio (neg : Bool) (num den : Nat) : Double :=
  let scaled := num <<< 1074
  let p := (scaled / den).log2 - 52
  let m := roundHalfEven scaled (den <<< p)
  let (m, p) := if m = 1 <<< 53 then (1 <<< 52, p + 1) else (m, p)
  if 2045 < p then .infinite neg else .finite neg m p

theorem ofRatio_zero (neg : Bool) (den : Nat) : ofRatio neg 0 den = .finite neg 0 0 := by
  have h0 : (0 : Nat) <<< 1074 = 0 := by simp
  have h1 : roundHalfEven 0 (den <<< 0) = 0 := by
    simp only [roundHalfEven, Nat.zero_div, Nat.zero_mod, Nat.mul_zero]
    split
    · rfl
    · split
      · omega
      · rfl
  simp only [ofRatio, h0, Nat.zero_div]
  rw [show (0 : Nat).log2 - 52 = 0 by decide, h1]
  simp

/-- The double nearest to `± n * 10 ^ e`. Exponents out of reach are settled before the power is
computed: no double lies beyond `10 ^ 310`, and nothing below `10 ^ -330` rounds away from
zero. -/
def ofDecimal (neg : Bool) (n : Nat) (e : Int) : Double :=
  let size : Int := (Nat.toDigits 10 n).length + e
  if n = 0 then .finite neg 0 0
  else if 310 < size then .infinite neg
  else if size < -330 then .finite neg 0 0
  else if 0 ≤ e then ofRatio neg (n * tenTo e.toNat) 1
  else ofRatio neg n (tenTo (-e).toNat)

/-- The double that 64 bits encode. -/
def ofBits64 (bits : Nat) : Double :=
  let neg := bits / twoTo 63 % 2 == 1
  let e := bits / twoTo 52 % twoTo 11
  let f := bits % twoTo 52
  if e = 2047 then if f = 0 then .infinite neg else .nan
  else if e = 0 then .finite neg f 0
  else .finite neg (twoTo 52 + f) (e - 1)

/-- The double equal to the number that 32 bits encode in single precision. -/
def ofBits32 (bits : Nat) : Double :=
  let neg := bits / twoTo 31 % 2 == 1
  let e := bits / twoTo 23 % twoTo 8
  let f := bits % twoTo 23
  if e = 255 then if f = 0 then .infinite neg else .nan
  else if e = 0 then ofRatio neg f (twoTo 149)
  else ofRatio neg ((twoTo 23 + f) * twoTo (e - 1)) (twoTo 149)

/-- Whether the double is different from zero; no number is different, too. -/
def isNonzero : Double → Bool
  | finite _ m _ => m != 0
  | _ => true

/-- Whether the double is a number and not infinite. -/
def isFinite : Double → Bool
  | finite .. => true
  | _ => false

/-- The product of a finite double with a power of ten that is itself rounded to a double, or the
quotient by it, as a number reader computes them. -/
def scaleTen (x : Double) (e : Int) : Double :=
  match x, ofDecimal false 1 e.natAbs with
  | .finite neg m p, .finite _ n q =>
    if 0 ≤ e then ofRatio neg ((m <<< p) * (n <<< q)) (unit * unit)
    else ofRatio neg (m <<< p) (n <<< q)
  | .finite neg m _, _ => if 0 ≤ e && m != 0 then .infinite neg else .finite neg 0 0
  | x, _ => x

/-- The whole number nearest to a double, a half away from zero, kept between `0` and `max`. No
number counts as `0`. -/
def toNatClamped (max : Nat) : Double → Nat
  | .nan => 0
  | .infinite neg => if neg then 0 else max
  | .finite neg m p =>
    if neg then 0 else min max ((2 * (m <<< p) + unit) / (2 * unit))

end Double

end CountryLookup
