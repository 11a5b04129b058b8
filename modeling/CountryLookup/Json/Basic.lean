import CountryLookup.Number.Double
import CountryLookup.Number.Power

/-!
# JSON values

A JSON text is read in two steps. The grammar comes first and is generous: escapes are kept as
code units and numbers as their digits, so that a member that nobody asks for may hold any of
them. Whether a part that is asked for makes sense is a question to the value: its code units
must pair up, its numbers must fit a double, and it must not nest too deep.

## Main results

* `textOfParts?_chars` — plain characters are a text.
-/

namespace CountryLookup.Json

/-- A piece of a string: a character as it stands, or a code unit given by number. -/
inductive Part where
  | char (c : Char)
  | code (n : Nat)
  deriving Repr, DecidableEq

/-- A number as it is written. -/
structure Number where
  neg : Bool
  whole : List Char
  fraction : List Char := []
  exponent : Option (Bool × List Char) := none
  deriving Repr, DecidableEq

/-- A JSON value. Members of objects keep their order, and a key may occur twice. -/
inductive Value where
  | null
  | bool (b : Bool)
  | number (n : Number)
  | text (us : List Part)
  | array (vs : List Value)
  | object (members : List (List Part × Value))
  deriving Repr

/-! ## Strings -/

/-- The text of a string; `none` if a code unit is half of a pair without its other half. -/
def textOfParts? : List Part → Option (List Char)
  | [] => some []
  | .char c :: us => (textOfParts? us).map (c :: ·)
  | .code hi :: .code lo :: us =>
    if 0xD800 ≤ hi ∧ hi < 0xDC00 ∧ 0xDC00 ≤ lo ∧ lo < 0xE000 then
      (textOfParts? us).map
        (Char.ofNat (0x10000 + (hi - 0xD800) * 0x400 + (lo - 0xDC00)) :: ·)
    else if 0xD800 ≤ hi ∧ hi < 0xE000 then none
    else (textOfParts? (.code lo :: us)).map (Char.ofNat hi :: ·)
  | .code n :: us =>
    if 0xD800 ≤ n ∧ n < 0xE000 then none else (textOfParts? us).map (Char.ofNat n :: ·)

theorem textOfParts?_chars (cs : List Char) : textOfParts? (cs.map .char) = some cs := by
  induction cs with
  | nil => rfl
  | cons c cs ih => simp [textOfParts?, ih]

/-! ## Numbers -/

namespace Number

/-- Gathers digits behind a significand while it stays below `2 ^ 64`; what remains is left
over. -/
def gather (n : Nat) : List Char → Nat × List Char
  | [] => (n, [])
  | d :: ds =>
    let next := n * 10 + (d.toNat - 48)
    if next < twoTo 64 then gather next ds else (n, d :: ds)

/-- The significand and the power of ten that a number amounts to before its exponent is
counted. Digits of the whole part that do not fit count as powers of ten; digits of the fraction
that do not fit count nothing. -/
def parts (x : Number) : Nat × Int :=
  let (n, beyond) := gather 0 x.whole
  let (m, left) := gather n x.fraction
  (m, (beyond.length : Int) - (x.fraction.length : Int) + (left.length : Int))

/-- Multiplies a double by a power of ten as a number reader does it, in steps of `10 ^ 308` on
the way down; `none` beyond the largest double. -/
def scale : Nat → Double → Int → Option Double
  | 0, x, _ => some x
  | fuel + 1, x, e =>
    if e.natAbs ≤ 308 then
      let y := x.scaleTen e
      if y.isFinite then some y else none
    else if !x.isNonzero then some x
    else if 0 ≤ e then none
    else scale fuel (x.scaleTen (-308)) (e + 308)

/-- The double that a number denotes, without its sign; `none` if it is out of range. An exponent
beyond 32 bits settles the matter by its sign, unless the number is zero. -/
def magnitude? (x : Number) : Option Double :=
  let (n, e) := x.parts
  let start := Double.ofRatio false n 1
  match x.exponent with
  | none => scale 4 start e
  | some (negative, ds) =>
    let size : Nat := ds.foldl (fun n d => n * 10 + (d.toNat - 48)) 0
    if twoTo 31 ≤ size then
      if n != 0 && !negative then none else some (.finite false 0 0)
    else scale 4 start (e + (if negative then -(size : Int) else (size : Int)))

/-- What a number denotes to a reader that keeps whole numbers apart. -/
inductive Meaning where
  | integer (i : Int)
  | double (x : Double)
  deriving Repr, DecidableEq

/-- A double with its sign turned round if `neg` says so. -/
def signed (neg : Bool) : Double → Double
  | .finite _ m p => .finite neg m p
  | .infinite _ => .infinite neg
  | .nan => .nan

/-- What a number denotes: a whole number without point and exponent that fits 64 bits, signed if
it is negative, is an integer; everything else in range is a double. -/
def meaning? (x : Number) : Option Meaning :=
  if x.fraction.isEmpty && x.exponent.isNone && (gather 0 x.whole).2.isEmpty then
    let n := (gather 0 x.whole).1
    if !x.neg then some (.integer n)
    else if 0 < n ∧ n ≤ twoTo 63 then some (.integer (-n))
    else some (.double (signed true (Double.ofRatio false n 1)))
  else x.magnitude?.map fun y => .double (signed x.neg y)

end Number

/-! ## Values that make sense -/

mutual

/-- Whether every string and number in a value makes sense and at most `room` containers nest. -/
def Value.sound (room : Nat) : Value → Bool
  | .null => true
  | .bool _ => true
  | .number n => n.meaning?.isSome
  | .text us => (textOfParts? us).isSome
  | .array vs => 0 < room && soundAll (room - 1) vs
  | .object ms => 0 < room && soundMembers (room - 1) ms

/-- `Value.sound` for the elements of an array. -/
def soundAll (room : Nat) : List Value → Bool
  | [] => true
  | v :: vs => v.sound room && soundAll room vs

/-- `Value.sound` for the members of an object. -/
def soundMembers (room : Nat) : List (List Part × Value) → Bool
  | [] => true
  | (k, v) :: ms => (textOfParts? k).isSome && v.sound room && soundMembers room ms

end

/-- How many containers may nest in a text. -/
def maxDepth : Nat := 127

end CountryLookup.Json
