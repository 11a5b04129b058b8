import CountryLookup.Database.Value
import CountryLookup.Number.Power

/-!
# Writing values

The inverse of reading: every value has bytes that read back as it. Sizes take the shortest of
their four forms and numbers the fewest bytes that hold them; no pointer is written.

## Main results

* `length_sizeBytes` — the further bytes of a size are as many as its five bits announce.
-/

namespace CountryLookup.Database

/-- The `width` low bytes of a number, the highest first. -/
def bigEndianBytes : Nat → Nat → List UInt8
  | 0, _ => []
  | width + 1, n => UInt8.ofNat (n / twoTo (8 * width) % 256) :: bigEndianBytes width n

/-- How many bytes a number takes without leading zeros, at most `width`. -/
def bytesFor : Nat → Nat → Nat
  | 0, _ => 0
  | width + 1, n => if twoTo (8 * width) ≤ n then width + 1 else bytesFor width n

/-- The five bits of a size. -/
def sizeBits (size : Nat) : Nat :=
  if size < 29 then size else if size < 285 then 29 else if size < 65821 then 30 else 31

/-- The further bytes of a size. -/
def sizeBytes (size : Nat) : List UInt8 :=
  if size < 29 then []
  else if size < 285 then bigEndianBytes 1 (size - 29)
  else if size < 65821 then bigEndianBytes 2 (size - 285)
  else bigEndianBytes 3 (size - 65821)

@[simp] theorem length_bigEndianBytes (width n : Nat) :
    (bigEndianBytes width n).length = width := by
  induction width with
  | zero => rfl
  | succ width ih => simp [bigEndianBytes, ih]

theorem length_sizeBytes (size : Nat) : (sizeBytes size).length = sizeBits size - 28 := by
  unfold sizeBytes sizeBits
  repeat' split
  all_goals simp
  omega

/-- The control bytes of a value of a kind and a size. -/
def controlBytes (kind : Kind) (size : Nat) : List UInt8 :=
  if kind.number < 8 then
    UInt8.ofNat (kind.number * 32 + sizeBits size) :: sizeBytes size
  else
    UInt8.ofNat (sizeBits size) :: UInt8.ofNat (kind.number - 7) :: sizeBytes size

/-- A number of a kind in as few of `width` bytes as hold it. -/
def encodeWord (kind : Kind) (width n : Nat) : List UInt8 :=
  let size := bytesFor width n
  controlBytes kind size ++ bigEndianBytes size n

/-- The bytes of a scalar. Unsigned numbers are written as 32 bits where they fit, else as 64. -/
def Scalar.encode : Scalar → List UInt8
  | text s =>
    let bs := Text.Utf8.encode s
    controlBytes .text bs.length ++ bs
  | double bits => controlBytes .double 8 ++ bigEndianBytes 8 bits
  | bytes bs => controlBytes .bytes bs.length ++ bs
  | unsigned n => if n < twoTo 32 then encodeWord .uint32 4 n else encodeWord .uint64 8 n
  | int32 i => controlBytes .int32 4 ++ bigEndianBytes 4 (i % (twoTo 32 : Int)).toNat
  | uint128 n => encodeWord .uint128 16 n
  | bool b => controlBytes .bool (if b then 1 else 0)
  | float bits => controlBytes .float 4 ++ bigEndianBytes 4 bits

mutual

/-- The bytes of a value. -/
def Value.encode : Value → List UInt8
  | .scalar s => s.encode
  | .array vs => controlBytes .array vs.length ++ encodeAll vs
  | .map es => controlBytes .map es.length ++ encodeEntries es

/-- The bytes of values one after the other. -/
def encodeAll : List Value → List UInt8
  | [] => []
  | v :: vs => v.encode ++ encodeAll vs

/-- The bytes of keys and values one after the other. -/
def encodeEntries : List (Value × Value) → List UInt8
  | [] => []
  | (k, v) :: es => k.encode ++ v.encode ++ encodeEntries es

end

/-- A text as a value. -/
def Value.ofText (s : String) : Value := .scalar (.text s)

/-- A number as a value. -/
def Value.ofNat (n : Nat) : Value := .scalar (.unsigned n)

end CountryLookup.Database
