import CountryLookup.Database.Error
import CountryLookup.Number.Power
import CountryLookup.Text.Utf8

/-!
# The wire format of database values

A value starts with a control byte: three bits for its kind and five for its size. Kind 0 means
that the kind is in the next byte. Sizes from 29 on continue in one to three further bytes. A
pointer has no size; its five bits and the bytes after them are an offset into the data.

A header is read first, and what it heads second. Scalars are read at once. Of a container only
the number of entries is known, so the reading functions hand out the `Head` of a value and leave
its entries to whoever knows what they are for.

Offsets count from the start of the part that is read, and every failure names the offset where
reading stopped: after the control bytes when a size is impossible, at the first missing byte
when bytes run out.
-/

namespace CountryLookup.Database

/-- A part of a database file. -/
abbrev Bytes := Array UInt8

/-- The kinds of values, by their numbers. -/
inductive Kind where
  | pointer | text | double | bytes | uint16 | uint32 | map | int32 | uint64 | uint128
  | array | bool | float
  deriving Repr, DecidableEq

/-- The kind of a number. -/
def Kind.ofNumber? : Nat → Option Kind
  | 1 => some .pointer
  | 2 => some .text
  | 3 => some .double
  | 4 => some .bytes
  | 5 => some .uint16
  | 6 => some .uint32
  | 7 => some .map
  | 8 => some .int32
  | 9 => some .uint64
  | 10 => some .uint128
  | 11 => some .array
  | 14 => some .bool
  | 15 => some .float
  | _ => none

/-- The number of a kind. -/
def Kind.number : Kind → Nat
  | pointer => 1
  | text => 2
  | double => 3
  | bytes => 4
  | uint16 => 5
  | uint32 => 6
  | map => 7
  | int32 => 8
  | uint64 => 9
  | uint128 => 10
  | array => 11
  | bool => 14
  | float => 15

@[simp] theorem Kind.ofNumber?_number (k : Kind) : ofNumber? k.number = some k := by
  cases k <;> rfl

/-! ## Bytes and numbers -/

/-- The byte at an offset. -/
def byteAt (data : Bytes) (pos : Nat) : Except Failure Nat :=
  match data[pos]? with
  | some b => .ok b.toNat
  | none => .error (.at .endOfBuffer pos)

/-- A big-endian number of `n` bytes, after the number `acc`. -/
def bigEndian (data : Bytes) (acc pos : Nat) : Nat → Except Failure (Nat × Nat)
  | 0 => .ok (acc, pos)
  | n + 1 => do
    let b ← byteAt data pos
    bigEndian data (acc * 256 + b) (pos + 1) n

/-- The bytes from `pos` up to `pos + size`, if all of them are there. -/
def slice? (data : Bytes) (pos size : Nat) : Option (List UInt8) :=
  if pos + size ≤ data.size then some (data.extract pos (pos + size)).toList else none

/-! ## Headers -/

/-- Kind number and size of a value; the contents start at `pos`. -/
structure Header where
  number : Nat
  size : Nat
  pos : Nat
  deriving Repr, DecidableEq

/-- Reads the size that five bits and the bytes after them express. -/
def sizeAfter (data : Bytes) (low pos : Nat) : Except Failure (Nat × Nat) :=
  if low < 29 then .ok (low, pos)
  else do
    let (n, next) ← bigEndian data 0 pos (low - 28)
    .ok (n + (if low = 29 then 29 else if low = 30 then 285 else 65821), next)

/-- Reads the control bytes at an offset. The numbers of extended kinds count from 8 and wrap
round at 256. -/
def header (data : Bytes) (pos : Nat) : Except Failure Header := do
  let control ← byteAt data pos
  let low := control % 32
  if control / 32 = 1 then
    .ok ⟨1, low, pos + 1⟩
  else if control / 32 = 0 then
    let extended ← byteAt data (pos + 1)
    let number := (extended + 7) % 256
    if number = 1 then .ok ⟨1, low, pos + 2⟩
    else
      let (size, next) ← sizeAfter data low (pos + 2)
      .ok ⟨number, size, next⟩
  else
    let (size, next) ← sizeAfter data low (pos + 1)
    .ok ⟨control / 32, size, next⟩

/-- Where a pointer leads, and the offset after it. A pointer whose bytes are cut off leads to
the end of the data. -/
def pointerTarget (data : Bytes) (h : Header) : Nat × Nat :=
  let width := h.size / 8 % 4 + 1
  let base := if width = 4 then 0 else h.size % 8
  match bigEndian data base h.pos width with
  | .ok (n, next) =>
    (n + (if width = 2 then 2048 else if width = 3 then 526336 else 0), next)
  | .error _ => (data.size, data.size)

/-! ## Scalars and heads -/

/-- A value without entries. Doubles are kept as their bits. -/
inductive Scalar where
  | text (s : String)
  | double (bits : Nat)
  | bytes (bs : List UInt8)
  | unsigned (n : Nat)
  | int32 (i : Int)
  | uint128 (n : Nat)
  | bool (b : Bool)
  | float (bits : Nat)
  deriving Repr, DecidableEq

/-- What a value starts with: all of a scalar, or the number of entries of a container. -/
inductive Head where
  | scalar (s : Scalar)
  | map (size : Nat)
  | array (size : Nat)
  deriving Repr, DecidableEq

/-- How a value is named where another type is asked for. -/
def Head.found : Head → Found
  | scalar (.text s) => .text s
  | scalar (.double bits) => .number (Double.ofBits64 bits)
  | scalar (.bytes _) => .bytes
  | scalar (.unsigned n) => .integer n
  | scalar (.int32 i) => .integer i
  | scalar (.uint128 n) => .integer128 n
  | scalar (.bool b) => .bool b
  | scalar (.float bits) => .number (Double.ofBits32 bits)
  | map _ => .map
  | array _ => .sequence

/-- The signed number of 32 bits. -/
def signed32 (n : Nat) : Int := if n < twoTo 31 then n else (n : Int) - (twoTo 32 : Int)

/-- Reads a number of at most `width` bytes; missing leading bytes are zero. -/
def readWord (data : Bytes) (kind : String) (width : Nat) (h : Header) :
    Except Failure (Nat × Nat) :=
  if width < h.size then .error (.at (.badSize kind h.size) h.pos)
  else bigEndian data 0 h.pos h.size

/-- Reads a number of exactly `width` bytes. -/
def readExact (data : Bytes) (kind : String) (width : Nat) (h : Header) :
    Except Failure (Nat × Nat) :=
  if h.size ≠ width ∨ data.size < h.pos + width then .error (.at (.badSize kind h.size) h.pos)
  else bigEndian data 0 h.pos width

/-- Reads the contents of a byte string. -/
def readBytes (data : Bytes) (kind : String) (h : Header) : Except Failure (List UInt8 × Nat) :=
  match slice? data h.pos h.size with
  | some bs => .ok (bs, h.pos + h.size)
  | none => .error (.at (.badSize kind h.size) h.pos)

/-- Reads what a header heads; pointers are not values and are followed elsewhere. -/
def readHead (data : Bytes) (h : Header) : Except Failure (Head × Nat) :=
  match Kind.ofNumber? h.number with
  | some .text => do
    let (bs, next) ← readBytes data "string" h
    match Text.Utf8.decode? bs with
    | some s => .ok (.scalar (.text s), next)
    | none => .error (.at .badText next)
  | some .double => do
    let (n, next) ← readExact data "double" 8 h
    .ok (.scalar (.double n), next)
  | some .float => do
    let (n, next) ← readExact data "float" 4 h
    .ok (.scalar (.float n), next)
  | some .bytes => do
    let (bs, next) ← readBytes data "bytes" h
    .ok (.scalar (.bytes bs), next)
  | some .uint16 => do
    let (n, next) ← readWord data "u16" 2 h
    .ok (.scalar (.unsigned n), next)
  | some .uint32 => do
    let (n, next) ← readWord data "u32" 4 h
    .ok (.scalar (.unsigned n), next)
  | some .uint64 => do
    let (n, next) ← readWord data "u64" 8 h
    .ok (.scalar (.unsigned n), next)
  | some .int32 => do
    let (n, next) ← readWord data "i32" 4 h
    .ok (.scalar (.int32 (signed32 n)), next)
  | some .uint128 => do
    let (n, next) ← readWord data "u128" 16 h
    .ok (.scalar (.uint128 n), next)
  | some .bool =>
    if h.size ≤ 1 then .ok (.scalar (.bool (h.size == 1)), h.pos)
    else .error (.at (.badSize "bool" h.size) h.pos)
  | some .map => .ok (.map h.size, h.pos)
  | some .array => .ok (.array h.size, h.pos)
  | some .pointer | none => .error (.at (.unknownKind h.number) h.pos)

/-! ## Following pointers -/

/-- How many containers and pointers may be open at once. -/
def maxDepth : Nat := 512

/-- A value's head with the room left for what it holds. `next` is where its entries start, or
the offset after a scalar; `resume` is where reading goes on if pointers led here. -/
structure Reached where
  head : Head
  next : Nat
  room : Nat
  resume : Option Nat
  deriving Repr, DecidableEq

/-- The offset after a value whose entries end at `pos`. -/
def Reached.after (r : Reached) (pos : Nat) : Nat := r.resume.getD pos

/-- Reads the head of the value at an offset and follows pointers to it. Each pointer and each
container takes one unit of room. -/
def reach (data : Bytes) (room : Nat) (resume : Option Nat) (pos : Nat) :
    Except Failure Reached := do
  let h ← header data pos
  if h.number = 1 then
    let (target, after) := pointerTarget data h
    match room with
    | 0 => .error (.at .tooDeep target)
    | room + 1 => reach data room (some (resume.getD after)) target
  else
    let (head, next) ← readHead data h
    match head, room with
    | .scalar s, room => .ok ⟨.scalar s, next, room, resume⟩
    | _, 0 => .error (.at .tooDeep next)
    | head, room + 1 => .ok ⟨head, next, room, resume⟩

/-! ## Lists of entries -/

/-- Reads `n` items one after the other. -/
def readMany {α : Type} (item : Nat → Except Failure (α × Nat)) :
    Nat → Nat → Except Failure (List α × Nat)
  | 0, pos => .ok ([], pos)
  | n + 1, pos => do
    let (x, pos) ← item pos
    let (xs, pos) ← readMany item n pos
    .ok (x :: xs, pos)

/-- Passes over `n` items one after the other. -/
def passMany (item : Nat → Except Failure Nat) : Nat → Nat → Except Failure Nat
  | 0, pos => .ok pos
  | n + 1, pos =>
    match item pos with
    | .ok pos => passMany item n pos
    | .error e => .error e

end CountryLookup.Database
