import CountryLookup.Database.Wire

/-!
# Values, read and passed over

Values are read in three ways. A value that may be wanted is read in full, so every fault inside
it is a failure of the whole. A value under a key that nobody knows is passed over, and only as
much of it is looked at as its end depends on. A key is read as bytes or as a field number, and
nothing else may stand for one.

Reading in full refuses numbers of 128 bits, which no setting of this program can hold.
-/

namespace CountryLookup.Database

/-- A value with all that it holds. -/
inductive Value where
  | scalar (s : Scalar)
  | array (vs : List Value)
  | map (entries : List (Value × Value))
  deriving Repr

namespace Value

/-- The text that a value is: a string, or bytes that are UTF-8. -/
def text? : Value → Option String
  | scalar (.text s) => some s
  | scalar (.bytes bs) => Text.Utf8.decode? bs
  | _ => none

end Value

/-! ## Reading in full -/

/-- Reads a key and a value. -/
def readPair (item : Nat → Except Failure (Value × Nat)) (pos : Nat) :
    Except Failure ((Value × Value) × Nat) := do
  let (k, pos) ← item pos
  let (v, pos) ← item pos
  .ok ((k, v), pos)

/-- Reads the value at an offset, given how to read what a container or a pointer leads to, which
is missing when no room is left. -/
def readStep (data : Bytes) (inner : Option (Nat → Except Failure (Value × Nat))) (pos : Nat) :
    Except Failure (Value × Nat) := do
  let h ← header data pos
  if h.number = 1 then
    let (target, after) := pointerTarget data h
    match inner with
    | none => .error (.at .tooDeep target)
    | some inner => do
      let (v, _) ← inner target
      .ok (v, after)
  else
    let (head, next) ← readHead data h
    match head, inner with
    | .scalar (.uint128 n), _ => .error (.wrongType (.integer128 n) "any value")
    | .scalar s, _ => .ok (.scalar s, next)
    | .array _, none => .error (.at .tooDeep next)
    | .map _, none => .error (.at .tooDeep next)
    | .array n, some inner => do
      let (vs, next) ← readMany inner n next
      .ok (.array vs, next)
    | .map n, some inner => do
      let (es, next) ← readMany (readPair inner) n next
      .ok (.map es, next)

/-- Reads the value at an offset with all that it holds; `room` containers and pointers may be
open at once. -/
def readValue (data : Bytes) : Nat → Nat → Except Failure (Value × Nat)
  | 0 => readStep data none
  | room + 1 => readStep data (some (readValue data room))

/-! ## Passing over -/

/-- Passes over a key and a value. -/
def passPair (item : Nat → Except Failure Nat) (pos : Nat) : Except Failure Nat := do
  let pos ← item pos
  item pos

/-- The offset after the value at an offset. Sizes are checked for doubles and floats alone, and
contents may end outside the data, which the next read then notices. Recursion into containers
and along pointers visits an offset at most once unless a value contains itself, so as many
levels as there are bytes suffice. -/
def passOver (data : Bytes) : Nat → Nat → Except Failure Nat
  | 0, pos => .error (.at .endless pos)
  | fuel + 1, pos => do
    let h ← header data pos
    match Kind.ofNumber? h.number with
    | some .pointer =>
      let (target, after) := pointerTarget data h
      let _ ← passOver data fuel target
      .ok after
    | some .map => passMany (passPair (passOver data fuel)) h.size h.pos
    | some .array => passMany (passOver data fuel) h.size h.pos
    | some .bool => .ok h.pos
    | some .double =>
      if h.size = 8 then .ok (h.pos + 8) else .error (.at (.badSize "double" h.size) h.pos)
    | some .float =>
      if h.size = 4 then .ok (h.pos + 4) else .error (.at (.badSize "float" h.size) h.pos)
    | some _ => .ok (h.pos + h.size)
    | none => .error (.at (.unknownKind h.number) h.pos)

/-- Passes over the value at an offset. -/
def pass (data : Bytes) (pos : Nat) : Except Failure Nat :=
  passOver data (data.size + 1) pos

/-! ## Keys -/

/-- A key of a map that stands for a structure. -/
inductive Key where
  | name (bs : List UInt8)
  | index (n : Nat)
  deriving Repr, DecidableEq

/-- Reads the key that a header, which is no pointer, heads. -/
def readKeyAt (data : Bytes) (h : Header) : Except Failure (Key × Nat) :=
  match Kind.ofNumber? h.number with
  | some .text | some .bytes =>
    match slice? data h.pos h.size with
    | some bs => .ok (.name bs, h.pos + h.size)
    | none => .error (.at .keyTooLong h.pos)
  | _ => do
    let (head, next) ← readHead data h
    match head with
    | .scalar (.unsigned n) => .ok (.index n, next)
    | head => .error (.wrongType head.found "field identifier")

/-- Reads the key at an offset; one pointer may stand in its place. -/
def readKey (data : Bytes) (pos : Nat) : Except Failure (Key × Nat) := do
  let h ← header data pos
  if h.number = 1 then
    let (target, after) := pointerTarget data h
    let h ← header data target
    if h.number = 1 then .error (.at .doublePointer h.pos)
    else
      let (key, _) ← readKeyAt data h
      .ok (key, after)
  else readKeyAt data h

/-! ## Structures -/

/-- A structure with named fields of type `φ` and values of type `α`, as it stands in a map or in
an array. -/
structure Shape (φ α : Type) where
  /-- What the structure is called in an error text. -/
  name : String
  /-- The fields in order. -/
  fields : List φ
  /-- The key of a field. -/
  key : φ → String
  /-- Reads the value of a field. -/
  read : φ → Nat → Except Failure (α × Nat)

/-- The field that a key names, by name or by place. -/
def Shape.field? {φ α : Type} (s : Shape φ α) : Key → Option φ
  | .name bs => s.fields.find? fun f => Text.Utf8.encode (s.key f) == bs
  | .index n => s.fields[n]?

/-- Reads `n` entries of a map. A field that stands in it twice is a failure, raised before its
second value is read. -/
def readEntries {φ α : Type} [DecidableEq φ] (data : Bytes) (s : Shape φ α) :
    Nat → Nat → List (φ × α) → Except Failure (List (φ × α))
  | 0, _, seen => .ok seen.reverse
  | n + 1, pos, seen => do
    let (key, pos) ← readKey data pos
    match s.field? key with
    | some f =>
      if seen.any (fun p => p.1 = f) then .error (.mismatch (.duplicateField (s.key f)))
      else
        let (v, pos) ← s.read f pos
        readEntries data s n pos ((f, v) :: seen)
    | none =>
      let pos ← pass data pos
      readEntries data s n pos seen

/-- Reads the first elements of an array as the fields in order, as many as there are of both. -/
def readElements {φ α : Type} (s : Shape φ α) :
    List φ → Nat → Nat → Except Failure (List (φ × α))
  | f :: fs, n + 1, pos => do
    let (v, pos) ← s.read f pos
    let rest ← readElements s fs n pos
    .ok ((f, v) :: rest)
  | _, _, _ => .ok []

end CountryLookup.Database
