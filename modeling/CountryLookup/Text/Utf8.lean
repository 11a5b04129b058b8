/-!
# UTF-8

Bytes arrive from database files, from configuration files and from the remote service, and the
three treat bytes that are no UTF-8 in three ways: a database refuses them, a configuration file
replaces each broken sequence by U+FFFD, an answer of the service by `?`. One machine reads all
three. It runs over the bytes one at a time and emits pieces, each a character or the mark that
a sequence broke off; a sequence breaks off at the first byte that cannot continue it, and that
byte is read again as the start of the next one.

## Main results

* `pieces_ascii` — bytes below 128 are the characters of those numbers.
-/

namespace CountryLookup.Text.Utf8

/-- What the machine emits: a character, or the mark of one broken sequence. -/
inductive Piece where
  | char (c : Char)
  | broken
  deriving Repr, DecidableEq

/-- Where the machine stands between two bytes. -/
inductive State where
  /-- Between characters. -/
  | start
  /-- Inside a character: `more + 1` bytes are owed, the next one between `lo` and `hi`, and
  `acc` is what the bytes so far amount to. -/
  | inside (more : Nat) (lo hi : UInt8) (acc : Nat)
  deriving Repr, DecidableEq

/-- One byte at the start of a character. -/
def lead (b : UInt8) : List Piece × State :=
  if b < 0x80 then ([.char (Char.ofNat b.toNat)], .start)
  else if b < 0xC2 then ([.broken], .start)
  else if b < 0xE0 then ([], .inside 0 0x80 0xBF (b.toNat - 0xC0))
  else if b = 0xE0 then ([], .inside 1 0xA0 0xBF 0)
  else if b = 0xED then ([], .inside 1 0x80 0x9F (b.toNat - 0xE0))
  else if b < 0xF0 then ([], .inside 1 0x80 0xBF (b.toNat - 0xE0))
  else if b = 0xF0 then ([], .inside 2 0x90 0xBF 0)
  else if b < 0xF4 then ([], .inside 2 0x80 0xBF (b.toNat - 0xF0))
  else if b = 0xF4 then ([], .inside 2 0x80 0x8F 4)
  else ([.broken], .start)

/-- One byte in any state. -/
def step (s : State) (b : UInt8) : List Piece × State :=
  match s with
  | .start => lead b
  | .inside more lo hi acc =>
    if lo ≤ b && b ≤ hi then
      let acc := acc * 64 + (b.toNat - 0x80)
      match more with
      | 0 => ([.char (Char.ofNat acc)], .start)
      | more + 1 => ([], .inside more 0x80 0xBF acc)
    else
      let (out, s) := lead b
      (.broken :: out, s)

/-- The pieces of the bytes that follow in state `s`. Bytes that end inside a character end with
a broken sequence. -/
def piecesFrom : State → List UInt8 → List Piece
  | .start, [] => []
  | .inside .., [] => [.broken]
  | s, b :: bs => (step s b).1 ++ piecesFrom (step s b).2 bs

/-- The pieces of a byte string. -/
def pieces (bs : List UInt8) : List Piece := piecesFrom .start bs

/-- The characters of a list of pieces, if none is broken. -/
def chars? : List Piece → Option (List Char)
  | [] => some []
  | .char c :: ps => (chars? ps).map (c :: ·)
  | .broken :: _ => none

/-- The text that the bytes spell, if all of them are well formed. -/
def decode? (bs : List UInt8) : Option String :=
  (chars? (pieces bs)).map String.ofList

/-- The text that the bytes spell, with `mark` in place of each broken sequence. -/
def decodeWith (mark : Char) (bs : List UInt8) : String :=
  String.ofList ((pieces bs).map fun p => match p with
    | .char c => c
    | .broken => mark)

/-- The bytes of a text. -/
def encode (s : String) : List UInt8 := s.toList.flatMap String.utf8EncodeChar

@[simp] theorem pieces_nil : pieces [] = [] := rfl

/-- A byte below 128 is the character of that number. -/
theorem pieces_ascii {b : UInt8} (h : b < 0x80) (bs : List UInt8) :
    pieces (b :: bs) = .char (Char.ofNat b.toNat) :: pieces bs := by
  simp [pieces, piecesFrom, step, lead, h]

end CountryLookup.Text.Utf8
