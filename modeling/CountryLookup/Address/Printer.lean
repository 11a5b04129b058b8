import CountryLookup.Address.Basic
import CountryLookup.Text.Digits
import CountryLookup.Text.Fields

/-!
# The text of an address

Every address has one text. Four octets are decimal with dots between. Eight groups are
hexadecimal in lower case without leading zeros, with colons between; the longest run of two or
more zero groups, of several the first, is written `::`. An address that carries four octets
after `::ffff:` shows them with dots.
-/

namespace CountryLookup

/-- Four decimal octets with dots between. -/
def V4.print (x : V4) : List Char :=
  Text.joined '.' (x.octets.map fun b => Nat.toDigits 10 b.toNat)

namespace V6

/-- How many groups at the front are zero. -/
def zeroLead (gs : List UInt16) : Nat := (gs.takeWhile (· == 0)).length

/-- Start and length of the longest run of zero groups, the first of several; `i` is the index
of the first group. -/
def zeroRun (i : Nat) : List UInt16 → Nat × Nat
  | [] => (i, 0)
  | g :: gs =>
    let here := zeroLead (g :: gs)
    let later := zeroRun (i + 1) gs
    if here < later.2 then later else (i, here)

/-- Groups with colons between. -/
def printGroups (gs : List UInt16) : List Char :=
  Text.joined ':' (gs.map fun g => Nat.toDigits 16 g.toNat)

/-- The text of eight groups, the longest run of zeros left out. -/
def print (x : V6) : List Char :=
  match x.mapped? with
  | some y => "::ffff:".toList ++ y.print
  | none =>
    let (start, length) := zeroRun 0 x.groups
    if 1 < length then
      printGroups (x.groups.take start) ++ "::".toList
        ++ printGroups (x.groups.drop (start + length))
    else printGroups x.groups

end V6

namespace Address

/-- The characters of an address's text. -/
def print : Address → List Char
  | v4 x => x.print
  | v6 x => x.print

/-- The text of an address. -/
def render (x : Address) : String := String.ofList x.print

instance : ToString Address := ⟨render⟩

end Address

end CountryLookup
