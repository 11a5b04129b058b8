import CountryLookup.Address.Basic
import CountryLookup.Error
import CountryLookup.Text.Digits
import CountryLookup.Text.Fields
import CountryLookup.Text.Space

/-!
# Reading an address

An address is read from a text or from its octets. The grammar has two forms. Four numbers from 0
to 255 with dots between, without leading zeros; or eight groups of one to four hexadecimal
digits with colons between, where the last two groups may be written as such four numbers and one
`::` may stand for one or more zero groups. White space around the text is no part of it, and
anything else around or inside it, such as a port, brackets or a zone, makes it no address.

The reader splits at the separators and then looks at each field, so no field is tried twice and
nothing has to be taken back.
-/

namespace CountryLookup

open Text

/-- Reads one of four numbers: one to three decimal digits, no leading zero, at most 255. -/
def octet? (cs : List Char) : Option UInt8 :=
  if cs.isEmpty || 3 < cs.length || cs.any (fun c => !isDigit 10 c) then none
  else if 1 < cs.length && cs.head? == some '0' then none
  else
    let n := digitsValue 10 cs
    if n < 256 then some (UInt8.ofNat n) else none

/-- Reads one group: one to four hexadecimal digits of either case. -/
def group? (cs : List Char) : Option UInt16 :=
  if cs.isEmpty || 4 < cs.length || cs.any (fun c => !isDigit 16 c) then none
  else some (UInt16.ofNat (digitsValue 16 cs))

/-- Reads four numbers with dots between. -/
def V4.parse? (cs : List Char) : Option V4 :=
  ((fields '.' cs).mapM octet?).bind V4.ofOctets?

namespace V6

/-- Reads the fields between colons; the last one may be four numbers if `dotted` says so. -/
def groupFields? (dotted : Bool) : List (List Char) → Option (List UInt16)
  | [] => some []
  | [f] =>
    match group? f with
    | some g => some [g]
    | none => if dotted then (V4.parse? f).map V4.groups else none
  | f :: fs => do
    let g ← group? f
    let gs ← groupFields? dotted fs
    pure (g :: gs)

/-- Reads groups with colons between, or nothing at all. -/
def groupList? (dotted : Bool) (cs : List Char) : Option (List UInt16) :=
  if cs.isEmpty then some [] else groupFields? dotted (fields ':' cs)

/-- The parts before and after the first `::`, if there is one. -/
def cutGap : List Char → Option (List Char × List Char)
  | ':' :: ':' :: cs => some ([], cs)
  | c :: cs => (cutGap cs).map fun p => (c :: p.1, p.2)
  | [] => none

/-- Reads eight groups, one run of zero groups of which may be left out. -/
def parse? (cs : List Char) : Option V6 :=
  match cutGap cs with
  | none => (groupList? true cs).bind ofGroups?
  | some (before, after) => do
    let front ← groupList? false before
    let back ← groupList? true after
    if front.length + back.length ≤ 7 then
      ofGroups? (front ++ List.replicate (8 - (front.length + back.length)) 0 ++ back)
    else none

end V6

namespace Address

/-- Reads an address of either version, with nothing around it. -/
def parseChars? (cs : List Char) : Option Address :=
  match V4.parse? cs with
  | some x => some (v4 x)
  | none => (V6.parse? cs).map v6

/-- Reads an address from a text, with white space around it allowed. -/
def parse (input : String) : Except LookupError Address :=
  let cs := trimChars input.toList
  if cs.isEmpty then .error ⟨.invalidInput, "empty ip address"⟩
  else match parseChars? cs with
    | some x => .ok x
    | none => .error ⟨.invalidInput, "invalid ip address: " ++ String.ofList cs⟩

/-- Reads an address from its octets. -/
def ofOctets (bs : List UInt8) : Except LookupError Address :=
  match ofOctets? bs with
  | some x => .ok x
  | none =>
    .error ⟨.invalidInput, "ip address must be 4 or 16 bytes, got " ++ decimal bs.length⟩

@[simp] theorem ofOctets_octets (x : Address) : ofOctets x.octets = .ok x := by
  simp [ofOctets]

end Address

end CountryLookup
