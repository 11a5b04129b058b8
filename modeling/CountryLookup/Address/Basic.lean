/-!
# Network addresses

An address is four octets or eight groups of sixteen bits. The fields are named one by one, so
that every address is built from all of them and none has a wrong length; lists of octets, groups
and bits are views of it.

## Main results

* `ofOctets?_octets` — an address is read back from its octets.
* `length_bits` — an address has 32 or 128 bits.
-/

namespace CountryLookup

/-- An address of the fourth version: four octets. -/
structure V4 where
  (a b c d : UInt8)
  deriving Repr, DecidableEq

/-- An address of the sixth version: eight groups. -/
structure V6 where
  (a b c d e f g h : UInt16)
  deriving Repr, DecidableEq

/-- A network address. -/
inductive Address where
  | v4 (a : V4)
  | v6 (a : V6)
  deriving Repr, DecidableEq

/-! ## Octets and groups -/

/-- The high octet of a group. -/
def highOctet (g : UInt16) : UInt8 := UInt8.ofNat (g.toNat / 256)

/-- The low octet of a group. -/
def lowOctet (g : UInt16) : UInt8 := UInt8.ofNat (g.toNat % 256)

/-- The group of two octets, the high one first. -/
def groupOf (hi lo : UInt8) : UInt16 := UInt16.ofNat (hi.toNat * 256 + lo.toNat)

@[simp] theorem groupOf_octets (g : UInt16) : groupOf (highOctet g) (lowOctet g) = g := by
  have hg : g.toNat < 65536 := g.toNat_lt
  apply UInt16.toNat_inj.1
  simp [groupOf, highOctet, lowOctet]
  omega

@[simp] theorem highOctet_groupOf (hi lo : UInt8) : highOctet (groupOf hi lo) = hi := by
  have h1 : hi.toNat < 256 := hi.toNat_lt
  have h2 : lo.toNat < 256 := lo.toNat_lt
  apply UInt8.toNat_inj.1
  simp [groupOf, highOctet]
  omega

@[simp] theorem lowOctet_groupOf (hi lo : UInt8) : lowOctet (groupOf hi lo) = lo := by
  apply UInt8.toNat_inj.1
  simp [groupOf, lowOctet]

/-- The groups of a list of octets taken in pairs; none if one is left over. -/
def pairUp? : List UInt8 → Option (List UInt16)
  | [] => some []
  | [_] => none
  | hi :: lo :: bs => (pairUp? bs).map (groupOf hi lo :: ·)

namespace V4

/-- The four octets in order. -/
def octets (x : V4) : List UInt8 := [x.a, x.b, x.c, x.d]

/-- The address of four octets. -/
def ofOctets? : List UInt8 → Option V4
  | [a, b, c, d] => some ⟨a, b, c, d⟩
  | _ => none

@[simp] theorem ofOctets?_octets (x : V4) : ofOctets? x.octets = some x := rfl

@[simp] theorem length_octets (x : V4) : x.octets.length = 4 := rfl

/-- The two groups that the octets are inside a longer address. -/
def groups (x : V4) : List UInt16 := [groupOf x.a x.b, groupOf x.c x.d]

end V4

namespace V6

/-- The eight groups in order. -/
def groups (x : V6) : List UInt16 := [x.a, x.b, x.c, x.d, x.e, x.f, x.g, x.h]

/-- The address of eight groups. -/
def ofGroups? : List UInt16 → Option V6
  | [a, b, c, d, e, f, g, h] => some ⟨a, b, c, d, e, f, g, h⟩
  | _ => none

@[simp] theorem ofGroups?_groups (x : V6) : ofGroups? x.groups = some x := rfl

@[simp] theorem length_groups (x : V6) : x.groups.length = 8 := rfl

theorem groups_of_ofGroups? {gs : List UInt16} {x : V6} (h : ofGroups? gs = some x) :
    x.groups = gs := by
  unfold ofGroups? at h
  split at h
  · cases h
    rfl
  · cases h

/-- The sixteen octets in order. -/
def octets (x : V6) : List UInt8 := x.groups.flatMap fun g => [highOctet g, lowOctet g]

/-- The address of sixteen octets. -/
def ofOctets? (bs : List UInt8) : Option V6 := (pairUp? bs).bind ofGroups?

@[simp] theorem ofOctets?_octets (x : V6) : ofOctets? x.octets = some x := by
  simp [ofOctets?, octets, groups, pairUp?, ofGroups?]

@[simp] theorem length_octets (x : V6) : x.octets.length = 16 := by
  simp [octets, groups]

/-- The address that carries four octets after eighty zero bits and sixteen ones, if this is
one. -/
def mapped? (x : V6) : Option V4 :=
  if x.a = 0 ∧ x.b = 0 ∧ x.c = 0 ∧ x.d = 0 ∧ x.e = 0 ∧ x.f = 0xFFFF then
    some ⟨highOctet x.g, lowOctet x.g, highOctet x.h, lowOctet x.h⟩
  else none

end V6

namespace Address

/-- Whether the address is of the sixth version. -/
def isV6 : Address → Bool
  | v4 _ => false
  | v6 _ => true

/-- The octets of an address in order. -/
def octets : Address → List UInt8
  | v4 x => x.octets
  | v6 x => x.octets

/-- The address of four or sixteen octets. -/
def ofOctets? (bs : List UInt8) : Option Address :=
  match V4.ofOctets? bs with
  | some x => some (v4 x)
  | none => (V6.ofOctets? bs).map v6

@[simp] theorem ofOctets?_octets (x : Address) : ofOctets? x.octets = some x := by
  cases x with
  | v4 x => simp [ofOctets?, octets]
  | v6 x =>
    have h : V4.ofOctets? x.octets = none := by simp [V6.octets, V6.groups, V4.ofOctets?]
    simp [ofOctets?, octets, h]

/-! ## Bits -/

/-- The bits of an octet, the most significant first. -/
def octetBits (b : UInt8) : List Bool :=
  [b.toNat / 128 % 2 == 1, b.toNat / 64 % 2 == 1, b.toNat / 32 % 2 == 1, b.toNat / 16 % 2 == 1,
    b.toNat / 8 % 2 == 1, b.toNat / 4 % 2 == 1, b.toNat / 2 % 2 == 1, b.toNat % 2 == 1]

/-- The bits of an address, the most significant first. -/
def bits (x : Address) : List Bool := x.octets.flatMap octetBits

theorem length_flatMap_octetBits (octets : List UInt8) :
    (octets.flatMap octetBits).length = 8 * octets.length := by
  induction octets with
  | nil => rfl
  | cons b octets ih => simp only [List.flatMap_cons, List.length_append, ih, octetBits,
      List.length_cons, List.length_nil]; omega

theorem length_bits (x : Address) : x.bits.length = 8 * x.octets.length :=
  length_flatMap_octetBits x.octets

end Address

end CountryLookup
