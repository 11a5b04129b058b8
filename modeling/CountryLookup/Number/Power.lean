/-!
# Powers of two and of ten

So many bits have a power of two of values, and places of decimals count by powers of ten. Integers
of a fixed width are told apart from wider ones by the first of these.

## Main results

* `fitsSigned_neg_twoTo` — the lowest integer of a width fits it.
-/

namespace CountryLookup

/-- Two to a power: the number of values of so many bits. -/
def twoTo (bits : Nat) : Nat := Nat.pow 2 bits

/-- Ten to a power: the worth of so many decimal places. -/
def tenTo (places : Nat) : Nat := Nat.pow 10 places

theorem twoTo_succ (bits : Nat) : twoTo (bits + 1) = 2 * twoTo bits :=
  Nat.mul_comm (Nat.pow 2 bits) 2

theorem twoTo_pos (bits : Nat) : 0 < twoTo bits := by
  induction bits with
  | zero => decide
  | succ bits ih => rw [twoTo_succ]; omega

theorem twoTo_add (a b : Nat) : twoTo (a + b) = twoTo a * twoTo b := Nat.pow_add 2 a b

theorem twoTo_le {a b : Nat} (h : a ≤ b) : twoTo a ≤ twoTo b := Nat.pow_le_pow_right (by decide) h

theorem one_shiftLeft (bits : Nat) : 1 <<< bits = twoTo bits := Nat.one_shiftLeft bits

theorem tenTo_succ (places : Nat) : tenTo (places + 1) = 10 * tenTo places :=
  Nat.mul_comm (Nat.pow 10 places) 10

theorem tenTo_add (a b : Nat) : tenTo (a + b) = tenTo a * tenTo b := Nat.pow_add 10 a b

theorem tenTo_pos (places : Nat) : 0 < tenTo places := Nat.pow_pos (by decide)

theorem tenTo_le {a b : Nat} (h : a ≤ b) : tenTo a ≤ tenTo b := Nat.pow_le_pow_right (by decide) h

/-- Whether an integer fits so many bits, one of which is for its sign. -/
def fitsSigned (bits : Nat) (i : Int) : Bool :=
  decide (-(twoTo (bits - 1) : Int) ≤ i) && decide (i < (twoTo (bits - 1) : Int))

/-- The lowest integer of a width fits it. -/
theorem fitsSigned_neg_twoTo (bits : Nat) : fitsSigned (bits + 1) (-(twoTo bits : Int)) = true := by
  have := twoTo_pos bits
  simp only [fitsSigned, Nat.add_sub_cancel, Bool.and_eq_true, decide_eq_true_eq]
  omega

end CountryLookup
