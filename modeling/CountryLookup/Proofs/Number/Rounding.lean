import CountryLookup.Number.Double
import Mathlib.Algebra.Group.Nat.Defs

/-!
# Rounding stays close

A ratio is rounded once when a double is made of it. In units of the smallest double it changes by
one part in `2 ^ 52` at most, besides the last unit, so a ratio that is clearly below the largest
double becomes a finite one.

A number reader rounds a power of ten and then a product or a quotient by it. A quotient by a power
of ten is no larger than what was divided, however often this is done, and a product is finite if the
exact one is clearly below the largest double.

## Main results

* `ofRatio_close` — what a ratio is rounded to.
* `scaleTen_down` — a quotient by a power of ten is finite and no larger.
* `scaleTen_up` — a product with a power of ten is finite.
-/

namespace CountryLookup.Double

/-! ## Sizes -/

theorem unit_eq : unit = twoTo 1074 := one_shiftLeft 1074

theorem unit_pos : 0 < unit := by
  rw [unit_eq]
  exact twoTo_pos 1074

/-- A number of units of the smallest double that is clearly below the largest one. -/
def IsModest (x : Nat) : Prop := x ≤ twoTo 2098 - twoTo 2046

theorem isModest_twoTo {k : Nat} (h : k ≤ 2097) : IsModest (twoTo k) := by
  have hk : twoTo k ≤ twoTo 2097 := twoTo_le h
  have hlast : twoTo 2046 ≤ twoTo 2097 := twoTo_le (by decide)
  have htop : twoTo 2098 = 2 * twoTo 2097 := twoTo_succ 2097
  unfold IsModest
  omega

/-- The largest power of ten that a double comes close to is clearly below the largest double. -/
theorem isModest_tenTo : IsModest (tenTo 308 * unit) := by
  unfold IsModest
  decide +kernel

/-- So is `1.1` times that power, also if both factors of it were rounded up. -/
theorem product_le :
    11 * tenTo 308 * ((unit + twoTo 1023) * (unit + twoTo 1023)) ≤
      10 * ((twoTo 2098 - twoTo 2046) * unit) := by
  decide +kernel

/-! ## Rounding -/

theorem div_le_roundHalfEven (num den : Nat) : num / den ≤ roundHalfEven num den := by
  unfold roundHalfEven
  dsimp only
  split
  · exact Nat.le_refl _
  split
  · exact Nat.le_succ _
  split
  · exact Nat.le_refl _
  · exact Nat.le_succ _

theorem roundHalfEven_le (num den : Nat) : roundHalfEven num den ≤ num / den + 1 := by
  unfold roundHalfEven
  dsimp only
  split
  · exact Nat.le_succ _
  split
  · exact Nat.le_refl _
  split
  · exact Nat.le_succ _
  · exact Nat.le_refl _

/-- The last place of a significand is worth little. -/
theorem place_le (x : Nat) : 2 ^ (x.log2 - 52) ≤ x / 2 ^ 52 + 1 := by
  by_cases h : x.log2 ≤ 52
  · rw [Nat.sub_eq_zero_of_le h]
    omega
  · have hx : x ≠ 0 := by
      rintro rfl
      exact h (by decide)
    have hle : 2 ^ (x.log2 - 52) * 2 ^ 52 ≤ x := by
      rw [← Nat.pow_add, Nat.sub_add_cancel (by omega)]
      exact Nat.log2_self_le hx
    have hdiv : 2 ^ (x.log2 - 52) ≤ x / 2 ^ 52 := (Nat.le_div_iff_mul_le (by decide)).2 hle
    omega

/-- A number of units is close to one that it may be rounded to. -/
structure Close (x y : Nat) : Prop where
  le : y ≤ x + x / 2 ^ 52 + 1
  ge : x ≤ y + x / 2 ^ 52

theorem log2_lt_of_lt_twoTo {x k : Nat} (hx : x ≠ 0) (h : x < twoTo k) : x.log2 < k :=
  (Nat.log2_lt hx).2 h

/-- The last place of a modest number is one that doubles have. -/
theorem place_of_isModest {x : Nat} (h : IsModest x) : x.log2 - 52 ≤ 2045 := by
  by_cases hx : x = 0
  · subst hx
    decide
  · have hlt : x < twoTo 2098 := by
      have hpos := twoTo_pos 2046
      have hpos' := twoTo_pos 2098
      unfold IsModest at h
      omega
    have hlog := log2_lt_of_lt_twoTo hx hlt
    omega

/-- A modest number leaves room for one more at the last place that there is. -/
theorem not_carry_of_isModest {x q p : Nat} (h : IsModest x) (hp : p = 2045)
    (hq : q * twoTo p ≤ x) : q + 1 < 2 ^ 53 := by
  subst hp
  have hbig : twoTo 2098 = twoTo 53 * twoTo 2045 := twoTo_add 53 2045
  rw [show twoTo 53 = 2 ^ 53 by decide] at hbig
  have hsmall : twoTo 2046 = 2 * twoTo 2045 := twoTo_succ 2045
  have hle : q * twoTo 2045 ≤ (2 ^ 53 - 2) * twoTo 2045 := by
    unfold IsModest at h
    omega
  have hle' := Nat.le_of_mul_le_mul_right hle (twoTo_pos 2045)
  omega

/-- **What a ratio is rounded to.** -/
theorem ofRatio_close (neg : Bool) {num den x : Nat} (hx : num <<< 1074 / den = x)
    (h : IsModest x) : ∃ m p, ofRatio neg num den = .finite neg m p ∧ Close x (m <<< p) := by
  have hq : (num <<< 1074) / (den <<< (x.log2 - 52)) = x / 2 ^ (x.log2 - 52) := by
    rw [Nat.shiftLeft_eq den, ← Nat.div_div_eq_div_mul, hx]
  have hlow := div_le_roundHalfEven (num <<< 1074) (den <<< (x.log2 - 52))
  have hhigh := roundHalfEven_le (num <<< 1074) (den <<< (x.log2 - 52))
  have hplace := place_le x
  have hp := place_of_isModest h
  rw [hq] at hlow hhigh
  simp only [ofRatio, hx]
  generalize roundHalfEven (num <<< 1074) (den <<< (x.log2 - 52)) = m at hlow hhigh ⊢
  generalize x.log2 - 52 = p at *
  have hfloor : x / 2 ^ p * 2 ^ p ≤ x := Nat.div_mul_le_self x (2 ^ p)
  have hceil : x < x / 2 ^ p * 2 ^ p + 2 ^ p := Nat.lt_div_mul_add (Nat.two_pow_pos p)
  have hclose : Close x (m <<< p) := by
    rw [Nat.shiftLeft_eq]
    have hmlow := Nat.mul_le_mul_right (2 ^ p) hlow
    have hmhigh := Nat.mul_le_mul_right (2 ^ p) hhigh
    rw [Nat.add_mul, Nat.one_mul] at hmhigh
    exact ⟨by omega, by omega⟩
  by_cases hcarry : m = 1 <<< 53
  · have hroom : ¬ 2045 < p + 1 := by
      intro hlast
      have hlt := not_carry_of_isModest h (by omega) hfloor
      rw [hcarry] at hhigh
      omega
    refine ⟨1 <<< 52, p + 1, ?_, ?_⟩
    · rw [if_pos hcarry]
      dsimp only
      rw [if_neg hroom]
    · have hsame : (1 <<< 52) <<< (p + 1) = m <<< p := by
        rw [hcarry, ← Nat.shiftLeft_add, ← Nat.shiftLeft_add]
        congr 1
        omega
      rw [hsame]
      exact hclose
  · refine ⟨m, p, ?_, hclose⟩
    rw [if_neg hcarry]
    dsimp only
    rw [if_neg (by omega)]

/-! ## Powers of ten -/

theorem shiftLeft_eq_mul (n k : Nat) : n <<< k = n * 1 <<< k := by
  rw [Nat.shiftLeft_eq, Nat.shiftLeft_eq, Nat.one_mul]

theorem shiftLeft_eq_mul_unit (n : Nat) : n <<< 1074 = n * unit := shiftLeft_eq_mul n 1074

/-- **A power of ten is rounded to a double that is close to it.** -/
theorem ofDecimal_close {k : Nat} (hk : k ≤ 308) :
    ∃ n q, ofDecimal false 1 k = .finite false n q ∧ Close (tenTo k * unit) (n <<< q) := by
  have hdigits : (Nat.toDigits 10 1).length = 1 := by decide
  have hratio : ofDecimal false 1 k = ofRatio false (tenTo k) 1 := by
    simp only [ofDecimal, hdigits, Int.toNat_natCast]
    rw [if_neg (by decide), if_neg (by omega), if_neg (by omega), if_pos (by omega), Nat.one_mul]
  have hunits : tenTo k <<< 1074 / 1 = tenTo k * unit := by
    rw [Nat.div_one, shiftLeft_eq_mul_unit]
  have hmodest : IsModest (tenTo k * unit) :=
    Nat.le_trans (Nat.mul_le_mul_right unit (tenTo_le hk)) isModest_tenTo
  rw [hratio]
  exact ofRatio_close false hunits hmodest

/-- **A quotient by a power of ten is finite and stays below a bound.** -/
theorem scaleTen_down (neg : Bool) {m p : Nat} (h : m <<< p ≤ twoTo 1200) {k : Nat} (hpos : 0 < k)
    (hk : k ≤ 308) : ∃ m' p', (finite neg m p).scaleTen (-(k : Int)) = .finite neg m' p' ∧
      m' <<< p' ≤ twoTo 1200 := by
  obtain ⟨n, q, hten, hclose⟩ := ofDecimal_close hk
  have hdivisor : 4 * unit ≤ n <<< q := by
    have hunits : 10 * unit ≤ tenTo k * unit :=
      Nat.mul_le_mul_right unit (tenTo_le hpos)
    have hge := hclose.ge
    omega
  have hquotient : (m <<< p) <<< 1074 / (n <<< q) ≤ m <<< p / 4 := by
    rw [shiftLeft_eq_mul_unit]
    have hunit := unit_pos
    calc m <<< p * unit / (n <<< q) ≤ m <<< p * unit / (4 * unit) :=
          Nat.div_le_div_left hdivisor (by omega)
      _ = m <<< p / 4 := Nat.mul_div_mul_right _ _ hunit
  have hfour : 4 ≤ twoTo 1200 := twoTo_le (show 2 ≤ 1200 by decide)
  have hbound : IsModest (twoTo 1200) := isModest_twoTo (by decide)
  have hmodest : IsModest ((m <<< p) <<< 1074 / (n <<< q)) := by
    unfold IsModest at *
    omega
  obtain ⟨m', p', hround, hnear⟩ := ofRatio_close neg rfl hmodest
  refine ⟨m', p', ?_, ?_⟩
  · unfold scaleTen
    rw [Int.natAbs_neg, Int.natAbs_natCast, hten]
    dsimp only
    rw [if_neg (by omega), hround]
  · have hle := hnear.le
    omega

/-- A double that is close to a whole number is larger by one part in `2 ^ 51` at most. -/
theorem Close.le_mul {n y : Nat} (hn : 0 < n) (h : Close (n * unit) y) :
    y ≤ n * (unit + twoTo 1023) := by
  have hunit : unit = twoTo 1022 * 2 ^ 52 := by
    rw [unit_eq, show 2 ^ 52 = twoTo 52 by decide]
    exact twoTo_add 1022 52
  have hsmall : n * unit / 2 ^ 52 = n * twoTo 1022 := by
    rw [hunit, ← Nat.mul_assoc, Nat.mul_div_cancel _ (by decide)]
  have hdouble : twoTo 1023 = 2 * twoTo 1022 := twoTo_succ 1022
  have hone : 1 ≤ n * twoTo 1022 := Nat.mul_pos hn (twoTo_pos 1022)
  have hle := h.le
  rw [hsmall] at hle
  rw [Nat.mul_add, hdouble, Nat.mul_left_comm]
  omega

/-- **A product with a power of ten is finite** if the exact one is at most `1.1 * 10 ^ 308`. -/
theorem scaleTen_up (neg : Bool) {m p n k : Nat} (hn : 0 < n) (h : Close (n * unit) (m <<< p))
    (hk : k ≤ 308) (hproduct : 10 * (n * tenTo k) ≤ 11 * tenTo 308) :
    ((finite neg m p).scaleTen k).isFinite = true := by
  obtain ⟨t, q, hten, hclose⟩ := ofDecimal_close hk
  have htop := h.le_mul hn
  have hpower := hclose.le_mul (tenTo_pos k)
  have hall : 10 * ((m <<< p) * (t <<< q)) ≤
      11 * tenTo 308 * ((unit + twoTo 1023) * (unit + twoTo 1023)) := by
    have hmul := Nat.mul_le_mul htop hpower
    rw [Nat.mul_mul_mul_comm] at hmul
    calc 10 * ((m <<< p) * (t <<< q))
        ≤ 10 * (n * tenTo k * ((unit + twoTo 1023) * (unit + twoTo 1023))) :=
          Nat.mul_le_mul_left 10 hmul
      _ = 10 * (n * tenTo k) * ((unit + twoTo 1023) * (unit + twoTo 1023)) :=
          (Nat.mul_assoc _ _ _).symm
      _ ≤ 11 * tenTo 308 * ((unit + twoTo 1023) * (unit + twoTo 1023)) :=
          Nat.mul_le_mul_right _ hproduct
  have hnumbers := product_le
  have hmodest : IsModest (((m <<< p) * (t <<< q)) <<< 1074 / (unit * unit)) := by
    rw [shiftLeft_eq_mul_unit, Nat.mul_div_mul_right _ _ unit_pos]
    refine Nat.div_le_of_le_mul ?_
    rw [Nat.mul_comm unit]
    omega
  obtain ⟨m', p', hround, -⟩ := ofRatio_close neg rfl hmodest
  unfold scaleTen
  rw [Int.natAbs_natCast, hten]
  dsimp only
  rw [if_pos (by omega), hround]
  rfl

/-- A product with zero is zero. -/
theorem scaleTen_zero (neg : Bool) {k : Nat} (hk : k ≤ 308) :
    (finite neg 0 0).scaleTen k = .finite neg 0 0 := by
  obtain ⟨t, q, hten, -⟩ := ofDecimal_close hk
  unfold scaleTen
  rw [Int.natAbs_natCast, hten]
  dsimp only
  rw [if_pos (by omega), Nat.zero_shiftLeft, Nat.zero_mul, ofRatio_zero]

end CountryLookup.Double
