import CountryLookup.Proofs.Json.Contents
import CountryLookup.Proofs.Number.Rounding

/-!
# Numbers that are in range

A number of JSON is read from as many digits as fit 64 bits and a power of ten for the others, and
the double is made of these two by roundings. What is left out and what is rounded are small parts of
the number, so every number up to `10 ^ 308` in size is in range. The exponent has to fit 32 bits for
that, whatever the digits before it are.

## Main results

* `gather_spec` — which digits are gathered.
* `parts_le` — what a number is read as is hardly larger than the number.
* `meaning?_of_isModerate` — every moderate number is in range.
* `Content.within_of_isModerate` — so is what holds no other numbers.
-/

namespace CountryLookup.Json

open Text

namespace Number

/-- The digits of a number, without the point. -/
def significand (x : Number) : Nat := digitsValue 10 (x.whole ++ x.fraction)

/-- By how many places the exponent moves the point to the right. -/
def raised (x : Number) : Nat :=
  match x.exponent with
  | some (false, ds) => digitsValue 10 ds
  | _ => 0

/-- By how many places the fraction and the exponent move it to the left. -/
def lowered (x : Number) : Nat :=
  x.fraction.length + match x.exponent with
    | some (true, ds) => digitsValue 10 ds
    | _ => 0

/-- A number of at most `10 ^ 308` in size, whose exponent fits 32 bits. -/
structure IsModerate (x : Number) : Prop where
  whole : x.whole.all (isDigit 10) = true
  fraction : x.fraction.all (isDigit 10) = true
  exponent : ∀ e ∈ x.exponent, e.2.all (isDigit 10) = true
  raised : x.raised < twoTo 31
  size : x.significand * tenTo x.raised ≤ tenTo 308 * tenTo x.lowered

instance (x : Number) : Decidable x.IsModerate :=
  decidable_of_iff (x.whole.all (isDigit 10) = true ∧ x.fraction.all (isDigit 10) = true ∧
      (∀ e ∈ x.exponent, e.2.all (isDigit 10) = true) ∧ x.raised < twoTo 31 ∧
        x.significand * tenTo x.raised ≤ tenTo 308 * tenTo x.lowered)
    ⟨fun ⟨hw, hf, he, hr, hs⟩ => ⟨hw, hf, he, hr, hs⟩,
      fun h => ⟨h.whole, h.fraction, h.exponent, h.raised, h.size⟩⟩

/-! ## Digits -/

theorem digitValue?_of_isDigit {c : Char} (h : isDigit 10 c = true) :
    digitValue? 10 c = some (c.toNat - 48) ∧ c.toNat - 48 < 10 := by
  obtain ⟨d, hd⟩ := Option.isSome_iff_exists.1 h
  obtain ⟨hlt, hcases⟩ := digitValue?_cases hd
  have hvalue : d = c.toNat - 48 := by omega
  rw [hd, hvalue]
  exact ⟨rfl, by omega⟩

theorem foldl_digits {ds : List Char} (h : ds.all (isDigit 10) = true) (n : Nat) :
    ds.foldl (fun n d => n * 10 + (d.toNat - 48)) n = digitsValueFrom 10 n ds := by
  induction ds generalizing n with
  | nil => rfl
  | cons d ds ih =>
      rw [List.all_cons, Bool.and_eq_true] at h
      rw [List.foldl_cons, digitsValueFrom, (digitValue?_of_isDigit h.1).1, Option.getD_some, ih h.2]

/-- What is gathered of digits behind a number, as many as fit 64 bits, and what is left over. -/
structure Gathered (n : Nat) (ds : List Char) (m : Nat) (left : List Char) : Prop where
  split : ∃ taken, ds = taken ++ left ∧ m = digitsValueFrom 10 n taken
  fits : m < twoTo 64
  full : left = [] ∨ twoTo 64 ≤ m * 10 + 9

/-- **Which digits are gathered.** -/
theorem gathered_of_gather {n m : Nat} {ds left : List Char} (h : gather n ds = (m, left))
    (hn : n < twoTo 64) (hds : ds.all (isDigit 10) = true) : Gathered n ds m left := by
  induction ds generalizing n with
  | nil =>
      cases h
      exact ⟨⟨[], rfl, rfl⟩, hn, .inl rfl⟩
  | cons d ds ih =>
      rw [List.all_cons, Bool.and_eq_true] at hds
      obtain ⟨hvalue, hlt⟩ := digitValue?_of_isDigit hds.1
      simp only [gather] at h
      split at h
      · next hfits =>
          obtain ⟨⟨taken, rfl, hm⟩, hbound, hfull⟩ := ih h hfits hds.2
          refine ⟨⟨d :: taken, rfl, ?_⟩, hbound, hfull⟩
          rw [hm, digitsValueFrom, hvalue, Option.getD_some]
      · cases h
        exact ⟨⟨[], rfl, rfl⟩, hn, .inr (by omega)⟩

/-- **What a number is read as is hardly larger than the number.** -/
theorem parts_le {x : Number} (hwhole : x.whole.all (isDigit 10) = true)
    (hfraction : x.fraction.all (isDigit 10) = true) : ∃ m ahead : Nat,
      x.parts = (m, (ahead : Int) - x.fraction.length) ∧ m < twoTo 64 ∧
        10 * (m * tenTo ahead) ≤ 11 * x.significand := by
  obtain ⟨⟨n, beyond⟩, hg⟩ : ∃ g, gather 0 x.whole = g := ⟨_, rfl⟩
  obtain ⟨⟨m, left⟩, hg'⟩ : ∃ g, gather n x.fraction = g := ⟨_, rfl⟩
  obtain ⟨⟨taken, htaken, hn⟩, hnlt, hfull⟩ := gathered_of_gather hg (twoTo_pos 64) hwhole
  obtain ⟨⟨taken', htaken', hm⟩, hmlt, -⟩ := gathered_of_gather hg' hnlt hfraction
  have hsignificand : x.significand = digitsValueFrom 10 n (beyond ++ x.fraction) := by
    rw [significand, digitsValue, htaken, List.append_assoc, digitsValueFrom_append, ← hn]
  refine ⟨m, beyond.length + left.length, ?_, hmlt, ?_⟩
  · simp only [parts, hg, hg', Prod.mk.injEq, true_and]
    omega
  rcases hfull with rfl | hlarge
  · -- All of the whole part is gathered, so what is left over comes last.
    have hle : m * tenTo left.length ≤ digitsValueFrom 10 m left := le_digitsValueFrom m left
    rw [hm, ← digitsValueFrom_append, ← htaken', ← hm] at hle
    rw [hsignificand, List.length_nil, Nat.zero_add, List.nil_append]
    omega
  · -- Otherwise digits of the fraction take the place of others, where one more counts little.
    have hlt : m < (n + 1) * tenTo taken'.length :=
      hm ▸ digitsValueFrom_lt (by decide) n taken'
    have hle : n * tenTo (beyond ++ x.fraction).length ≤ x.significand :=
      hsignificand ▸ le_digitsValueFrom n (beyond ++ x.fraction)
    have hplaces : (beyond ++ x.fraction).length =
        taken'.length + (beyond.length + left.length) := by
      rw [List.length_append, htaken', List.length_append]
      omega
    have hten : 10 * (n + 1) ≤ 11 * n := by
      have hbig : 110 ≤ twoTo 64 := by decide
      omega
    calc 10 * (m * tenTo (beyond.length + left.length))
        ≤ 10 * ((n + 1) * tenTo taken'.length * tenTo (beyond.length + left.length)) :=
          Nat.mul_le_mul_left 10 (Nat.mul_le_mul_right _ (Nat.le_of_lt hlt))
      _ = 10 * (n + 1) * tenTo (beyond ++ x.fraction).length := by
          rw [hplaces, tenTo_add taken'.length, Nat.mul_assoc, Nat.mul_assoc]
      _ ≤ 11 * n * tenTo (beyond ++ x.fraction).length := Nat.mul_le_mul_right _ hten
      _ = 11 * (n * tenTo (beyond ++ x.fraction).length) := Nat.mul_assoc _ _ _
      _ ≤ 11 * x.significand := Nat.mul_le_mul_left 11 hle

/-! ## Powers of ten -/

/-- Division goes on until the exponent is used up. -/
theorem isSome_scale_of_neg {neg : Bool} {m p : Nat} (h : m <<< p ≤ twoTo 1200) {e : Int}
    (he : e < 0) (fuel : Nat) : (scale fuel (.finite neg m p) e).isSome = true := by
  induction fuel generalizing m p e with
  | zero => rfl
  | succ fuel ih =>
      rw [scale]
      split
      · next hnear =>
          have hpos : 0 < e.natAbs := by omega
          obtain ⟨m', p', hround, -⟩ := Double.scaleTen_down neg h hpos hnear
          rw [show -(e.natAbs : Int) = e by omega] at hround
          rw [hround]
          rfl
      split
      · rfl
      · obtain ⟨m', p', hround, hle⟩ := Double.scaleTen_down neg h
          (show 0 < 308 by decide) (Nat.le_refl _)
        have hstep : (Double.finite neg m p).scaleTen (-308) = .finite neg m' p' := hround
        rw [if_neg (by omega), hstep]
        exact ih hle (by omega)

/-- A number of 64 bits is rounded to a double that is close to it. -/
theorem ofRatio_one_close {n : Nat} (hn : n < twoTo 64) : ∃ m p,
    Double.ofRatio false n 1 = .finite false m p ∧ Double.Close (n * Double.unit) (m <<< p) := by
  have hunits : n <<< 1074 / 1 = n * Double.unit := by
    rw [Nat.div_one, Double.shiftLeft_eq_mul_unit]
  have hmodest : Double.IsModest (n * Double.unit) := by
    refine Nat.le_trans (Nat.mul_le_mul_right Double.unit (Nat.le_of_lt hn)) ?_
    rw [Double.unit_eq, ← twoTo_add]
    exact Double.isModest_twoTo (by decide)
  exact Double.ofRatio_close false hunits hmodest

/-- A product at most so large has no larger power of ten in it. -/
theorem le_of_product_le {n k : Nat} (hn : 0 < n) (h : 10 * (n * tenTo k) ≤ 11 * tenTo 308) :
    k ≤ 308 := by
  by_cases hk : k ≤ 308
  · exact hk
  · have hpower : tenTo 309 ≤ tenTo k := tenTo_le (by omega)
    have hone : tenTo k ≤ n * tenTo k := Nat.le_mul_of_pos_left (tenTo k) hn
    have hpos : 0 < tenTo 308 := tenTo_pos 308
    have hnext : tenTo 309 = 10 * tenTo 308 := tenTo_succ 308
    omega

/-- **A number of 64 bits times a power of ten is in range** if it is at most `1.1 * 10 ^ 308`. -/
theorem isSome_scale {n : Nat} (hn : n < twoTo 64) {e : Int}
    (h : 0 ≤ e → 10 * (n * tenTo e.toNat) ≤ 11 * tenTo 308) (fuel : Nat) :
    (scale (fuel + 1) (Double.ofRatio false n 1) e).isSome = true := by
  obtain ⟨m, p, hround, hclose⟩ := ofRatio_one_close hn
  by_cases he : e < 0
  · have hsmall : n * Double.unit ≤ twoTo 64 * Double.unit :=
      Nat.mul_le_mul_right Double.unit (Nat.le_of_lt hn)
    have hunits : twoTo 64 * Double.unit = twoTo 1138 := by rw [Double.unit_eq, ← twoTo_add]
    have hbound : twoTo 1138 ≤ twoTo 1199 := twoTo_le (by decide)
    have hpos : 0 < twoTo 1199 := twoTo_pos 1199
    have htop : twoTo 1200 = 2 * twoTo 1199 := twoTo_succ 1199
    have hle := hclose.le
    rw [hround]
    exact isSome_scale_of_neg (by omega) he (fuel + 1)
  obtain ⟨k, rfl⟩ : ∃ k : Nat, e = k := ⟨e.toNat, by omega⟩
  have hproduct : 10 * (n * tenTo k) ≤ 11 * tenTo 308 := h (by omega)
  by_cases hzero : n = 0
  · rw [hzero, Double.ofRatio_zero, scale, Int.natAbs_natCast]
    split
    · next hk =>
        rw [Double.scaleTen_zero false hk]
        rfl
    · rfl
  · have hk := le_of_product_le (by omega) hproduct
    have hfinite := Double.scaleTen_up false (by omega) hclose hk hproduct
    rw [hround, scale, Int.natAbs_natCast, if_pos hk]
    dsimp only
    rw [if_pos hfinite]
    rfl

/-! ## Numbers in range -/

/-- What is read of a moderate number, with all powers of ten, is hardly larger than `10 ^ 308`. -/
theorem IsModerate.product_le {x : Number} (h : x.IsModerate) {m ahead : Nat}
    (hm : 10 * (m * tenTo ahead) ≤ 11 * x.significand) {e : Int}
    (he : e = (ahead : Int) + x.raised - x.lowered) (hpos : 0 ≤ e) :
    10 * (m * tenTo e.toNat) ≤ 11 * tenTo 308 := by
  have hplaces : ahead + x.raised = e.toNat + x.lowered := by omega
  have htimes : 10 * (m * tenTo e.toNat) * tenTo x.lowered ≤ 11 * tenTo 308 * tenTo x.lowered := by
    calc 10 * (m * tenTo e.toNat) * tenTo x.lowered
        = 10 * (m * tenTo ahead) * tenTo x.raised := by
          rw [Nat.mul_assoc, Nat.mul_assoc, ← tenTo_add, ← hplaces, tenTo_add, ← Nat.mul_assoc m,
            Nat.mul_assoc 10]
      _ ≤ 11 * x.significand * tenTo x.raised := Nat.mul_le_mul_right _ hm
      _ = 11 * (x.significand * tenTo x.raised) := Nat.mul_assoc _ _ _
      _ ≤ 11 * (tenTo 308 * tenTo x.lowered) := Nat.mul_le_mul_left 11 h.size
      _ = 11 * tenTo 308 * tenTo x.lowered := (Nat.mul_assoc _ _ _).symm
  exact Nat.le_of_mul_le_mul_right htimes (tenTo_pos x.lowered)

theorem magnitude?_of_isModerate {x : Number} (h : x.IsModerate) : x.magnitude?.isSome = true := by
  obtain ⟨m, ahead, hparts, hfits, hm⟩ := parts_le h.whole h.fraction
  unfold magnitude?
  rw [hparts]
  dsimp only
  cases hexponent : x.exponent with
  | none =>
      have hpower : x.raised = 0 ∧ x.lowered = x.fraction.length := by
        simp [raised, lowered, hexponent]
      exact isSome_scale hfits (h.product_le hm (by omega)) 3
  | some e =>
      obtain ⟨negative, ds⟩ := e
      have hvalue : ds.foldl (fun n d => n * 10 + (d.toNat - 48)) 0 = digitsValue 10 ds :=
        foldl_digits (h.exponent _ hexponent) 0
      dsimp only
      rw [hvalue]
      cases negative with
      | true =>
          have hpower : x.raised = 0 ∧ x.lowered = x.fraction.length + digitsValue 10 ds := by
            simp [raised, lowered, hexponent]
          rw [if_pos rfl]
          split
          · rw [Bool.not_true, Bool.and_false]
            rfl
          · exact isSome_scale hfits (h.product_le hm (by omega)) 3
      | false =>
          have hpower : x.raised = digitsValue 10 ds ∧ x.lowered = x.fraction.length := by
            simp [raised, lowered, hexponent]
          have hlt := h.raised
          rw [if_neg (by omega), if_neg (by decide)]
          exact isSome_scale hfits (h.product_le hm (by omega)) 3

/-- **Every moderate number is in range.** -/
theorem meaning?_of_isModerate {x : Number} (h : x.IsModerate) : x.meaning?.isSome = true := by
  unfold meaning?
  split
  · dsimp only
    split
    · rfl
    split
    · rfl
    · rfl
  · rw [Option.isSome_map]
    exact magnitude?_of_isModerate h

end Number

/-- What holds moderate numbers alone and does not nest too deep is within the limits. -/
theorem Content.within_of_isModerate {d : Content} {room : Nat} (hdepth : d.depth ≤ room)
    (hnumbers : ∀ x ∈ d.numbers, x.IsModerate) : d.Within room :=
  ⟨hdepth, fun x hx => Number.meaning?_of_isModerate (hnumbers x hx)⟩

end CountryLookup.Json
