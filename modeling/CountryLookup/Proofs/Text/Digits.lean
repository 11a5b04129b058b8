import CountryLookup.Text.Digits
import Mathlib.Algebra.Group.Nat.Defs

/-!
# Reading digits back

What is written in a base up to sixteen is read back in that base. Decimals, which settings and
lengths are written in, are the case of base ten.

## Main results

* `le_digitsValueFrom`, `digitsValueFrom_lt` — what digits behind a number make of it.
* `digitsValue_toDigits` — the digits of a number have its value.
* `toDigits_shape` — they are digits, and a zero leads only the number zero.
-/

namespace CountryLookup.Text

/-! ## Any base -/

section Base

variable {b : Nat}

theorem digitValue?_digitChar (hb : b ≤ 16) {d : Nat} (h : d < b) :
    digitValue? b (Nat.digitChar d) = some d := by
  have hall : ∀ b ≤ 16, ∀ d < b, digitValue? b (Nat.digitChar d) = some d := by decide
  exact hall b hb d h

theorem isDigit_digitChar (hb : b ≤ 16) {d : Nat} (h : d < b) :
    isDigit b (Nat.digitChar d) = true := by
  rw [isDigit, digitValue?_digitChar hb h]
  rfl

/-- Digits behind a number multiply it by a power of the base. -/
theorem le_digitsValueFrom (n : Nat) (ds : List Char) :
    n * b ^ ds.length ≤ digitsValueFrom b n ds := by
  induction ds generalizing n with
  | nil => simp
  | cons d ds ih =>
      rw [digitsValueFrom, List.length_cons, Nat.pow_succ', ← Nat.mul_assoc]
      exact Nat.le_trans (Nat.mul_le_mul_right _ (Nat.le_add_right _ _)) (ih _)

/-- What they add is less than that power. -/
theorem digitsValueFrom_lt (hb : 0 < b) (n : Nat) (ds : List Char) :
    digitsValueFrom b n ds < (n + 1) * b ^ ds.length := by
  induction ds generalizing n with
  | nil => simp
  | cons d ds ih =>
      have hd : (digitValue? b d).getD 0 < b := by
        cases h : digitValue? b d with
        | none => exact hb
        | some v =>
            simp only [digitValue?, Option.ite_none_right_eq_some, Option.some.injEq] at h
            rw [Option.getD_some, ← h.2]
            exact h.1
      have hnext : n * b + (digitValue? b d).getD 0 + 1 ≤ (n + 1) * b := by
        rw [Nat.add_mul, Nat.one_mul]
        omega
      rw [digitsValueFrom, List.length_cons, Nat.pow_succ', ← Nat.mul_assoc]
      exact Nat.lt_of_lt_of_le (ih _) (Nat.mul_le_mul_right _ hnext)

/-- Another digit behind a digit string multiplies its value by the base. -/
theorem digitsValue_concat (hb : b ≤ 16) (ds : List Char) {d : Nat} (h : d < b) :
    digitsValue b (ds ++ [Nat.digitChar d]) = digitsValue b ds * b + d := by
  rw [digitsValue_append, digitsValueFrom, digitValue?_digitChar hb h, digitsValueFrom_nil,
    Option.getD_some]

/-- **The digits of a number have its value.** -/
theorem digitsValue_toDigits (h1 : 1 < b) (hb : b ≤ 16) (n : Nat) :
    digitsValue b (Nat.toDigits b n) = n := by
  induction n using Nat.strongRecOn with
  | _ n ih =>
      by_cases h : n < b
      · rw [Nat.toDigits_of_lt_base h, digitsValue, digitsValueFrom, digitValue?_digitChar hb h]
        simp
      · have hm : n % b < b := Nat.mod_lt n (by omega)
        have hd : n / b < n := Nat.div_lt_self (by omega) h1
        rw [Nat.toDigits_of_base_le h1 (by omega), digitsValue_concat hb _ hm, ih (n / b) hd]
        exact Nat.div_add_mod' n b

/-- Every character of a written number is one of the digits of the base. -/
theorem of_mem_toDigits {p : Char → Prop} (h1 : 1 < b) (h : ∀ d < b, p (Nat.digitChar d))
    {n : Nat} {c : Char} (hc : c ∈ Nat.toDigits b n) : p c := by
  induction n using Nat.strongRecOn with
  | _ n ih =>
      by_cases hn : n < b
      · rw [Nat.toDigits_of_lt_base hn, List.mem_singleton] at hc
        rw [hc]
        exact h n hn
      · rw [Nat.toDigits_of_base_le h1 (by omega), List.mem_append, List.mem_singleton] at hc
        rcases hc with hc | hc
        · exact ih (n / b) (Nat.div_lt_self (by omega) h1) hc
        · rw [hc]
          exact h _ (Nat.mod_lt n (by omega))

/-- What the digits of a number look like: a digit, more digits, and none behind a zero. -/
theorem toDigits_shape (h1 : 1 < b) (hb : b ≤ 16) (n : Nat) :
    ∃ c cs, Nat.toDigits b n = c :: cs ∧ isDigit b c = true ∧
      cs.all (isDigit b) = true ∧ (c = '0' → n = 0 ∧ cs = []) := by
  induction n using Nat.strongRecOn with
  | _ n ih =>
      by_cases h : n < b
      · refine ⟨Nat.digitChar n, [], Nat.toDigits_of_lt_base h, isDigit_digitChar hb h, rfl, ?_⟩
        intro hz
        exact ⟨Nat.digitChar_eq_zero.1 hz, rfl⟩
      · have hd : n / b < n := Nat.div_lt_self (by omega) h1
        obtain ⟨c, cs, he, hc, hcs, hz⟩ := ih (n / b) hd
        have hm : n % b < b := Nat.mod_lt n (by omega)
        refine ⟨c, cs ++ [Nat.digitChar (n % b)], ?_, hc, ?_, ?_⟩
        · rw [Nat.toDigits_of_base_le h1 (by omega), he, List.cons_append]
        · rw [List.all_append, hcs, Bool.true_and, List.all_cons, isDigit_digitChar hb hm]
          rfl
        · intro hc0
          -- what is left after taking off the last digit is no zero
          have hpos : 0 < n / b := Nat.div_pos (by omega) (by omega)
          have hzero := (hz hc0).1
          omega

theorem all_digits_toDigits (h1 : 1 < b) (hb : b ≤ 16) (n : Nat) :
    (Nat.toDigits b n).all (isDigit b) = true := by
  rw [List.all_eq_true]
  intro c hc
  exact of_mem_toDigits (p := fun c => isDigit b c = true) h1
    (fun d hd => isDigit_digitChar hb hd) hc

end Base

/-! ## Decimals -/

/-- Every decimal digit is one of ten. -/
theorem exists_digitChar {c : Char} (h : isDigit 10 c = true) :
    ∃ d, d < 10 ∧ c = Nat.digitChar d := by
  have hall : ∀ n < 58, 48 ≤ n → ∃ d, d < 10 ∧ Char.ofNat n = Nat.digitChar d := by decide
  have hrange : 48 ≤ c.toNat ∧ c.toNat < 58 := by
    simp only [isDigit, digitValue?] at h
    by_cases hn : 48 ≤ c.toNat ∧ c.toNat ≤ 57
    · omega
    · exfalso
      -- a letter of either case has ten or more
      rw [if_neg hn] at h
      by_cases hl : 97 ≤ c.toNat ∧ c.toNat ≤ 102
      · rw [if_pos hl, if_neg (by omega)] at h
        cases h
      · rw [if_neg hl] at h
        by_cases hu : 65 ≤ c.toNat ∧ c.toNat ≤ 70
        · rw [if_pos hu, if_neg (by omega)] at h
          cases h
        · rw [if_neg hu, if_neg (by omega)] at h
          cases h
  obtain ⟨d, hd, he⟩ := hall c.toNat hrange.2 hrange.1
  exact ⟨d, hd, by rw [← he, Char.ofNat_toNat]⟩

/-- What holds of the ten digits holds of every digit. -/
theorem of_isDigit {p : Char → Prop} (h : ∀ d < 10, p (Nat.digitChar d)) {c : Char}
    (hc : isDigit 10 c = true) : p c := by
  obtain ⟨d, hd, rfl⟩ := exists_digitChar hc
  exact h d hd

theorem toList_decimal (n : Nat) : (decimal n).toList = Nat.toDigits 10 n :=
  String.toList_ofList

theorem digitsValue_decimal (n : Nat) : digitsValue 10 (decimal n).toList = n := by
  rw [toList_decimal]
  exact digitsValue_toDigits (by decide) (by decide) n

theorem decimal_shape (n : Nat) :
    ∃ c cs, (decimal n).toList = c :: cs ∧ isDigit 10 c = true ∧
      cs.all (isDigit 10) = true ∧ (c = '0' → n = 0 ∧ cs = []) := by
  rw [toList_decimal]
  exact toDigits_shape (by decide) (by decide) n

theorem decimal_all_digits (n : Nat) : (decimal n).toList.all (isDigit 10) = true := by
  rw [toList_decimal]
  exact all_digits_toDigits (by decide) (by decide) n

end CountryLookup.Text
