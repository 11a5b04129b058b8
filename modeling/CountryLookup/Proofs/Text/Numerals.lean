import CountryLookup.Proofs.Text.Digits
import Mathlib.Algebra.Group.Nat.Defs
import Mathlib.Data.List.Induction

/-!
# Digit strings as a grammar

The reader of numbers checks that every character is a digit and computes a value from the left. Here
both are said at once, as a grammar: a numeral is a digit, or a numeral with a digit behind it, and
what it denotes grows with it. The letters that are digits beyond nine may be of either case.

## Main results

* `digitValue?_eq_some_iff` — which characters are digits, and of what value.
* `numeral_iff` — the digit strings, and the numbers they denote.
* `Numeral.lt_pow` — how large a number of so many digits is.
-/

namespace CountryLookup.Text

/-- A digit of a base, with its value. A letter may be of either case. -/
def IsDigitOf (base : Nat) (c : Char) (d : Nat) : Prop :=
  d < base ∧ (c = Nat.digitChar d ∨ c = (Nat.digitChar d).toUpper)

/-- A digit string of a base, with the number that it denotes. -/
inductive Numeral (base : Nat) : List Char → Nat → Prop where
  | digit {c : Char} {d : Nat} (h : IsDigitOf base c d) : Numeral base [c] d
  | more {cs : List Char} {n : Nat} {c : Char} {d : Nat} (hcs : Numeral base cs n)
    (h : IsDigitOf base c d) : Numeral base (cs ++ [c]) (n * base + d)

variable {base : Nat}

/-! ## Digits -/

/-- What a digit is, by the number of its character. -/
theorem digitValue?_cases {c : Char} {d : Nat} (h : digitValue? base c = some d) :
    d < base ∧ (48 ≤ c.toNat ∧ c.toNat ≤ 57 ∧ d = c.toNat - 48 ∨
      97 ≤ c.toNat ∧ c.toNat ≤ 102 ∧ d = c.toNat - 87 ∨
      65 ≤ c.toNat ∧ c.toNat ≤ 70 ∧ d = c.toNat - 55) := by
  simp only [digitValue?, Option.ite_none_right_eq_some, Option.some.injEq] at h
  obtain ⟨hlt, hd⟩ := h
  rw [hd] at hlt
  refine ⟨hlt, ?_⟩
  split at hd
  · omega
  split at hd
  · omega
  split at hd
  · omega
  · omega

/-- **Which characters are digits**, and of what value. -/
theorem digitValue?_eq_some_iff (hb : base ≤ 16) {c : Char} {d : Nat} :
    digitValue? base c = some d ↔ IsDigitOf base c d := by
  constructor
  · intro h
    obtain ⟨hd, hc⟩ := digitValue?_cases h
    have hnumber : ∀ n < 58, 48 ≤ n → Char.ofNat n = Nat.digitChar (n - 48) := by decide
    have hlower : ∀ n < 103, 97 ≤ n → Char.ofNat n = Nat.digitChar (n - 87) := by decide
    have hupper : ∀ n < 71, 65 ≤ n → Char.ofNat n = (Nat.digitChar (n - 55)).toUpper := by decide
    rw [← Char.ofNat_toNat c]
    rcases hc with ⟨hlo, hhi, rfl⟩ | ⟨hlo, hhi, rfl⟩ | ⟨hlo, hhi, rfl⟩
    · exact ⟨hd, .inl (hnumber _ (by omega) hlo)⟩
    · exact ⟨hd, .inl (hlower _ (by omega) hlo)⟩
    · exact ⟨hd, .inr (hupper _ (by omega) hlo)⟩
  · rintro ⟨hd, hc⟩
    have hall : ∀ b ≤ 16, ∀ d < b, digitValue? b (Nat.digitChar d) = some d ∧
        digitValue? b (Nat.digitChar d).toUpper = some d := by decide
    rcases hc with rfl | rfl
    · exact (hall base hb d hd).1
    · exact (hall base hb d hd).2

/-- What holds of the digits of a base, small and capital. -/
theorem of_isDigit_base (hb : base ≤ 16) {p : Char → Prop}
    (h : ∀ d < base, p (Nat.digitChar d) ∧ p (Nat.digitChar d).toUpper) {c : Char}
    (hc : isDigit base c = true) : p c := by
  obtain ⟨d, hd⟩ := Option.isSome_iff_exists.1 hc
  obtain ⟨hlt, rfl | rfl⟩ := (digitValue?_eq_some_iff hb).1 hd
  · exact (h d hlt).1
  · exact (h d hlt).2

/-! ## Digit strings -/

/-- **The digit strings, and the numbers they denote.** -/
theorem numeral_iff (hb : base ≤ 16) {cs : List Char} {n : Nat} :
    Numeral base cs n ↔
      cs ≠ [] ∧ (∀ c ∈ cs, isDigit base c = true) ∧ digitsValue base cs = n := by
  have hdigit : ∀ {c d}, IsDigitOf base c d → isDigit base c = true := by
    intro c d h
    rw [isDigit, (digitValue?_eq_some_iff hb).2 h, Option.isSome_some]
  constructor
  · intro h
    induction h with
    | digit h =>
        refine ⟨List.cons_ne_nil _ _, ?_, ?_⟩
        · intro c hc
          rw [List.mem_singleton.1 hc]
          exact hdigit h
        · rw [digitsValue, digitsValueFrom, (digitValue?_eq_some_iff hb).2 h]
          simp
    | more hcs h ih =>
        obtain ⟨-, hall, hvalue⟩ := ih
        refine ⟨by simp, ?_, ?_⟩
        · intro c hc
          rcases List.mem_append.1 hc with hc | hc
          · exact hall c hc
          · rw [List.mem_singleton.1 hc]
            exact hdigit h
        · rw [digitsValue_append, digitsValueFrom, (digitValue?_eq_some_iff hb).2 h, hvalue,
            digitsValueFrom_nil, Option.getD_some]
  · rintro ⟨hne, hall, rfl⟩
    induction cs using List.reverseRecOn with
    | nil => exact absurd rfl hne
    | append_singleton cs c ih =>
        obtain ⟨d, hd⟩ := Option.isSome_iff_exists.1 (hall c (by simp))
        have hlast := (digitValue?_eq_some_iff hb).1 hd
        rw [digitsValue_append, digitsValueFrom, hd, digitsValueFrom_nil, Option.getD_some]
        by_cases hcs : cs = []
        · subst hcs
          simpa [digitsValue] using Numeral.digit hlast
        · exact .more (ih hcs fun c' hc' => hall c' (by simp [hc'])) hlast

theorem Numeral.ne_nil {cs : List Char} {n : Nat} (h : Numeral base cs n) : cs ≠ [] := by
  cases h <;> simp

theorem Numeral.all_isDigit (hb : base ≤ 16) {cs : List Char} {n : Nat} (h : Numeral base cs n) :
    ∀ c ∈ cs, isDigit base c = true := ((numeral_iff hb).1 h).2.1

/-- No numeral holds a character that is no digit. -/
theorem Numeral.not_mem (hb : base ≤ 16) {cs : List Char} {n : Nat} (h : Numeral base cs n)
    {c : Char} (hc : isDigit base c = false) : c ∉ cs := by
  intro hmem
  rw [h.all_isDigit hb c hmem] at hc
  cases hc

/-- **How large a number of so many digits is.** -/
theorem Numeral.lt_pow {cs : List Char} {n : Nat} (h : Numeral base cs n) :
    n < base ^ cs.length := by
  induction h with
  | digit h => simpa using h.1
  | @more cs n c d hcs h ih =>
      have hd := h.1
      have hstep : (n + 1) * base ≤ base ^ cs.length * base := Nat.mul_le_mul_right base ih
      rw [List.length_append, List.length_singleton, Nat.pow_succ]
      rw [Nat.add_mul, Nat.one_mul] at hstep
      omega

end CountryLookup.Text
