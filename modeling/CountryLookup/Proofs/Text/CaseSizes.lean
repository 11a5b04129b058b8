import CountryLookup.Proofs.Text.Lowercase
import Mathlib.Data.String.Basic

/-!
# How long a text is in lower case

Lower-casing may change how many bytes a text takes. For texts of two bytes, which is the length of a
code, it does so in three cases only. Either the text is two characters of one byte, and their
lower-case forms take one byte each, or it is one character of two bytes. Of these `İ` becomes two
characters, and `Ⱥ` and `Ⱦ` have lower-case forms so much further on that they take three bytes. All
other runs of the table stay below or between the bounds of the lengths.

## Main results

* `upperRuns_bounds` — the runs that start below the bound of two bytes do not lead across a bound.
* `utf8ByteSize_lowercase` — the lower-case form of a text of two bytes has two or three.
-/

namespace CountryLookup.Text

/-! ## Characters -/

theorem utf8Size_eq_one_iff {c : Char} : c.utf8Size = 1 ↔ c.toNat ≤ 0x7F := by
  rw [Char.utf8Size_eq_one_iff, UInt32.le_iff_toNat_le]
  exact Iff.rfl

theorem utf8Size_eq_two_iff {c : Char} : c.utf8Size = 2 ↔ 0x7F < c.toNat ∧ c.toNat ≤ 0x7FF := by
  rw [Char.utf8Size_eq_two_iff, UInt32.le_iff_toNat_le, UInt32.lt_iff_toNat_lt]
  exact Iff.rfl

/-- A character that changes lies on a run, whose shift leads to its lower-case form. -/
theorem lowerChar_cases (c : Char) :
    lowerChar c = c ∨ ∃ r ∈ upperRuns, r.has c.toNat = true ∧
      lowerChar c = Char.ofNat (c.toNat + r.shift).toNat := by
  unfold lowerChar
  cases hf : upperRuns.find? (·.has c.toNat) with
  | none => exact .inl rfl
  | some r => exact .inr ⟨r, List.mem_of_find?_eq_some hf, by simpa using List.find?_some hf, rfl⟩

/-- The code points of `Ⱥ` and `Ⱦ`, whose lower-case forms take a byte more. -/
def wideners : List Nat := [0x23A, 0x23E]

/-- **Runs do not lead across the bounds of one and of two bytes**, but for two characters. -/
theorem upperRuns_bounds : ∀ r ∈ upperRuns,
    (r.last ≤ 0x7F ∧ 0 ≤ r.first + r.shift ∧ r.last + r.shift ≤ 0x7F) ∨
      (0x7F < r.first ∧ r.last ≤ 0x7FF ∧ 0x7F < r.first + r.shift ∧ r.last + r.shift ≤ 0x7FF) ∨
      (r.first = r.last ∧ r.first ∈ wideners) ∨ 0x7FF < r.first := by
  decide +kernel

/-- A code point on a run lies between the ends of the run. -/
theorem CaseRun.bounds_of_has {r : CaseRun} {n : Nat} (h : r.has n = true) :
    r.first ≤ n ∧ n ≤ r.last := by
  simp only [CaseRun.has, Bool.and_eq_true, decide_eq_true_eq] at h
  exact h.1

theorem toNat_ofNat_of_lt {n : Nat} (h : n ≤ 0x7FF) : (Char.ofNat n).toNat = n := by
  rw [Char.ofNat, dif_pos (Or.inl (by omega))]
  rfl

/-- The lower-case form of a character of one byte has one byte. -/
theorem utf8Size_lowerChar_one {c : Char} (h : c.utf8Size = 1) : (lowerChar c).utf8Size = 1 := by
  have hc := utf8Size_eq_one_iff.1 h
  rcases lowerChar_cases c with hsame | ⟨r, hr, hhas, hlower⟩
  · rw [hsame]
    exact h
  · obtain ⟨hfirst, hlast⟩ := r.bounds_of_has hhas
    have hwide : r.first ∈ wideners → 0x7F < r.first := by
      intro hmem
      simp only [wideners, List.mem_cons, List.not_mem_nil, or_false] at hmem
      omega
    rcases upperRuns_bounds r hr with hone | htwo | hw | hfar
    · rw [utf8Size_eq_one_iff, hlower, toNat_ofNat_of_lt (by omega)]
      omega
    · omega
    · have hfar := hwide hw.2
      omega
    · omega

/-- The lower-case form of a character of two bytes has two bytes, but for two characters. -/
theorem utf8Size_lowerChar_two {c : Char} (h : c.utf8Size = 2) (hc : c.toNat ∉ wideners) :
    (lowerChar c).utf8Size = 2 := by
  obtain ⟨hlow, hhigh⟩ := utf8Size_eq_two_iff.1 h
  rcases lowerChar_cases c with hsame | ⟨r, hr, hhas, hlower⟩
  · rw [hsame]
    exact h
  · obtain ⟨hfirst, hlast⟩ := r.bounds_of_has hhas
    rcases upperRuns_bounds r hr with hone | htwo | hw | hfar
    · omega
    · rw [utf8Size_eq_two_iff, hlower, toNat_ofNat_of_lt (by omega)]
      omega
    · have heq : c.toNat = r.first := by omega
      exact absurd (heq ▸ hw.2) hc
    · omega

/-! ## Texts of two bytes -/

/-- A text of two bytes is one character or two. -/
theorem toList_of_two {s : String} (h : s.utf8ByteSize = 2) :
    (∃ c, s.toList = [c] ∧ c.utf8Size = 2) ∨
      ∃ c d, s.toList = [c, d] ∧ c.utf8Size = 1 ∧ d.utf8Size = 1 := by
  rw [← String.utf8Len_toList] at h
  generalize s.toList = cs at h
  match cs with
  | [] => cases h
  | [c] => exact .inl ⟨c, rfl, by simpa using h⟩
  | [c, d] =>
      have hc := c.utf8Size_pos
      have hd := d.utf8Size_pos
      simp only [String.utf8Len_cons, String.utf8Len_nil] at h
      exact .inr ⟨c, d, rfl, by omega, by omega⟩
  | c :: d :: e :: cs =>
      have hc := c.utf8Size_pos
      have hd := d.utf8Size_pos
      have he := e.utf8Size_pos
      simp only [String.utf8Len_cons] at h
      omega

/-- The texts of two bytes whose lower-case form is longer. -/
def outgrowing : List String := ["İ", "Ⱥ", "Ⱦ"]

theorem utf8ByteSize_lowercase_outgrowing {s : String} (h : s ∈ outgrowing) :
    (lowercase s).utf8ByteSize = 3 := by
  have hall : ∀ s ∈ outgrowing, (lowercase s).utf8ByteSize = 3 := by decide +kernel
  exact hall s h

/-- One character, with no other about it. -/
theorem lowerAfter_single {c : Char} (hc : c.utf8Size = 2) (h : String.ofList [c] ∉ outgrowing) :
    String.utf8Len (lowerAfter [] [c]) = 2 := by
  rw [lowerAfter, lowerAfter_nil, List.append_nil]
  by_cases hs : c = 'Σ'
  · rw [if_pos hs]
    rfl
  by_cases hi : c = 'İ'
  · exact absurd (by rw [hi]; decide) h
  · have hnarrow : c.toNat ∉ wideners := by
      intro hmem
      simp only [wideners, List.mem_cons, List.not_mem_nil, or_false] at hmem
      rcases hmem with hn | hn
      · have heq : c = 'Ⱥ' := Char.toNat_inj.1 hn
        exact h (by rw [heq]; decide)
      · have heq : c = 'Ⱦ' := Char.toNat_inj.1 hn
        exact h (by rw [heq]; decide)
    rw [if_neg hs, if_neg hi]
    simpa using utf8Size_lowerChar_two hc hnarrow

/-- Two characters of one byte each. -/
theorem lowerAfter_pair {c d : Char} (hc : c.utf8Size = 1) (hd : d.utf8Size = 1) :
    String.utf8Len (lowerAfter [] [c, d]) = 2 := by
  have hne : ∀ e : Char, e.utf8Size = 1 → e ≠ 'Σ' ∧ e ≠ 'İ' := by
    intro e he
    constructor
    · rintro rfl
      cases he
    · rintro rfl
      cases he
  rw [lowerAfter, lowerAfter, lowerAfter_nil, if_neg (hne c hc).1, if_neg (hne c hc).2,
    if_neg (hne d hd).1, if_neg (hne d hd).2]
  simp [utf8Size_lowerChar_one hc, utf8Size_lowerChar_one hd]

/-- **The lower-case form of a text of two bytes** has two bytes, but for three texts, where it has
three. -/
theorem utf8ByteSize_lowercase {s : String} (h : s.utf8ByteSize = 2) :
    (lowercase s).utf8ByteSize = if s ∈ outgrowing then 3 else 2 := by
  by_cases ho : s ∈ outgrowing
  · rw [if_pos ho, utf8ByteSize_lowercase_outgrowing ho]
  · rw [if_neg ho, lowercase, String.utf8ByteSize_ofList]
    rcases toList_of_two h with ⟨c, hs, hc⟩ | ⟨c, d, hs, hc, hd⟩
    · rw [hs]
      refine lowerAfter_single hc ?_
      rwa [← hs, String.ofList_toList]
    · rw [hs]
      exact lowerAfter_pair hc hd

end CountryLookup.Text
