import CountryLookup.Text.Lowercase

/-!
# Lower case is final

A text in lower case has no character left that lower-casing would change. For one character this
is a fact about the table of runs: what a run maps to lies on no run. The runs are compared in
pairs, so the table is gone through once and not for every character. Capital sigma and `İ`, which
are mapped by rules of their own, lie on a run or off the table, and nothing maps to them.

## Main results

* `upperRuns_apart` — no run leads to a run.
* `isLower_of_mem_lowerAfter` — lower-casing leaves characters that it does not change.
* `lowercase_lowercase` — lower-casing twice is lower-casing once.
-/

namespace CountryLookup.Text

/-! ## The table -/

/-- The run of what a run maps to. -/
def CaseRun.image (r : CaseRun) : CaseRun where
  first := (r.first + r.shift).toNat
  last := (r.last + r.shift).toNat
  stride := r.stride
  shift := 0

theorem CaseRun.has_image {r : CaseRun} (h0 : 0 ≤ r.first + r.shift) {n : Nat}
    (hn : r.has n = true) : r.image.has (n + r.shift).toNat = true := by
  simp only [CaseRun.has, CaseRun.image, Bool.and_eq_true, decide_eq_true_eq, beq_iff_eq] at hn ⊢
  obtain ⟨⟨h1, h2⟩, h3⟩ := hn
  have hd : (n + r.shift).toNat - (r.first + r.shift).toNat = n - r.first := by omega
  rw [hd]
  exact ⟨⟨decide_eq_true (by omega), decide_eq_true (by omega)⟩, h3⟩

/-- Whether a run lies off another: before it, behind it, or between its steps. The comparison is
the one that the kernel does at once, as the whole table is compared with itself. -/
def CaseRun.apart (r q : CaseRun) : Bool :=
  r.last.blt q.first || q.last.blt r.first
    || ((r.stride.beq 2 || r.first.beq r.last) && q.stride.beq 2
      && ((r.first + q.first) % 2).beq 1)

theorem CaseRun.not_has_of_apart {r q : CaseRun} (h : r.apart q = true) {n : Nat}
    (hn : r.has n = true) : q.has n = false := by
  rw [Bool.eq_false_iff]
  intro hq
  simp only [CaseRun.has, Bool.and_eq_true, decide_eq_true_eq, beq_iff_eq] at hn hq
  simp only [CaseRun.apart, Bool.or_eq_true, Bool.and_eq_true, Nat.blt_eq, Nat.beq_eq] at h
  obtain ⟨⟨hn1, hn2⟩, hn3⟩ := hn
  obtain ⟨⟨hq1, hq2⟩, hq3⟩ := hq
  rcases h with (h | h) | ⟨⟨h2, hs⟩, h⟩
  · omega
  · omega
  · -- two runs of every second number that start an odd distance apart
    rw [hs] at hq3
    rcases h2 with h2 | h2
    · rw [h2] at hn3
      omega
    · omega

/-- No run maps to numbers below zero, and none to `İ`. -/
theorem upperRuns_image : ∀ r ∈ upperRuns,
    0 ≤ (r.first + r.shift : Int) ∧ r.image.apart ⟨0x130, 0x130, 1, 0⟩ = true := by
  decide +kernel

theorem upperRuns_all_apart :
    (upperRuns.all fun r => upperRuns.all r.image.apart) = true := by
  decide +kernel

/-- **No run leads to a run.** -/
theorem upperRuns_apart {r q : CaseRun} (hr : r ∈ upperRuns) (hq : q ∈ upperRuns) :
    r.image.apart q = true :=
  List.all_eq_true.1 (List.all_eq_true.1 upperRuns_all_apart r hr) q hq

/-- Whether a code point lies on a run. -/
def onRun (n : Nat) : Bool := upperRuns.any (·.has n)

theorem onRun_zero : onRun 0 = false := by decide

theorem onRun_sigma : onRun 'Σ'.toNat = true := by decide

theorem lowerChar_of_not_onRun {c : Char} (h : onRun c.toNat = false) : lowerChar c = c := by
  have hnone : upperRuns.find? (·.has c.toNat) = none :=
    List.find?_eq_none.2 (List.any_eq_false.1 h)
  rw [lowerChar, hnone]

/-- The number of the lower-case form of a character on a run lies off the runs. -/
theorem not_onRun_shifted {r : CaseRun} (hr : r ∈ upperRuns) {n : Nat} (hn : r.has n = true) :
    onRun (n + r.shift).toNat = false ∧ (n + r.shift).toNat ≠ 0x130 := by
  obtain ⟨h0, hi⟩ := upperRuns_image r hr
  have himage := CaseRun.has_image h0 hn
  constructor
  · rw [onRun, List.any_eq_false]
    intro q hq
    rw [CaseRun.not_has_of_apart (upperRuns_apart hr hq) himage]
    decide
  · intro he
    have hoff := CaseRun.not_has_of_apart hi himage
    rw [he] at hoff
    cases hoff

/-- A code point that is no character stands for the first of them. -/
theorem toNat_ofNat_cases (n : Nat) : (Char.ofNat n).toNat = n ∨ (Char.ofNat n).toNat = 0 := by
  by_cases h : n.isValidChar
  · rw [Char.ofNat, dif_pos h]
    exact .inl rfl
  · rw [Char.ofNat, dif_neg h]
    exact .inr rfl

/-! ## Characters -/

/-- A character that lower-casing leaves as it is. -/
structure IsLower (c : Char) : Prop where
  ne_sigma : c ≠ 'Σ'
  ne_dotted : c ≠ 'İ'
  fixed : lowerChar c = c

theorem isLower_of_not_onRun {c : Char} (h : onRun c.toNat = false) (hi : c ≠ 'İ') :
    IsLower c where
  ne_sigma := by
    rintro rfl
    rw [onRun_sigma] at h
    cases h
  ne_dotted := hi
  fixed := lowerChar_of_not_onRun h

/-- **The lower-case form of a character is final.** -/
theorem isLower_lowerChar {c : Char} (hi : c ≠ 'İ') : IsLower (lowerChar c) := by
  cases hf : upperRuns.find? (·.has c.toNat) with
  | none =>
      have hoff : onRun c.toNat = false := by
        rw [onRun, List.any_eq_false]
        exact List.find?_eq_none.1 hf
      rw [lowerChar_of_not_onRun hoff]
      exact isLower_of_not_onRun hoff hi
  | some r =>
      have hn : r.has c.toNat = true := by simpa using List.find?_some hf
      obtain ⟨hoff, hne⟩ := not_onRun_shifted (List.mem_of_find?_eq_some hf) hn
      have hlower : lowerChar c = Char.ofNat (c.toNat + r.shift).toNat := by
        rw [lowerChar, hf]
      have hnumber := toNat_ofNat_cases (c.toNat + r.shift).toNat
      rw [← hlower] at hnumber
      refine isLower_of_not_onRun ?_ ?_
      · rcases hnumber with h | h
        · rw [h, hoff]
        · rw [h, onRun_zero]
      · intro he
        rw [he] at hnumber
        rcases hnumber with h | h
        · exact hne h.symm
        · exact absurd h (by decide)

/-! ## Texts -/

/-- **What lower-casing leaves it does not change.** -/
theorem isLower_of_mem_lowerAfter {before cs : List Char} {d : Char}
    (h : d ∈ lowerAfter before cs) : IsLower d := by
  induction cs generalizing before with
  | nil => cases h
  | cons c cs ih =>
      rw [lowerAfter, List.mem_append] at h
      rcases h with h | h
      · by_cases hs : c = 'Σ'
        · rw [if_pos hs, List.mem_singleton] at h
          rw [h]
          split
          · exact isLower_of_not_onRun (by decide) (by decide)
          · exact isLower_of_not_onRun (by decide) (by decide)
        · rw [if_neg hs] at h
          by_cases hi : c = 'İ'
          · rw [if_pos hi, List.mem_cons, List.mem_singleton] at h
            rcases h with rfl | rfl
            · exact isLower_of_not_onRun (by decide) (by decide)
            · exact isLower_of_not_onRun (by decide) (by decide)
          · rw [if_neg hi, List.mem_singleton] at h
            rw [h]
            exact isLower_lowerChar hi
      · exact ih h

/-- A text of such characters stays as it is, whatever stands before it. -/
theorem lowerAfter_of_isLower {cs : List Char} (h : ∀ c ∈ cs, IsLower c) (before : List Char) :
    lowerAfter before cs = cs := by
  induction cs generalizing before with
  | nil => rfl
  | cons c cs ih =>
      have hc := h c List.mem_cons_self
      rw [lowerAfter, if_neg hc.ne_sigma, if_neg hc.ne_dotted, hc.fixed,
        ih (fun d hd => h d (List.mem_cons_of_mem _ hd))]
      rfl

/-- **Lower-casing twice is lower-casing once.** -/
theorem lowercase_lowercase (s : String) : lowercase (lowercase s) = lowercase s := by
  have hlower : ∀ c ∈ lowerAfter [] s.toList, IsLower c :=
    fun c hc => isLower_of_mem_lowerAfter hc
  rw [lowercase, lowercase, String.toList_ofList, lowerAfter_of_isLower hlower]

/-- Lower-casing empties no text. -/
theorem lowercase_ne_empty {s : String} (h : s ≠ "") : lowercase s ≠ "" := by
  have hne : s.toList ≠ [] := by simpa using h
  intro he
  have hnil : lowerAfter [] s.toList = [] := by
    rw [lowercase] at he
    simpa using congrArg String.toList he
  exact lowerAfter_ne_nil [] hne hnil

end CountryLookup.Text
