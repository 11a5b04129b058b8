import CountryLookup.Number.Reader
import CountryLookup.Number.Shortest
import CountryLookup.Proofs.Text.Digits
import CountryLookup.Text.Lowercase
import CountryLookup.Text.Space

/-!
# No white space in numbers

White space is skipped nowhere: a text that reads as a truth value, as an integer or as a double has
none, and neither has the text of an integer or of a double. So trimming changes no such text.

## Main results

* `noSpace_of_lowercase`, `noSpace_of_integer?`, `Double.noSpace_of_parse?` — what is read.
* `noSpace_signedDecimal`, `Double.noSpace_render` — what is written.
* `trim_of_noSpace` — trimming leaves it alone.
-/

namespace CountryLookup.Text

/-- No character of a text is white space. -/
def NoSpace (cs : List Char) : Prop := ∀ c ∈ cs, isSpace c = false

theorem noSpace_nil : NoSpace [] := fun _ h => absurd h List.not_mem_nil

theorem NoSpace.cons {c : Char} {cs : List Char} (hc : isSpace c = false) (h : NoSpace cs) :
    NoSpace (c :: cs) := by
  intro d hd
  rcases List.mem_cons.1 hd with rfl | hd
  · exact hc
  · exact h d hd

theorem NoSpace.append {cs ds : List Char} (hc : NoSpace cs) (hd : NoSpace ds) :
    NoSpace (cs ++ ds) := by
  intro c h
  rcases List.mem_append.1 h with h | h
  · exact hc c h
  · exact hd c h

theorem NoSpace.of_subset {cs ds : List Char} (h : NoSpace ds) (hsub : ∀ c ∈ cs, c ∈ ds) :
    NoSpace cs :=
  fun c hc => h c (hsub c hc)

/-- For a given text it is enough to look at its characters. -/
theorem noSpace_of_any {cs : List Char} (h : cs.any isSpace = false) : NoSpace cs := fun c hc =>
  Bool.eq_false_iff.2 (List.any_eq_false.1 h c hc)

/-- Trimming leaves a text without white space alone. -/
theorem trim_of_noSpace {s : String} (h : NoSpace s.toList) : trim s = s := by
  have hdrop : ∀ {cs : List Char}, NoSpace cs → cs.dropWhile isSpace = cs := by
    intro cs hcs
    cases cs with
    | nil => rfl
    | cons c cs => rw [List.dropWhile_cons, hcs c List.mem_cons_self]; rfl
  have hreverse : NoSpace s.toList.reverse := h.of_subset fun c hc => List.mem_reverse.1 hc
  rw [trim, trimChars, hdrop h, dropEndWhile, hdrop hreverse, List.reverse_reverse,
    String.ofList_toList]

/-- If it is not empty, it is not blank. -/
theorem isBlank_of_noSpace {s : String} (h : NoSpace s.toList) (hne : s.toList ≠ []) :
    isBlank s = false := by
  unfold isBlank
  cases hs : s.toList with
  | nil => exact absurd hs hne
  | cons c cs =>
      rw [hs] at h
      rw [List.all_cons, h c List.mem_cons_self, Bool.false_and]

/-! ## Digits -/

theorem isSpace_of_isDigit {c : Char} (h : isDigit 10 c = true) : isSpace c = false :=
  of_isDigit (p := fun c => isSpace c = false) (by decide) h

theorem noSpace_of_digits {cs : List Char} (h : cs.any (fun c => !isDigit 10 c) = false) :
    NoSpace cs := by
  intro c hc
  have hdigit := List.any_eq_false.1 h c hc
  exact isSpace_of_isDigit (by simpa using hdigit)

/-- Text that is read as digits, at least one. -/
theorem noSpace_of_guard {α : Type} {cs : List Char} {a b : α}
    (h : (if cs.isEmpty || cs.any (fun c => !isDigit 10 c) then none else some a) = some b) :
    NoSpace cs := by
  split at h
  · cases h
  · next hdigits =>
      exact noSpace_of_digits (Bool.or_eq_false_iff.1 (Bool.eq_false_iff.2 hdigits)).2

theorem noSpace_takeWhile (cs : List Char) : NoSpace (cs.takeWhile (isDigit 10)) := fun _ hc =>
  isSpace_of_isDigit (List.all_eq_true.1 List.all_takeWhile _ hc)

theorem noSpace_toDigits (n : Nat) : NoSpace (Nat.toDigits 10 n) := fun _ hc =>
  of_mem_toDigits (p := fun c => isSpace c = false) (by decide) (by decide) hc

theorem toDigits_ne_nil (n : Nat) : Nat.toDigits 10 n ≠ [] := by
  obtain ⟨c, cs, hshape, -⟩ := toDigits_shape (b := 10) (by decide) (by decide) n
  rw [hshape]
  exact List.cons_ne_nil c cs

/-! ## Truth values -/

/-- The code points of white space. -/
def spaces : List Nat :=
  [ 0x09, 0x0A, 0x0B, 0x0C, 0x0D, 0x20, 0x85, 0xA0, 0x1680, 0x2000, 0x2001, 0x2002, 0x2003, 0x2004,
    0x2005, 0x2006, 0x2007, 0x2008, 0x2009, 0x200A, 0x2028, 0x2029, 0x202F, 0x205F, 0x3000 ]

theorem mem_spaces_of_isSpace {c : Char} (h : isSpace c = true) : c.toNat ∈ spaces := by
  simp only [isSpace, Bool.or_eq_true, Bool.and_eq_true, decide_eq_true_eq, beq_iff_eq] at h
  simp only [spaces, List.mem_cons, List.not_mem_nil, or_false]
  omega

/-- White space has no case. -/
theorem lowerChar_of_isSpace {c : Char} (h : isSpace c = true) :
    c ≠ 'Σ' ∧ c ≠ 'İ' ∧ lowerChar c = c := by
  have hall : ∀ n ∈ spaces, upperRuns.find? (·.has n) = none ∧ n ≠ 'Σ'.toNat ∧ n ≠ 'İ'.toNat := by
    decide +kernel
  obtain ⟨hrun, hsigma, hdotted⟩ := hall _ (mem_spaces_of_isSpace h)
  refine ⟨fun e => hsigma (e ▸ rfl), fun e => hdotted (e ▸ rfl), ?_⟩
  rw [lowerChar, hrun]

theorem mem_lowerAfter_of_isSpace {c : Char} (h : isSpace c = true) {cs : List Char} (hc : c ∈ cs)
    (before : List Char) : c ∈ lowerAfter before cs := by
  obtain ⟨hsigma, hdotted, hlower⟩ := lowerChar_of_isSpace h
  induction cs generalizing before with
  | nil => cases hc
  | cons d ds ih =>
      rw [lowerAfter, List.mem_append]
      rcases List.mem_cons.1 hc with rfl | hc
      · rw [if_neg hsigma, if_neg hdotted, hlower]
        exact .inl List.mem_cons_self
      · exact .inr (ih hc (d :: before))

/-- What is a word without white space in lower case has none. -/
theorem noSpace_of_lowercase {s w : String} (h : lowercase s = w) (hw : NoSpace w.toList) :
    NoSpace s.toList := by
  intro c hc
  rw [Bool.eq_false_iff]
  intro hspace
  have hmem : c ∈ w.toList := by
    rw [← h, lowercase, String.toList_ofList]
    exact mem_lowerAfter_of_isSpace hspace hc []
  rw [hw c hmem] at hspace
  cases hspace

/-! ## Integers -/

theorem noSpace_of_natural? {s : String} {n : Nat} (h : natural? s = some n) :
    NoSpace s.toList := by
  unfold natural? at h
  dsimp only at h
  split at h
  · next cs hs =>
      rw [hs]
      exact .cons rfl (noSpace_of_guard h)
  · exact noSpace_of_guard h

/-- **A text that reads as an integer.** -/
theorem noSpace_of_integer? {s : String} {i : Int} (h : integer? s = some i) :
    NoSpace s.toList := by
  unfold integer? at h
  split at h
  · next cs hs =>
      rw [hs]
      exact .cons rfl (noSpace_of_guard h)
  · obtain ⟨n, hn, -⟩ := Option.map_eq_some_iff.1 h
    exact noSpace_of_natural? hn

/-- **The text of an integer.** -/
theorem noSpace_signedDecimal (i : Int) :
    NoSpace (signedDecimal i).toList ∧ (signedDecimal i).toList ≠ [] := by
  unfold signedDecimal
  split
  · rw [String.toList_append, toList_decimal]
    exact ⟨.append (.cons rfl noSpace_nil) (noSpace_toDigits _), by simp⟩
  · rw [toList_decimal]
    exact ⟨noSpace_toDigits _, toDigits_ne_nil _⟩

end CountryLookup.Text

namespace CountryLookup.Double

open Text

/-! ## Doubles -/

theorem noSpace_of_sign {cs : List Char} (h : NoSpace (sign cs).2) : NoSpace cs := by
  unfold sign at h
  split at h
  · exact .cons rfl h
  · exact .cons rfl h
  · exact h

theorem noSpace_of_exponent? {cs : List Char} {e : Int} (h : exponent? cs = some e) :
    NoSpace cs := by
  cases cs with
  | nil => exact noSpace_nil
  | cons c cs =>
      rw [exponent?] at h
      by_cases hc : (c == 'e' || c == 'E') = true
      · rw [if_pos hc] at h
        have hletter : isSpace c = false := by
          rcases Bool.or_eq_true_iff.1 hc with hc | hc
          · rw [beq_iff_eq.1 hc]
            rfl
          · rw [beq_iff_eq.1 hc]
            rfl
        exact .cons hletter (noSpace_of_sign (noSpace_of_guard h))
      · rw [if_neg hc] at h
        cases h

theorem noSpace_of_unsigned? {neg : Bool} {cs : List Char} {x : Double}
    (h : unsigned? neg cs = some x) : NoSpace cs := by
  rw [← List.takeWhile_append_dropWhile (p := isDigit 10) (l := cs)]
  refine .append (noSpace_takeWhile cs) ?_
  unfold unsigned? at h
  dsimp only at h
  split at h
  · next ds hds =>
      split at h
      · cases h
      · obtain ⟨e, he, -⟩ := Option.map_eq_some_iff.1 h
        rw [hds, ← List.takeWhile_append_dropWhile (p := isDigit 10) (l := ds)]
        exact .cons rfl ((noSpace_takeWhile ds).append (noSpace_of_exponent? he))
  · split at h
    · cases h
    · obtain ⟨e, he, -⟩ := Option.map_eq_some_iff.1 h
      exact noSpace_of_exponent? he

/-- The letters of a word, in any case. -/
theorem noSpace_of_toLower {cs : List Char} {w : String}
    (h : String.ofList (cs.map Char.toLower) = w) (hw : NoSpace w.toList) : NoSpace cs := by
  intro c hc
  rw [Bool.eq_false_iff]
  intro hspace
  have hrange : ∀ n ∈ spaces, ¬ (65 ≤ n ∧ n ≤ 90) := by decide
  have hsmall : ¬ (c.val ≥ 'A'.val ∧ c.val ≤ 'Z'.val) := by
    have hn := hrange _ (mem_spaces_of_isSpace hspace)
    simp only [Char.toNat] at hn
    simpa [UInt32.le_iff_toNat_le] using hn
  have hlower : c.toLower = c := dif_neg hsmall
  have hmem : c ∈ w.toList := by
    rw [← h, String.toList_ofList]
    exact List.mem_map.2 ⟨c, hc, hlower⟩
  rw [hw c hmem] at hspace
  cases hspace

/-- **A text that reads as a double.** -/
theorem noSpace_of_parse? {s : String} {x : Double} (h : parse? s = some x) :
    NoSpace s.toList := by
  apply noSpace_of_sign
  unfold parse? at h
  dsimp only at h
  split at h
  · next hword =>
      rcases hword with hword | hword
      · exact noSpace_of_toLower hword (noSpace_of_any (by decide))
      · exact noSpace_of_toLower hword (noSpace_of_any (by decide))
  · split at h
    · next hword => exact noSpace_of_toLower hword (noSpace_of_any (by decide))
    · exact noSpace_of_unsigned? h

theorem noSpace_replicate (n : Nat) : NoSpace (List.replicate n '0') := by
  intro c hc
  rw [List.eq_of_mem_replicate hc]
  rfl

theorem noSpace_positional (a : Nat) (e : Int) :
    NoSpace (positional a e) ∧ positional a e ≠ [] := by
  unfold positional
  dsimp only
  split
  · exact ⟨.append (noSpace_toDigits a) (noSpace_replicate _), by simp⟩
  · have hdigits := (noSpace_replicate ((-e).toNat + 1 - (Nat.toDigits 10 a).length)).append
      (noSpace_toDigits a)
    refine ⟨.append (hdigits.of_subset fun c => List.mem_of_mem_take)
      (.cons rfl (hdigits.of_subset fun c => List.mem_of_mem_drop)), by simp⟩

/-- **The text of a double.** -/
theorem noSpace_render (x : Double) : NoSpace x.render.toList ∧ x.render.toList ≠ [] := by
  cases x with
  | nan => exact ⟨noSpace_of_any (by decide), by decide⟩
  | infinite neg => cases neg <;> exact ⟨noSpace_of_any (by decide), by decide⟩
  | finite neg m p =>
      have hdigits : NoSpace (if m = 0 then ['0'] else positional (shortest m p).1 (shortest m p).2) ∧
          (if m = 0 then ['0'] else positional (shortest m p).1 (shortest m p).2) ≠ [] := by
        split
        · exact ⟨.cons rfl noSpace_nil, by simp⟩
        · exact noSpace_positional _ _
      rw [render, String.toList_ofList]
      split
      · exact ⟨.cons rfl hdigits.1, by simp⟩
      · exact hdigits

end CountryLookup.Double
