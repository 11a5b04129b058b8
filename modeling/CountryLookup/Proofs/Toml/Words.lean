import CountryLookup.Proofs.Text.Digits
import CountryLookup.Proofs.Toml.Strings
import CountryLookup.Text.Runs
import CountryLookup.Toml.Reader

/-!
# Reading values back

What the printer writes behind an equals sign is a string, a decimal or a truth value, and the
line ends behind it. Whether such a piece of text is read back as a value is one relation,
`Reads`, and documents are read in its terms.

## Main results

* `reads_text`, `reads_decimal`, `reads_truth` — the values that are written.
-/

namespace CountryLookup.Toml

open Text

/-- At the end of a line the text `w` is read as the value `v`, and no white space in front of it
is part of it. -/
structure Reads (w : List Char) (v : Setting) : Prop where
  start : ∀ c, w.head? = some c → isGap c = false
  some : w ≠ []
  read : ∀ rest, readValue maxDepth (w ++ '\n' :: rest) = .some (v, '\n' :: rest)

/-! ## Strings -/

theorem writeText_head (s : String) :
    ∃ q w, writeText s = q :: w ∧ (q = '"' ∨ q = '\'') := by
  unfold writeText
  cases styleOf s.toList with
  | basic => exact ⟨'"', _, rfl, .inl rfl⟩
  | literal => exact ⟨'\'', _, rfl, .inr rfl⟩
  | longBasic => exact ⟨'"', _, rfl, .inl rfl⟩
  | longLiteral => exact ⟨'\'', _, rfl, .inr rfl⟩

theorem readValue_string {q : Char} (hq : q = '"' ∨ q = '\'') (cs : List Char) :
    readValue maxDepth (q :: cs) =
      (readText (q :: cs)).map fun r => (.text (String.ofList r.1), r.2) := by
  rcases hq with rfl | rfl
  · rfl
  · rfl

/-- **A text is read back as a text.** -/
theorem reads_text (s : String) : Reads (writeText s) (.text s) := by
  obtain ⟨q, w, he, hq⟩ := writeText_head s
  refine ⟨?_, ?_, ?_⟩
  · intro c hc
    rw [he, List.head?_cons, Option.some.injEq] at hc
    subst hc
    rcases hq with rfl | rfl
    · rfl
    · rfl
  · rw [he]
    exact List.cons_ne_nil q w
  · intro rest
    have h := readText_writeText s rest
    rw [he, List.cons_append] at h ⊢
    rw [readValue_string hq, h, Option.map_some, String.ofList_toList]

/-! ## Words -/

theorem splitWord_newline {w : List Char} (h : w.all isWordChar = true) (rest : List Char) :
    splitWord (w ++ '\n' :: rest) = (w, '\n' :: rest) := by
  rw [splitWord, takeWhile_run h (by decide), dropWhile_run h (by decide)]
  split
  · next hs => exact absurd (List.cons.inj hs).1 (by decide)
  · rfl

/-- The characters that tell what kind of value starts with them. -/
def isOpening (c : Char) : Bool := c == '"' || c == '\'' || c == '[' || c == '\x7b'

/-- What starts otherwise is a word. -/
theorem readValue_word {c : Char} (h : isOpening c = false) (cs : List Char) :
    readValue maxDepth (c :: cs) = readWord (c :: cs) := by
  simp only [isOpening, Bool.or_eq_false_iff, beq_eq_false_iff_ne] at h
  obtain ⟨⟨⟨hq, ha⟩, hl⟩, ht⟩ := h
  show readOne (readValue 79) (c :: cs) = _
  rw [readOne]
  · rw [readSimple]
    · intro _ e
      exact hq (List.cons.inj e).1
    · intro _ e
      exact ha (List.cons.inj e).1
  · intro _ e
    exact hl (List.cons.inj e).1
  · intro _ e
    exact ht (List.cons.inj e).1

/-- A word at the end of a line is read as its value, if it has one. -/
theorem readValue_wordLine {c : Char} {cs : List Char} (hw : (c :: cs).all isWordChar = true)
    (hc : isOpening c = false) (rest : List Char) :
    readValue maxDepth (c :: cs ++ '\n' :: rest) =
      (wordValue? (c :: cs)).map (·, '\n' :: rest) := by
  rw [List.cons_append, readValue_word hc, ← List.cons_append, readWord, splitWord_newline hw]

theorem isGap_of_isWordChar {c : Char} (h : isWordChar c = true) : isGap c = false := by
  simp only [isWordChar, Bool.and_eq_true, Bool.not_eq_true'] at h
  exact h.1.1.1.1.1.1

theorem reads_word {c : Char} {cs : List Char} {v : Setting}
    (hw : (c :: cs).all isWordChar = true) (hc : isOpening c = false)
    (hv : wordValue? (c :: cs) = some v) : Reads (c :: cs) v := by
  refine ⟨?_, List.cons_ne_nil c cs, ?_⟩
  · intro d hd
    rw [List.head?_cons, Option.some.injEq] at hd
    subst hd
    exact isGap_of_isWordChar (List.all_eq_true.1 hw c List.mem_cons_self)
  · intro rest
    rw [readValue_wordLine hw hc, hv]
    rfl

/-- **A truth value is read back.** -/
theorem reads_truth (b : Bool) :
    Reads (if b then "true".toList else "false".toList) (.truth b) := by
  cases b with
  | true =>
      have h : "true".toList = ['t', 'r', 'u', 'e'] := rfl
      rw [if_pos rfl, h]
      exact reads_word (by decide) (by decide) rfl
  | false =>
      have h : "false".toList = ['f', 'a', 'l', 's', 'e'] := rfl
      rw [if_neg Bool.false_ne_true, h]
      exact reads_word (by decide) (by decide) rfl

/-! ## Decimals -/

theorem grouped?_digits {base : Nat} {ds : List Char} (hne : ds ≠ [])
    (h : ds.all (isDigit base) = true) (hu : '_' ∉ ds) : grouped? base ds = some ds := by
  have hall : ([ds].all fun g => !g.isEmpty && g.all (isDigit base)) = true := by
    simp only [List.all_cons, List.all_nil, Bool.and_true, h, Bool.not_eq_true',
      List.isEmpty_eq_false_iff]
    exact hne
  rw [grouped?, fields_of_not_mem hu, if_pos hall, List.flatten_cons, List.flatten_nil,
    List.append_nil]

theorem whole?_decimal (n : Nat) : whole? (decimal n).toList = some (decimal n).toList := by
  obtain ⟨c, cs, he, _, _, hz⟩ := decimal_shape n
  have hu : '_' ∉ (decimal n).toList := by
    intro hm
    have hd := List.all_eq_true.1 (decimal_all_digits n) '_' hm
    exact absurd hd (by decide)
  have hg := grouped?_digits (by rw [he]; exact List.cons_ne_nil c cs) (decimal_all_digits n) hu
  rw [whole?, hg, he]
  split
  · next h =>
      have h := List.cons.inj (Option.some.inj h)
      rw [(hz h.1).2] at h
      cases h.2
  · rfl

/-- What starts with a digit has no sign. -/
theorem sign_of_isDigit {c : Char} (hc : isDigit 10 c = true) (cs : List Char) :
    sign (c :: cs) = (false, c :: cs) := by
  have hsign : c ≠ '-' ∧ c ≠ '+' := of_isDigit (p := fun c => c ≠ '-' ∧ c ≠ '+') (by decide) hc
  rw [sign]
  · intro _ e
    exact hsign.1 (List.cons.inj e).1
  · intro _ e
    exact hsign.2 (List.cons.inj e).1

theorem unbounded?_decimal (n : Nat) : unbounded? (decimal n).toList = some (n : Int) := by
  obtain ⟨c, cs, he, hc, _, hz⟩ := decimal_shape n
  -- a base has a letter behind a zero, and a zero that leads is alone
  have hbase : ∀ x more, c :: cs ≠ '0' :: x :: more := by
    intro x more e
    have h := List.cons.inj e
    rw [(hz h.1).2] at h
    cases h.2
  have hw := whole?_decimal n
  have hv := digitsValue_decimal n
  rw [he] at hw hv ⊢
  rw [unbounded?, sign_of_isDigit hc]
  · dsimp only
    rw [hw, Option.map_some, hv]
    rfl
  · intro _ e
    exact hbase _ _ e
  · intro _ e
    exact hbase _ _ e
  · intro _ e
    exact hbase _ _ e

theorem fitsSigned_nat {n bits : Nat} :
    fitsSigned bits (n : Int) = true ↔ n < twoTo (bits - 1) := by
  simp only [fitsSigned, Bool.and_eq_true, decide_eq_true_eq]
  omega

/-- A number is an integer of a document just if it fits. -/
theorem integer?_decimal (n : Nat) :
    integer? (decimal n).toList = if n < twoTo 63 then some (n : Int) else none := by
  rw [integer?, unbounded?_decimal, Option.filter_some]
  by_cases h : n < twoTo 63
  · rw [if_pos (fitsSigned_nat.2 h), if_pos h]
  · rw [if_neg fun hfits => h (fitsSigned_nat.1 hfits), if_neg h]

/-- A number is written as a word that does not start as a truth value does. -/
theorem decimal_word (n : Nat) :
    ∃ c cs, (decimal n).toList = c :: cs ∧ (c :: cs).all isWordChar = true ∧
      isOpening c = false ∧ c ≠ 't' ∧ c ≠ 'f' := by
  have hd := decimal_all_digits n
  obtain ⟨c, cs, he, hc, -, -⟩ := decimal_shape n
  rw [he] at hd
  have hword : (c :: cs).all isWordChar = true := by
    rw [List.all_eq_true]
    intro x hx
    exact of_isDigit (p := fun x => isWordChar x = true) (by decide) (List.all_eq_true.1 hd x hx)
  have hstart : isOpening c = false ∧ c ≠ 't' ∧ c ≠ 'f' :=
    of_isDigit (p := fun c => isOpening c = false ∧ c ≠ 't' ∧ c ≠ 'f') (by decide) hc
  exact ⟨c, cs, he, hword, hstart⟩

/-- The value of a word that is no truth value: what the first kind that it has makes of it. -/
theorem wordValue?_of_ne {c : Char} (cs : List Char) (ht : c ≠ 't') (hf : c ≠ 'f') :
    wordValue? (c :: cs) =
      ((integer? (c :: cs)).map Setting.integer).or
        (((real? (c :: cs)).map Setting.real).or
          ((moment? (c :: cs)).map fun m => Setting.text (String.ofList m))) := by
  rw [wordValue?, if_neg fun e => ht (List.cons.inj e).1, if_neg fun e => hf (List.cons.inj e).1]
  cases integer? (c :: cs) with
  | some i => rfl
  | none =>
      cases real? (c :: cs) with
      | some x => rfl
      | none =>
          cases moment? (c :: cs) with
          | some m => rfl
          | none => rfl

/-- **A number that fits is read back.** -/
theorem reads_decimal {n : Nat} (h : n < twoTo 63) :
    Reads (decimal n).toList (.integer n) := by
  have hi := integer?_decimal n
  obtain ⟨c, cs, he, hword, hopen, ht, hf⟩ := decimal_word n
  rw [he, if_pos h] at hi
  rw [he]
  apply reads_word hword hopen
  rw [wordValue?_of_ne cs ht hf, hi]
  rfl

end CountryLookup.Toml
