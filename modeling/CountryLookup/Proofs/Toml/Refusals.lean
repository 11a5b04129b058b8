import CountryLookup.Proofs.Toml.Documents

/-!
# Documents that are refused

A document is read as a whole or not at all. One line of which nothing can be made spoils it,
whatever stands in front of it and behind it. A number that no integer of a document can hold makes
such a line: digits alone are no number with a point, and no moment in time either.

## Main results

* `refused_decimal` — a number that does not fit is no value.
* `parse?_of_refuses` — a document with a line that is refused is refused.
-/

namespace CountryLookup.Toml

open Text

/-! ## Digits alone -/

section Digits

variable {ds : List Char}

/-- What holds of the ten digits holds of all characters of a row of them. -/
theorem all_of_digits {p : Char → Bool} (hd : ds.all (isDigit 10) = true)
    (hp : ∀ d < 10, p (Nat.digitChar d) = true) : ds.all p = true := by
  rw [List.all_eq_true] at hd ⊢
  exact fun c hc => of_isDigit (p := fun c => p c = true) hp (hd c hc)

/-- Digits alone are no number with a point or an exponent. -/
theorem real?_of_digits (hd : ds.all (isDigit 10) = true) : real? ds = none := by
  cases ds with
  | nil => decide
  | cons c cs =>
      have hc : isDigit 10 c = true := List.all_eq_true.1 hd c List.mem_cons_self
      have hletter : ((c :: cs).all fun c => !isExponentLetter c) = true :=
        all_of_digits hd (by decide)
      have hpoint : ((c :: cs).all fun c => c != '.') = true := all_of_digits hd (by decide)
      have hname : c ≠ 'i' ∧ c ≠ 'n' :=
        of_isDigit (p := fun c => c ≠ 'i' ∧ c ≠ 'n') (by decide) hc
      have hinf : c :: cs ≠ ['i', 'n', 'f'] := fun e => hname.1 (List.cons.inj e).1
      have hnan : c :: cs ≠ ['n', 'a', 'n'] := fun e => hname.2 (List.cons.inj e).1
      unfold real?
      rw [sign_of_isDigit hc]
      simp only [takeWhile_all hletter, dropWhile_all hletter, takeWhile_all hpoint,
        dropWhile_all hpoint, if_neg hinf, if_neg hnan, bind, Option.bind, ite_true]
      cases whole? (c :: cs) with
      | none => rfl
      | some whole => rfl

/-- Behind digits that are split off there are digits. -/
theorem digits?_of_digits (hd : ds.all (isDigit 10) = true) {width n : Nat} {w rest : List Char}
    (h : digits? width ds = some (n, w, rest)) : rest.all (isDigit 10) = true := by
  unfold digits? at h
  dsimp only at h
  split at h
  · cases h
    rw [List.all_eq_true] at hd ⊢
    exact fun c hc => hd c (List.mem_of_mem_drop hc)
  · cases h

/-- Between the numbers of a moment stand characters that are no digits. -/
theorem ne_cons_of_digits (hd : ds.all (isDigit 10) = true) {c : Char} (hc : isDigit 10 c = false)
    (cs : List Char) : ds ≠ c :: cs := by
  rintro rfl
  rw [List.all_cons, hc] at hd
  cases hd

theorem date?_of_digits (hd : ds.all (isDigit 10) = true) : date? ds = none := by
  unfold date?
  cases hyear : digits? 4 ds with
  | none => rfl
  | some r =>
      obtain ⟨year, y, rest⟩ := r
      simp only [bind, Option.bind]
      split
      · exact absurd rfl (ne_cons_of_digits (digits?_of_digits hd hyear) (by decide) _)
      · rfl

theorem clock?_of_digits (hd : ds.all (isDigit 10) = true) : clock? ds = none := by
  unfold clock?
  cases hhour : digits? 2 ds with
  | none => rfl
  | some r =>
      obtain ⟨hour, h, rest⟩ := r
      simp only [bind, Option.bind]
      split
      · exact absurd rfl (ne_cons_of_digits (digits?_of_digits hd hhour) (by decide) _)
      · rfl

/-- Digits alone are no moment in time. -/
theorem moment?_of_digits (hd : ds.all (isDigit 10) = true) : moment? ds = none := by
  rw [moment?, date?_of_digits hd, time?, clock?_of_digits hd]
  rfl

end Digits

/-! ## Values that are refused -/

/-- At the end of a line the text `w` is read as no value, and no white space in front of it is part
of it. -/
structure Refused (w : List Char) : Prop where
  start : ∀ c, w.head? = some c → isGap c = false
  some : w ≠ []
  read : ∀ rest, readValue maxDepth (w ++ '\n' :: rest) = none

/-- **A number that does not fit is no value.** -/
theorem refused_decimal {n : Nat} (h : twoTo 63 ≤ n) : Refused (decimal n).toList := by
  have hi := integer?_decimal n
  have hd := decimal_all_digits n
  obtain ⟨c, cs, he, hword, hopen, ht, hf⟩ := decimal_word n
  rw [he, if_neg (Nat.not_lt.2 h)] at hi
  rw [he] at hd ⊢
  refine ⟨fun d hhead => ?_, List.cons_ne_nil c cs, fun rest => ?_⟩
  · cases hhead
    exact isGap_of_isWordChar (List.all_eq_true.1 hword c List.mem_cons_self)
  · rw [readValue_wordLine hword hopen, wordValue?_of_ne cs ht hf, hi, real?_of_digits hd,
      moment?_of_digits hd]
    rfl

/-! ## Lines that are refused -/

/-- The line `l` says no statement, whatever follows it. -/
structure Refuses (l : List Char) : Prop where
  start : ∃ c cs, l = c :: cs ∧ isStart c = true
  read : ∀ rest, readStatement (l ++ '\n' :: rest) = none

theorem refuses_assignment {k : String} (h : IsName k) {w : List Char} (hw : Refused w) :
    Refuses (k.toList ++ [' ', '=', ' '] ++ w) := by
  obtain ⟨d, ds, he, hd⟩ := h.cons
  refine ⟨⟨d, ds ++ [' ', '=', ' '] ++ w, by rw [he]; rfl, by rw [isStart, hd, Bool.true_or]⟩, ?_⟩
  intro rest
  obtain ⟨c, cs, rfl⟩ := List.exists_cons_of_ne_nil hw.some
  rw [readStatement_assignment h (hw.start c rfl), hw.read]
  rfl

/-- Where a line that is refused stands first, no statements are read. -/
theorem readStatements_of_refuses {l : List Char} (hl : Refuses l) (rest : List Char)
    (fuel : Nat) : readStatements fuel (l ++ '\n' :: rest) = none := by
  cases fuel with
  | zero => rfl
  | succ fuel =>
      obtain ⟨c, cs, rfl, hc⟩ := hl.start
      have hread := hl.read rest
      rw [List.cons_append] at hread ⊢
      simp only [readStatements, skipLines_start hc, bind, Option.bind, hread]

/-- **A document with a line that is refused is refused**, whatever stands behind that line. -/
theorem parse?_of_refuses {front : List Char} {ss : List Statement} (h : Spells front ss)
    {l : List Char} (hl : Refuses l) (rest : List Char) :
    parse? (String.ofList (front ++ (l ++ '\n' :: rest))) = none := by
  have hmark : dropMark (front ++ (l ++ '\n' :: rest)) = front ++ (l ++ '\n' :: rest) := by
    cases h with
    | nil =>
        obtain ⟨c, cs, rfl, hc⟩ := hl.start
        exact dropMark_of_isStart hc _
    | blank _ => rfl
    | line hs _ =>
        obtain ⟨c, cs, rfl, hc⟩ := hs.start
        exact dropMark_of_isStart hc _
  have hlength := length_le_of_spells h
  obtain ⟨fuel, hfuel⟩ : ∃ fuel, (front ++ (l ++ '\n' :: rest)).length + 1 = fuel + ss.length :=
    ⟨(front ++ (l ++ '\n' :: rest)).length + 1 - ss.length, by
      rw [List.length_append]
      omega⟩
  simp only [parse?, String.toList_ofList, hmark, bind, Option.bind, hfuel,
    readStatements_append h, readStatements_of_refuses hl, Option.map_none]

end CountryLookup.Toml
