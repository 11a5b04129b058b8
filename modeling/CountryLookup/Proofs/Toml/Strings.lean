import CountryLookup.Proofs.Text.Utf8
import CountryLookup.Toml.Printer

/-!
# Reading strings back

The writer of strings picks one of four styles by what a text holds, and the reader picks one of
four by the opening quotes. Between double quotes any text can be written, as everything that has
no place there becomes an escape; between single quotes only what shows as it is.

Three quotes in a row close a string over several lines, yet one or two of its own may stand right
before them. So what is read back is stated for a text behind a few quotes that were passed and
are not read yet: they belong to the text if something else follows, and to the five at the end
otherwise.

## Main results

* `writeInside_cons` — what the writer makes of one character.
* `readBasic_writeInside`, `readLongBasic_writeInside` — any text between double quotes.
* `readLiteral_of_shown`, `readLongLiteral_of_runs` — what shows as it is between single quotes.
* `readText_writeText` — every text is read back, whatever style it is written in.
-/

namespace CountryLookup.Toml

open Text

/-! ## Escapes -/

theorem coded?_of_value {ds : List Char} {c : Char} (hd : ds.all (isDigit 16) = true)
    (hv : digitsValue 16 ds = c.toNat) : coded? ds = some c := by
  rw [coded?, if_pos hd, hv, scalar?, if_pos (Utf8.codePoint_range c), Char.ofNat_toNat]

/-- Below 128 two digits say the number of a character. -/
private theorem hexDigits_value : ∀ n < 128,
    [(Nat.digitChar (n / 16)).toUpper, (Nat.digitChar (n % 16)).toUpper].all (isDigit 16) = true ∧
      digitsValue 16 ['0', '0', (Nat.digitChar (n / 16)).toUpper,
        (Nat.digitChar (n % 16)).toUpper] = n := by
  decide

theorem toNat_lt_of_isHidden {c : Char} (h : isHidden c = true) : c.toNat < 128 := by
  simp only [isHidden, isPrintable, Bool.and_eq_true, Bool.not_eq_true', Bool.or_eq_false_iff,
    Bool.and_eq_false_iff, decide_eq_false_iff_not] at h
  rcases h.1.2 with h | h <;> omega

/-- A hidden character is read back from its escape. No escape looks like the end of a line. -/
theorem escapeHidden_spec {c : Char} (h : isHidden c = true) :
    ∃ x e, escapeHidden c = '\\' :: x :: e ∧
      (∀ rest, readEscape (x :: e ++ rest) = some (c, rest)) ∧
      (isGap x = false ∧ x ≠ '\n' ∧ x ≠ '\r') := by
  unfold escapeHidden
  split
  · exact ⟨'b', [], rfl, fun rest => rfl, by decide⟩
  · exact ⟨'f', [], rfl, fun rest => rfl, by decide⟩
  · exact ⟨'r', [], rfl, fun rest => rfl, by decide⟩
  · obtain ⟨hd, hv⟩ := hexDigits_value c.toNat (toNat_lt_of_isHidden h)
    refine ⟨'u', _, rfl, fun rest => ?_, by decide⟩
    have hd' : ['0', '0', (Nat.digitChar (c.toNat / 16)).toUpper,
        (Nat.digitChar (c.toNat % 16)).toUpper].all (isDigit 16) = true := by
      rw [List.all_cons, List.all_cons, hd]
      decide
    show (coded? _).map (·, rest) = _
    rw [coded?_of_value hd' hv]
    rfl

theorem endsLine_cons {x : Char} (h : isGap x = false ∧ x ≠ '\n' ∧ x ≠ '\r') (cs : List Char) :
    endsLine (x :: cs) = false := by
  rw [endsLine, List.dropWhile_cons_of_neg (by simp [h.1])]
  split
  · exact absurd (List.cons.inj ‹_›).1 h.2.1
  · exact absurd (List.cons.inj ‹_›).1 h.2.2
  · rfl

/-! ## One character between double quotes -/

/-- What one character `c` may become between double quotes, if `run` quotes have just been
passed, and how many have been passed then. -/
inductive Written (long : Bool) (run : Nat) (c : Char) : List Char → Nat → Prop where
  /-- A quote of its own, of which a string over several lines may hold two in a row. -/
  | quote : c = '"' → long = true → run < 2 → Written long run c ['"'] (run + 1)
  /-- A line break of its own. -/
  | newline : c = '\n' → long = true → Written long run c ['\n'] 0
  /-- An escape, which is read back wherever it stands. -/
  | escape (x : Char) (e : List Char) :
      (∀ rest, readEscape (x :: e ++ rest) = some (c, rest)) →
      isGap x = false ∧ x ≠ '\n' ∧ x ≠ '\r' → Written long run c ('\\' :: x :: e) 0
  /-- A character that stands for itself. -/
  | plain : isPlain c = true → Written long run c [c] 0

/-- **What the writer makes of one character.** -/
theorem writeInside_cons (long : Bool) (run : Nat) (c : Char) (cs : List Char) :
    ∃ w run', Written long run c w run' ∧
      writeInside long run (c :: cs) = w ++ writeInside long run' cs := by
  by_cases hq : c = '"'
  · subst hq
    by_cases hr : run < (if long then 2 else 0)
    · cases long with
      | false => simp at hr
      | true => exact ⟨['"'], run + 1, .quote rfl rfl hr, by rw [writeInside, if_pos hr]; rfl⟩
    · exact ⟨_, 0, .escape '"' [] (fun rest => rfl) (by decide), by
        rw [writeInside, if_neg hr]; rfl⟩
  · by_cases ht : c = '\t'
    · subst ht
      exact ⟨_, 0, .escape 't' [] (fun rest => rfl) (by decide), by rw [writeInside]; rfl⟩
    · by_cases hn : c = '\n'
      · subst hn
        cases long with
        | false => exact ⟨_, 0, .escape 'n' [] (fun rest => rfl) (by decide), by
            rw [writeInside]; rfl⟩
        | true => exact ⟨_, 0, .newline rfl rfl, by rw [writeInside]; rfl⟩
      · by_cases hb : c = '\\'
        · subst hb
          exact ⟨_, 0, .escape '\\' [] (fun rest => rfl) (by decide), by rw [writeInside]; rfl⟩
        · have hw : writeInside long run (c :: cs) =
              (if isHidden c then escapeHidden c else [c]) ++ writeInside long 0 cs := by
            rw [writeInside]
            · exact hq
            · exact ht
            · exact hn
            · exact hb
          rw [hw]
          by_cases hh : isHidden c = true
          · obtain ⟨x, e, he, hread, hx⟩ := escapeHidden_spec hh
            rw [if_pos hh, he]
            exact ⟨_, 0, .escape x e hread hx, rfl⟩
          · rw [if_neg hh]
            have hp : isPrintable c = true := by simpa [isHidden, hn] using hh
            exact ⟨_, 0, .plain (by simp [isPlain, hp, hq, hb]), rfl⟩

theorem ne_of_isPlain {c : Char} (h : isPlain c = true) :
    c ≠ '"' ∧ c ≠ '\\' ∧ c ≠ '\n' ∧ c ≠ '\r' := by
  refine ⟨?_, ?_, ?_, ?_⟩ <;>
    · rintro rfl
      exact absurd h (by decide)

theorem isPrintable_of_isPlain {c : Char} (h : isPlain c = true) : isPrintable c = true := by
  simp only [isPlain, Bool.and_eq_true] at h
  exact h.1.1

/-! ## Between double quotes -/

theorem readBasic_escape {e : List Char} {c : Char} {rest : List Char}
    (h : readEscape e = some (c, rest)) : readBasic ('\\' :: e) = before c (readBasic rest) := by
  rw [readBasic]
  split
  · next hn => simp [hn] at h
  · next d r hs =>
      rw [h] at hs
      cases hs
      rfl

theorem readBasic_cons {c : Char} (h : isPlain c = true) (cs : List Char) :
    readBasic (c :: cs) = before c (readBasic cs) := by
  have hne := ne_of_isPlain h
  rw [readBasic]
  · exact if_pos (isPrintable_of_isPlain h)
  · exact hne.1
  · exact hne.2.1

/-- **Any text is read back from between double quotes.** -/
theorem readBasic_writeInside (run : Nat) (cs rest : List Char) :
    readBasic (writeInside false run cs ++ '"' :: rest) = some (cs, rest) := by
  induction cs generalizing run with
  | nil => rw [writeInside, List.nil_append, readBasic]
  | cons c cs ih =>
      obtain ⟨w, run', hw, he⟩ := writeInside_cons false run c cs
      rw [he, List.append_assoc]
      cases hw with
      | quote _ hl _ => cases hl
      | newline _ hl => cases hl
      | escape x e hread hx =>
          have h := hread (writeInside false 0 cs ++ '"' :: rest)
          rw [List.cons_append, readBasic_escape h, ih]
          rfl
      | plain hp =>
          rw [List.singleton_append, readBasic_cons hp, ih]
          rfl

/-- Between double quotes no text starts with a quote. -/
theorem head_writeInside_ne_quote (run : Nat) (c : Char) (cs : List Char) :
    ∃ x w, x ≠ '"' ∧ writeInside false run (c :: cs) = x :: w := by
  obtain ⟨w, run', hw, he⟩ := writeInside_cons false run c cs
  cases hw with
  | quote _ hl _ => cases hl
  | newline _ hl => cases hl
  | escape x e _ _ => exact ⟨'\\', _, by decide, by rw [he]; rfl⟩
  | plain hp => exact ⟨c, _, (ne_of_isPlain hp).1, by rw [he]; rfl⟩

/-! ## Between tripled double quotes -/

/-- The quotes that close a string over several lines, and the end of the line. -/
def closing (q : Char) (rest : List Char) : List Char := q :: q :: q :: '\n' :: rest

theorem readLongBasic_escape {x : Char} {e : List Char} {c : Char} {rest : List Char}
    (hx : isGap x = false ∧ x ≠ '\n' ∧ x ≠ '\r') (h : readEscape (x :: e) = some (c, rest)) :
    readLongBasic false ('\\' :: x :: e) = before c (readLongBasic false rest) := by
  rw [readLongBasic, if_neg (by rw [endsLine_cons hx]; decide)]
  split
  · next hn => simp [hn] at h
  · next d r hs =>
      rw [h] at hs
      cases hs
      rfl

theorem readLongBasic_newline (cs : List Char) :
    readLongBasic false ('\n' :: cs) = before '\n' (readLongBasic false cs) := by
  rw [readLongBasic, if_neg (by decide)]

theorem readLongBasic_cons {c : Char} (h : isPlain c = true) (cs : List Char) :
    readLongBasic false (c :: cs) = before c (readLongBasic false cs) := by
  have hne := ne_of_isPlain h
  rw [readLongBasic]
  · rw [if_neg (by simp), if_pos (isPrintable_of_isPlain h)]
  all_goals
    intros
    simp_all

/-- A quote or two that a reader takes as they stand belong to the text. -/
theorem read_replicate {read : List Char → Option (List Char × List Char)} {q : Char}
    {cs : List Char} (hone : read (q :: cs) = before q (read cs))
    (htwo : read (q :: q :: cs) = before q (read (q :: cs))) {run : Nat} (hrun : run ≤ 2) :
    read (List.replicate run q ++ cs) =
      (read cs).map fun r => (List.replicate run q ++ r.1, r.2) := by
  obtain rfl | rfl | rfl : run = 0 ∨ run = 1 ∨ run = 2 := by omega
  · show read cs = (read cs).map id
    rw [Option.map_id, id_eq]
  · exact hone
  · show read (q :: q :: cs) = _
    rw [htwo, hone]
    exact Option.map_map _ _ _

/-- Between tripled double quotes that is so if another character follows. -/
theorem readLongBasic_quotes {run : Nat} (hrun : run ≤ 2) {x : Char} (hx : x ≠ '"')
    (cs : List Char) :
    readLongBasic false (List.replicate run '"' ++ x :: cs) =
      (readLongBasic false (x :: cs)).map fun r => (List.replicate run '"' ++ r.1, r.2) := by
  apply read_replicate _ _ hrun
  · rw [readLongBasic]
    · rfl
    all_goals
      intros
      simp_all
  · rw [readLongBasic]
    · rfl
    all_goals
      intros
      simp_all

/-- **Any text is read back from between tripled double quotes,** with the quotes that were passed
in front of it. -/
theorem readLongBasic_writeInside (run : Nat) (hrun : run ≤ 2) (cs rest : List Char) :
    readLongBasic false (List.replicate run '"' ++ writeInside true run cs ++ closing '"' rest) =
      some (List.replicate run '"' ++ cs, '\n' :: rest) := by
  induction cs generalizing run with
  | nil =>
      rw [writeInside, List.append_nil, closing]
      obtain rfl | rfl | rfl : run = 0 ∨ run = 1 ∨ run = 2 := by omega
      · simp [readLongBasic]
      · simp [List.replicate, readLongBasic]
      · simp [List.replicate, readLongBasic]
  | cons c cs ih =>
      obtain ⟨w, run', hw, he⟩ := writeInside_cons true run c cs
      rw [he]
      have hnil : ∀ cs, List.replicate 0 '"' ++ cs = cs := fun _ => rfl
      cases hw with
      | quote hc _ hlt =>
          subst hc
          have h := ih (run + 1) hlt
          rw [List.replicate_succ'] at h
          simpa using h
      | newline hc _ =>
          subst hc
          have h := ih 0 (by omega)
          rw [hnil] at h
          rw [List.append_assoc, List.append_assoc, List.singleton_append,
            readLongBasic_quotes hrun (by decide), readLongBasic_newline, h]
          rfl
      | escape x e hread hx =>
          have h := ih 0 (by omega)
          rw [hnil] at h
          have hr := hread (writeInside true 0 cs ++ closing '"' rest)
          rw [List.cons_append] at hr
          rw [List.append_assoc, List.append_assoc, List.cons_append,
            readLongBasic_quotes hrun (by decide), List.cons_append,
            readLongBasic_escape hx hr, h]
          rfl
      | plain hp =>
          have h := ih 0 (by omega)
          rw [hnil] at h
          rw [List.append_assoc, List.append_assoc, List.singleton_append,
            readLongBasic_quotes hrun (ne_of_isPlain hp).1, readLongBasic_cons hp, h]
          rfl

/-! ## Between single quotes -/

/-- A character that shows as it is on one line between single quotes. -/
def isShown (c : Char) : Bool := isPrintable c && c != '\''

theorem readLiteral_of_shown {cs : List Char} (h : cs.all isShown = true) (rest : List Char) :
    readLiteral (cs ++ '\'' :: rest) = some (cs, rest) := by
  induction cs with
  | nil => rfl
  | cons c cs ih =>
      simp only [List.all_cons, Bool.and_eq_true, isShown, bne_iff_ne] at h
      rw [List.cons_append, readLiteral, if_pos h.1.1, ih (by simpa [isShown] using h.2)]
      · rfl
      · exact h.1.2

theorem best_le_longestRunFrom (q : Char) (run best : Nat) (cs : List Char) :
    best ≤ longestRunFrom q run best cs := by
  induction cs generalizing run best with
  | nil => exact Nat.le_refl best
  | cons c cs ih =>
      rw [longestRunFrom]
      split
      · exact Nat.le_trans (Nat.le_max_left best (run + 1)) (ih _ _)
      · exact ih _ _

theorem readLongLiteral_newline (cs : List Char) :
    readLongLiteral ('\n' :: cs) = before '\n' (readLongLiteral cs) := by
  rw [readLongLiteral]

theorem readLongLiteral_cons {c : Char} (h : isShown c = true) (cs : List Char) :
    readLongLiteral (c :: cs) = before c (readLongLiteral cs) := by
  simp only [isShown, Bool.and_eq_true, bne_iff_ne] at h
  have hn : c ≠ '\n' := by
    rintro rfl
    exact absurd h.1 (by decide)
  have hr : c ≠ '\r' := by
    rintro rfl
    exact absurd h.1 (by decide)
  rw [readLongLiteral]
  · exact if_pos h.1
  all_goals
    intros
    simp_all

theorem readLongLiteral_quotes {run : Nat} (hrun : run ≤ 2) {x : Char} (hx : x ≠ '\'')
    (cs : List Char) :
    readLongLiteral (List.replicate run '\'' ++ x :: cs) =
      (readLongLiteral (x :: cs)).map fun r => (List.replicate run '\'' ++ r.1, r.2) := by
  apply read_replicate _ _ hrun
  · rw [readLongLiteral]
    · rfl
    all_goals
      intros
      simp_all
  · rw [readLongLiteral]
    · rfl
    all_goals
      intros
      simp_all

/-- **A text with no more than two quotes in a row is read back from between tripled single
quotes,** with the quotes that were passed in front of it. -/
theorem readLongLiteral_of_runs (run best : Nat) {cs : List Char} (hrun : run ≤ 2)
    (hbest : longestRunFrom '\'' run best cs ≤ 2) (hshown : cs.any isHidden = false)
    (rest : List Char) :
    readLongLiteral (List.replicate run '\'' ++ cs ++ closing '\'' rest) =
      some (List.replicate run '\'' ++ cs, '\n' :: rest) := by
  induction cs generalizing run best with
  | nil =>
      rw [List.append_nil, closing]
      obtain rfl | rfl | rfl : run = 0 ∨ run = 1 ∨ run = 2 := by omega
      · rfl
      · rfl
      · rfl
  | cons c cs ih =>
      simp only [List.any_cons, Bool.or_eq_false_iff] at hshown
      rw [longestRunFrom] at hbest
      by_cases hq : c = '\''
      · subst hq
        rw [if_pos rfl] at hbest
        have hle := best_le_longestRunFrom '\'' (run + 1) (max best (run + 1)) cs
        have hrun' : run + 1 ≤ 2 :=
          Nat.le_trans (Nat.le_max_right best (run + 1)) (Nat.le_trans hle hbest)
        have h := ih (run + 1) (max best (run + 1)) hrun' hbest hshown.2
        rw [List.replicate_succ'] at h
        simpa using h
      · rw [if_neg hq] at hbest
        have h := ih 0 best (by omega) hbest hshown.2
        have hnil : ∀ cs, List.replicate 0 '\'' ++ cs = cs := fun _ => rfl
        rw [hnil] at h
        rw [List.append_assoc, List.cons_append, readLongLiteral_quotes hrun hq]
        by_cases hn : c = '\n'
        · subst hn
          rw [readLongLiteral_newline, h]
          rfl
        · have hp : isPrintable c = true := by simpa [isHidden, hn] using hshown.1
          rw [readLongLiteral_cons (by simp [isShown, hp, hq]), h]
          rfl

/-! ## Opening breaks -/

theorem dropBreak_cons {x : Char} (hn : x ≠ '\n') (hr : x ≠ '\r') (cs : List Char) :
    dropBreak (x :: cs) = x :: cs := by
  unfold dropBreak
  split
  · exact absurd (List.cons.inj ‹_›).1 hn
  · exact absurd (List.cons.inj ‹_›).1 hr
  · rfl

theorem dropBreak_openingBreak_basic (cs rest : List Char) :
    dropBreak (openingBreak cs ++ writeInside true 0 cs ++ closing '"' rest) =
      writeInside true 0 cs ++ closing '"' rest := by
  rw [openingBreak]
  by_cases hn : cs.contains '\n' = true
  · rw [if_pos hn]
    rfl
  · rw [if_neg hn, List.nil_append]
    cases cs with
    | nil =>
        rw [writeInside]
        exact dropBreak_cons (by decide) (by decide) _
    | cons c cs =>
        have hc : c ≠ '\n' := by
          rintro rfl
          simp at hn
        obtain ⟨w, run', hw, he⟩ := writeInside_cons true 0 c cs
        rw [he]
        cases hw with
        | quote _ _ _ => exact dropBreak_cons (by decide) (by decide) _
        | newline h _ => exact absurd h hc
        | escape x e _ _ => exact dropBreak_cons (by decide) (by decide) _
        | plain hp =>
            exact dropBreak_cons (ne_of_isPlain hp).2.2.1 (ne_of_isPlain hp).2.2.2 _

theorem dropBreak_openingBreak_literal {cs : List Char} (h : cs.any isHidden = false)
    (rest : List Char) :
    dropBreak (openingBreak cs ++ cs ++ closing '\'' rest) = cs ++ closing '\'' rest := by
  rw [openingBreak]
  by_cases hn : cs.contains '\n' = true
  · rw [if_pos hn]
    rfl
  · rw [if_neg hn, List.nil_append]
    cases cs with
    | nil => exact dropBreak_cons (by decide) (by decide) _
    | cons c cs =>
        have hc : c ≠ '\n' := by
          rintro rfl
          simp at hn
        have hr : c ≠ '\r' := by
          rintro rfl
          simp only [List.any_cons, Bool.or_eq_false_iff] at h
          exact absurd h.1 (by decide)
        exact dropBreak_cons hc hr _

/-! ## Strings of every style -/

/-- The styles in which a text may be written: with double quotes any text, with single quotes
what shows as it is between them. -/
def Fits (cs : List Char) : QuoteStyle → Prop
  | .basic => True
  | .longBasic => True
  | .literal => cs.all isShown = true
  | .longLiteral => cs.any isHidden = false ∧ longestRun '\'' cs ≤ 2

/-- The writer picks a style in which the text may be written. -/
theorem fits_styleOf (cs : List Char) : Fits cs (styleOf cs) := by
  unfold styleOf
  dsimp only
  split
  · trivial
  · split
    · next h =>
        simp only [Bool.and_eq_true, Bool.not_eq_true', List.any_eq_false,
          List.contains_eq_mem, decide_eq_false_iff_not] at h
        obtain ⟨⟨hh, hn⟩, hq⟩ := h
        show cs.all isShown = true
        rw [List.all_eq_true]
        intro c hc
        have hcn : c ≠ '\n' := fun e => hn (e ▸ hc)
        have hcq : c ≠ '\'' := fun e => hq (e ▸ hc)
        have hp : isPrintable c = true := by simpa [isHidden, hcn] using hh c hc
        simp [isShown, hp, hcq]
    · split
      · trivial
      · split
        · next h =>
            simp only [Bool.and_eq_true, Bool.not_eq_true', decide_eq_true_eq] at h
            exact h
        · split <;> trivial

theorem readText_writeStyled {cs : List Char} {style : QuoteStyle} (h : Fits cs style)
    (rest : List Char) :
    readText (writeStyled cs style ++ '\n' :: rest) = some (cs, '\n' :: rest) := by
  cases style with
  | basic =>
      have hread := readBasic_writeInside 0 cs ('\n' :: rest)
      have hw : writeStyled cs .basic ++ '\n' :: rest =
          '"' :: (writeInside false 0 cs ++ '"' :: '\n' :: rest) := by
        simp [writeStyled]
      rw [hw, ← hread]
      -- two quotes that a third does not follow are an empty text
      cases cs with
      | nil => rfl
      | cons c cs =>
          obtain ⟨x, w, hx, he⟩ := head_writeInside_ne_quote 0 c cs
          rw [he, List.cons_append, readText]
          intro _ hq
          exact hx (List.cons.inj hq).1
  | literal =>
      have hread := readLiteral_of_shown h ('\n' :: rest)
      have hw : writeStyled cs .literal ++ '\n' :: rest =
          '\'' :: (cs ++ '\'' :: '\n' :: rest) := by
        simp [writeStyled]
      rw [hw, ← hread]
      cases cs with
      | nil => rfl
      | cons c cs =>
          have hc : c ≠ '\'' := by
            rintro rfl
            simp [Fits, isShown] at h
          rw [List.cons_append, readText]
          intro _ hq
          exact hc (List.cons.inj hq).1
  | longBasic =>
      have hread := readLongBasic_writeInside 0 (by omega) cs rest
      have hw : writeStyled cs .longBasic ++ '\n' :: rest =
          '"' :: '"' :: '"' :: (openingBreak cs ++ writeInside true 0 cs ++ closing '"' rest) := by
        simp [writeStyled, closing]
      rw [hw, readText, dropBreak_openingBreak_basic]
      exact hread
  | longLiteral =>
      have hread := readLongLiteral_of_runs 0 0 (by omega) h.2 h.1 rest
      have hw : writeStyled cs .longLiteral ++ '\n' :: rest =
          '\'' :: '\'' :: '\'' :: (openingBreak cs ++ cs ++ closing '\'' rest) := by
        simp [writeStyled, closing]
      rw [hw, readText, dropBreak_openingBreak_literal h.1]
      exact hread

/-- **Every text is read back.** -/
theorem readText_writeText (s : String) (rest : List Char) :
    readText (writeText s ++ '\n' :: rest) = some (s.toList, '\n' :: rest) :=
  readText_writeStyled (fits_styleOf s.toList) rest

end CountryLookup.Toml
