import CountryLookup.Json.Reader
import CountryLookup.Proofs.Text.Numerals
import CountryLookup.Text.Runs
import Mathlib.Data.List.TakeDrop

/-!
# The grammar of JSON: strings and numbers

How a text may be written as a JSON string, and how a number may be written, are given here by
rules, with the text or number that each writing stands for. A character has several writings: as it
is, by a letter behind a backslash, by four digits behind `\u`, or by two times four digits if its
number is too large for four.

The reader agrees with the rules. It reads a string character by character, and no writing of a
character begins with a quote, so the string ends at the first quote that is not part of one. It
reads the digits of a number as far as they go, and behind a number stands white space, a comma, a
bracket or nothing, so it stops where the rules stop.

## Main results

* `CharSpelling.stands` — a written character is read as parts that stand for it.
* `TextSpelling.readString` — a written text is read up to its closing quote.
* `readNumber_spelling` — a written number is read up to what ends it.
-/

namespace CountryLookup.Json

open Text

/-! ## Blanks and strings -/

/-- White space between tokens: spaces, tabs, line feeds and carriage returns. -/
def Blank (w : List Char) : Prop := ∀ c ∈ w, c ∈ [' ', '\t', '\n', '\r']

theorem Blank.nil : Blank [] := fun _ h => nomatch h

/-- The letters that may follow a backslash, with the characters that they stand for. -/
def letterEscapes : List (Char × Char) :=
  [('"', '"'), ('\\', '\\'), ('/', '/'), ('b', '\x08'), ('f', '\x0c'), ('n', '\n'), ('r', '\r'),
    ('t', '\t')]

/-- Four hexadecimal digits of either case, with their number. -/
structure CodeUnit (ds : List Char) (n : Nat) : Prop where
  numeral : Numeral 16 ds n
  length : ds.length = 4

/-- How a character may be written in a string: as it is, by a letter, by its number, or, if its
number has more than four digits, by two numbers. -/
inductive CharSpelling : Char → List Char → Prop where
  | plain {c : Char} (h : 0x20 ≤ c.toNat) (hq : c ≠ '"') (hb : c ≠ '\\') : CharSpelling c [c]
  | letter {e c : Char} (h : (e, c) ∈ letterEscapes) : CharSpelling c ['\\', e]
  | unit {ds : List Char} {c : Char} (h : CodeUnit ds c.toNat) : CharSpelling c ('\\' :: 'u' :: ds)
  | pair {ds es : List Char} {hi lo : Nat} {c : Char} (hds : CodeUnit ds hi) (hes : CodeUnit es lo)
    (hhi : 0xD800 ≤ hi ∧ hi < 0xDC00) (hlo : 0xDC00 ≤ lo ∧ lo < 0xE000)
    (hc : c.toNat = 0x10000 + (hi - 0xD800) * 0x400 + (lo - 0xDC00)) :
    CharSpelling c ('\\' :: 'u' :: (ds ++ '\\' :: 'u' :: es))

/-- How a text may be written between quotes. -/
inductive TextSpelling : List Char → List Char → Prop where
  | nil : TextSpelling [] []
  | cons {c : Char} {cs w ws : List Char} (h : CharSpelling c w) (hs : TextSpelling cs ws) :
    TextSpelling (c :: cs) (w ++ ws)

theorem skipBlank_cons {c : Char} (h : isBlankChar c = false) (cs : List Char) :
    skipBlank (c :: cs) = c :: cs := by
  rw [skipBlank, List.dropWhile_cons_of_neg (by simp [h])]

theorem skipBlank_blank {b : List Char} (h : Blank b) (cs : List Char) :
    skipBlank (b ++ cs) = skipBlank cs := by
  induction b with
  | nil => rfl
  | cons c b ih =>
      have hc : isBlankChar c = true := by
        have hall : ∀ c ∈ [' ', '\t', '\n', '\r'], isBlankChar c = true := by simp [isBlankChar]
        exact hall c (h c List.mem_cons_self)
      rw [skipBlank, List.cons_append, List.dropWhile_cons_of_pos hc]
      exact ih fun d hd => h d (List.mem_cons_of_mem c hd)

theorem skipBlank_all {b : List Char} (h : Blank b) : skipBlank b = [] := by
  have hskip := skipBlank_blank h []
  rwa [List.append_nil] at hskip

/-- A character and the parts of a string that stand for it. -/
structure Stands (us : List Part) (c : Char) (w : List Char) : Prop where
  read : ∀ rest, readString (w ++ rest) = (readString rest).map fun r => (us ++ r.1, r.2)
  means : ∀ vs, textOfParts? (us ++ vs) = (textOfParts? vs).map (c :: ·)

theorem textOfParts?_char (c : Char) (us : List Part) :
    textOfParts? (.char c :: us) = (textOfParts? us).map (c :: ·) := by
  rw [textOfParts?]

/-- A number that is no half of a pair stands for its character, whatever follows. -/
theorem textOfParts?_code {n : Nat} (h : n < 0xD800 ∨ 0xE000 ≤ n) (us : List Part) :
    textOfParts? (.code n :: us) = (textOfParts? us).map (Char.ofNat n :: ·) := by
  have hhalf : ¬ (0xD800 ≤ n ∧ n < 0xE000) := by omega
  cases us with
  | nil => simp [textOfParts?, hhalf]
  | cons u us =>
      cases u with
      | char c => simp [textOfParts?, hhalf]
      | code lo => rw [textOfParts?, if_neg (by omega), if_neg hhalf]

/-- Two halves of a pair stand for one character. -/
theorem textOfParts?_pair {hi lo : Nat} (hhi : 0xD800 ≤ hi ∧ hi < 0xDC00)
    (hlo : 0xDC00 ≤ lo ∧ lo < 0xE000) (us : List Part) :
    textOfParts? (.code hi :: .code lo :: us) = (textOfParts? us).map
      (Char.ofNat (0x10000 + (hi - 0xD800) * 0x400 + (lo - 0xDC00)) :: ·) := by
  rw [textOfParts?, if_pos (by omega)]

/-- A code unit by number is one part. -/
theorem readString_codeUnit {ds : List Char} {n : Nat} (h : CodeUnit ds n) (rest : List Char) :
    readString ('\\' :: 'u' :: (ds ++ rest)) =
      (readString rest).map fun r => (.code n :: r.1, r.2) := by
  obtain ⟨-, hall, hvalue⟩ := (numeral_iff (by decide)).1 h.numeral
  match ds, h.length with
  | [a, b, c, d], _ =>
    have hdigits : (isDigit 16 a && isDigit 16 b && isDigit 16 c && isDigit 16 d) = true := by
      rw [hall a (by simp), hall b (by simp), hall c (by simp), hall d (by simp)]
      rfl
    simp only [List.cons_append, List.nil_append, readString, hdigits, if_true, hvalue]

theorem stands_letter {e c : Char} (hu : e ≠ 'u') (h : escaped? e = some c) :
    Stands [.char c] c ['\\', e] where
  read rest := by
    rw [List.cons_append, List.cons_append, List.nil_append, readString, h]
    · rfl
    · intro a b c d cs he
      exact absurd he hu
  means us := textOfParts?_char c us

theorem stands_plain {c : Char} (h : 0x20 ≤ c.toNat) (hq : c ≠ '"') (hb : c ≠ '\\') :
    Stands [.char c] c [c] where
  read rest := by
    have hplain : (c == '\\' || decide (c.toNat < 0x20)) = false := by
      simp [hb]
      omega
    rw [List.singleton_append, readString, hplain]
    · rfl
    · exact hq
    · intro a b c d cs he
      exact absurd he hb
    · intro e cs he
      exact absurd he hb
  means us := textOfParts?_char c us

/-- The number of a character is no half of a pair. -/
theorem toNat_not_half (c : Char) : c.toNat < 0xD800 ∨ 0xE000 ≤ c.toNat := by
  rcases c.valid with h | ⟨h, -⟩
  · exact .inl h
  · exact .inr h

/-- **A written character is read as parts that stand for it.** -/
theorem CharSpelling.stands {c : Char} {w : List Char} (h : CharSpelling c w) :
    ∃ us, Stands us c w := by
  cases h with
  | plain h hq hb => exact ⟨_, stands_plain h hq hb⟩
  | @letter e _ h =>
      have hall : ∀ p ∈ letterEscapes, p.1 ≠ 'u' ∧ escaped? p.1 = some p.2 := by decide
      obtain ⟨hu, hescaped⟩ := hall _ h
      exact ⟨_, stands_letter hu hescaped⟩
  | unit h =>
      refine ⟨[.code c.toNat], fun rest => readString_codeUnit h rest, fun vs => ?_⟩
      rw [List.singleton_append, textOfParts?_code (toNat_not_half c), Char.ofNat_toNat]
  | @pair ds es hi lo _ hds hes hhi hlo hc =>
      refine ⟨[.code hi, .code lo], fun rest => ?_, fun vs => ?_⟩
      · rw [List.cons_append, List.cons_append, List.append_assoc, readString_codeUnit hds,
          List.cons_append, List.cons_append, readString_codeUnit hes, Option.map_map]
        rfl
      · rw [List.cons_append, List.singleton_append, textOfParts?_pair hhi hlo, ← hc,
          Char.ofNat_toNat]

/-- **A written text is read up to its closing quote.** -/
theorem TextSpelling.readString {cs w : List Char} (h : TextSpelling cs w) (rest : List Char) :
    ∃ us, readString (w ++ '"' :: rest) = some (us, rest) ∧ textOfParts? us = some cs := by
  induction h with
  | nil => exact ⟨[], rfl, rfl⟩
  | cons h _ ih =>
      obtain ⟨us, hread, hmeans⟩ := ih
      obtain ⟨vs, hvs⟩ := h.stands
      refine ⟨vs ++ us, ?_, ?_⟩
      · rw [List.append_assoc, hvs.read, hread]
        rfl
      · rw [hvs.means, hmeans]
        rfl

/-! ## Numbers -/

/-- Decimal digits, at least one. -/
def IsDigits (ds : List Char) : Prop := ds ≠ [] ∧ ds.all (isDigit 10) = true

/-- A fraction is a point and digits, or nothing. -/
inductive FractionSpelling : List Char → List Char → Prop where
  | none : FractionSpelling [] []
  | some {ds : List Char} (h : IsDigits ds) : FractionSpelling ds ('.' :: ds)

/-- An exponent is a letter, a sign if there is one, and digits, or nothing. -/
inductive ExponentSpelling : Option (Bool × List Char) → List Char → Prop where
  | none : ExponentSpelling none []
  | plain {e : Char} {ds : List Char} (he : e = 'e' ∨ e = 'E') (h : IsDigits ds) :
    ExponentSpelling (some (false, ds)) (e :: ds)
  | plus {e : Char} {ds : List Char} (he : e = 'e' ∨ e = 'E') (h : IsDigits ds) :
    ExponentSpelling (some (false, ds)) (e :: '+' :: ds)
  | minus {e : Char} {ds : List Char} (he : e = 'e' ∨ e = 'E') (h : IsDigits ds) :
    ExponentSpelling (some (true, ds)) (e :: '-' :: ds)

/-- A number is a sign if it is negative, a whole part in which a zero leads no other digit, and
perhaps a fraction and an exponent. -/
inductive NumberSpelling : Number → List Char → Prop where
  | number (neg : Bool) {whole fraction f e : List Char} {exponent : Option (Bool × List Char)}
    (hwhole : IsDigits whole) (hlead : whole.head? = some '0' → whole = ['0'])
    (hfraction : FractionSpelling fraction f) (hexponent : ExponentSpelling exponent e) :
    NumberSpelling ⟨neg, whole, fraction, exponent⟩
      ((if neg then ['-'] else []) ++ (whole ++ (f ++ e)))

/-- No digit comes next. -/
def NoDigit (rest : List Char) : Prop := ∀ c ∈ rest.head?, isDigit 10 c = false

/-- What comes next is the end, white space, or a character that ends a value. -/
def Stops (rest : List Char) : Prop :=
  ∀ c ∈ rest.head?, c ∈ [' ', '\t', '\n', '\r', ',', ']', '\x7d']

theorem NoDigit.cons {c : Char} (h : isDigit 10 c = false) (cs : List Char) : NoDigit (c :: cs) := by
  intro d hd
  rwa [← Option.some.inj hd]

theorem Stops.noDigit {rest : List Char} (h : Stops rest) : NoDigit rest := by
  have hall : ∀ c ∈ [' ', '\t', '\n', '\r', ',', ']', '\x7d'], isDigit 10 c = false := by
    simp [isDigit, digitValue?]
  exact fun c hc => hall c (h c hc)

/-- Digits are taken as far as they go. -/
theorem spanDigits_append {ds rest : List Char} (hds : ds.all (isDigit 10) = true)
    (hrest : NoDigit rest) : spanDigits (ds ++ rest) = (ds, rest) := by
  rw [spanDigits, List.span_eq_takeWhile_dropWhile]
  cases rest with
  | nil => rw [List.append_nil, takeWhile_all hds, dropWhile_all hds]
  | cons c rest =>
      have hc : isDigit 10 c = false := hrest c rfl
      rw [takeWhile_run hds hc, dropWhile_run hds hc]

theorem readFraction_spelling {ds f rest : List Char} (h : FractionSpelling ds f)
    (hrest : NoDigit rest) (hpoint : rest.head? ≠ some '.') :
    readFraction (f ++ rest) = some (ds, rest) := by
  cases h with
  | none =>
      rw [List.nil_append, readFraction]
      rintro cs rfl
      exact hpoint rfl
  | some h =>
      rw [List.cons_append, readFraction, spanDigits_append h.2 hrest]
      obtain ⟨d, ds, rfl⟩ := List.exists_cons_of_ne_nil h.1
      rfl

/-- Behind its letter and its sign an exponent is digits. -/
theorem readDigits_exponent {ds rest : List Char} (h : IsDigits ds) (hrest : NoDigit rest)
    (negative : Bool) :
    (match spanDigits (ds ++ rest) with
      | ([], _) => none
      | (ds, cs) => some (some (negative, ds), cs)) = some (some (negative, ds), rest) := by
  rw [spanDigits_append h.2 hrest]
  obtain ⟨d, ds, rfl⟩ := List.exists_cons_of_ne_nil h.1
  rfl

theorem isExponentLetter {e : Char} (he : e = 'e' ∨ e = 'E') : (e == 'e' || e == 'E') = true := by
  rcases he with rfl | rfl <;> rfl

theorem readExponent_spelling {exponent : Option (Bool × List Char)} {e rest : List Char}
    (h : ExponentSpelling exponent e) (hrest : Stops rest) :
    readExponent (e ++ rest) = some (exponent, rest) := by
  have hdigit := hrest.noDigit
  cases h with
  | none =>
      cases rest with
      | nil => rfl
      | cons c rest =>
          have hall : ∀ c ∈ [' ', '\t', '\n', '\r', ',', ']', '\x7d'],
              (c == 'e' || c == 'E') = false := by simp
          have hletter := hall c (hrest c rfl)
          simp only [List.nil_append, readExponent, hletter, Bool.false_eq_true, if_false]
  | @plain e ds he h =>
      obtain ⟨d, tail, rfl⟩ := List.exists_cons_of_ne_nil h.1
      have hd : isDigit 10 d = true := by
        have hall := h.2
        rw [List.all_cons, Bool.and_eq_true] at hall
        exact hall.1
      have hne : ∀ c, isDigit 10 c = false → ∀ cs, d :: tail ++ rest = c :: cs → False := by
        intro c hc cs heq
        rw [← (List.cons.inj heq).1, hd] at hc
        cases hc
      rw [List.cons_append, readExponent, isExponentLetter he, if_pos rfl]
      · exact readDigits_exponent h hdigit false
      · exact hne '-' (by decide)
      · exact hne '+' (by decide)
  | plus he h =>
      rw [List.cons_append, List.cons_append, readExponent, isExponentLetter he, if_pos rfl]
      exact readDigits_exponent h hdigit false
  | minus he h =>
      rw [List.cons_append, List.cons_append, readExponent, isExponentLetter he, if_pos rfl]
      exact readDigits_exponent h hdigit true

/-- What follows a whole part is no digit, and what follows a fraction is no point either. -/
theorem ExponentSpelling.next {exponent : Option (Bool × List Char)} {e rest : List Char}
    (h : ExponentSpelling exponent e) (hrest : Stops rest) :
    NoDigit (e ++ rest) ∧ (e ++ rest).head? ≠ some '.' := by
  have hletter : ∀ {c : Char} (cs : List Char), c = 'e' ∨ c = 'E' →
      NoDigit (c :: cs) ∧ (c :: cs).head? ≠ some '.' := by
    rintro c cs (rfl | rfl)
    · exact ⟨.cons (by decide) cs, by simp⟩
    · exact ⟨.cons (by decide) cs, by simp⟩
  cases h with
  | none =>
      refine ⟨hrest.noDigit, fun hpoint => ?_⟩
      exact absurd (hrest '.' hpoint) (by decide)
  | plain he _ => exact hletter _ he
  | plus he _ => exact hletter _ he
  | minus he _ => exact hletter _ he

theorem FractionSpelling.next {ds f rest : List Char} (h : FractionSpelling ds f)
    (hrest : NoDigit rest) : NoDigit (f ++ rest) := by
  cases h with
  | none => exact hrest
  | some h => exact .cons (by decide) _

/-- What is read behind the sign of a number. -/
def readUnsigned (neg : Bool) (cs : List Char) : Option (Number × List Char) := do
  let (whole, cs) ← match spanDigits cs with
    | ([], _) => none
    | (['0'], cs) => some (['0'], cs)
    | ('0' :: _, _) => none
    | r => some r
  let (fraction, cs) ← readFraction cs
  let (exponent, cs) ← readExponent cs
  pure ({ neg, whole, fraction, exponent }, cs)

theorem readNumber_minus (cs : List Char) : readNumber ('-' :: cs) = readUnsigned true cs := rfl

theorem readNumber_of_ne {c : Char} (h : c ≠ '-') (cs : List Char) :
    readNumber (c :: cs) = readUnsigned false (c :: cs) := by
  unfold readNumber
  split
  rename_i heq
  split at heq
  · rename_i hminus
    exact absurd (List.cons.inj hminus).1 h
  · obtain ⟨rfl, rfl⟩ := Prod.mk.inj heq
    rfl

theorem readUnsigned_spelling (neg : Bool) {whole fraction f e rest : List Char}
    {exponent : Option (Bool × List Char)} (hwhole : IsDigits whole)
    (hlead : whole.head? = some '0' → whole = ['0']) (hfraction : FractionSpelling fraction f)
    (hexponent : ExponentSpelling exponent e) (hrest : Stops rest) :
    readUnsigned neg (whole ++ (f ++ (e ++ rest))) =
      some (⟨neg, whole, fraction, exponent⟩, rest) := by
  obtain ⟨hdigit, hpoint⟩ := hexponent.next hrest
  have hfrac := readFraction_spelling hfraction hdigit hpoint
  have hexp := readExponent_spelling hexponent hrest
  rw [readUnsigned, spanDigits_append hwhole.2 (hfraction.next hdigit)]
  split
  · rename_i heq
    exact absurd (Prod.mk.inj heq).1 hwhole.1
  · rename_i heq
    obtain ⟨rfl, rfl⟩ := Prod.mk.inj heq
    simp only [hfrac, hexp, Option.bind_eq_bind, Option.bind_some, Option.pure_def]
  · rename_i hzero heq
    obtain ⟨rfl, rfl⟩ := Prod.mk.inj heq
    cases hlead rfl
    exact (hzero rfl).elim
  · simp only [hfrac, hexp, Option.bind_eq_bind, Option.bind_some, Option.pure_def]

/-- **A written number is read** up to what ends it. -/
theorem readNumber_spelling {n : Number} {w rest : List Char} (h : NumberSpelling n w)
    (hrest : Stops rest) : readNumber (w ++ rest) = some (n, rest) := by
  cases h with
  | @number neg whole fraction f e exponent hwhole hlead hfraction hexponent =>
      have hunsigned := readUnsigned_spelling neg hwhole hlead hfraction hexponent hrest
      cases neg with
      | true =>
          rw [if_pos rfl, List.append_assoc, List.singleton_append, readNumber_minus,
            List.append_assoc, List.append_assoc, hunsigned]
      | false =>
          obtain ⟨d, tail, rfl⟩ := List.exists_cons_of_ne_nil hwhole.1
          have hd : d ≠ '-' := by
            rintro rfl
            exact absurd hwhole.2 (by simp [isDigit, digitValue?])
          simp only [Bool.false_eq_true, if_false, List.nil_append, List.append_assoc,
            List.cons_append] at hunsigned ⊢
          rw [readNumber_of_ne hd, hunsigned]

end CountryLookup.Json
