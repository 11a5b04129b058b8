import CountryLookup.Text.Digits

/-!
# Strings in TOML

A string is written in one of four ways: between double quotes with escapes, between single
quotes as it stands, and either of them between tripled quotes over several lines. In a string over
several lines one or two quotes may stand anywhere, also before the closing ones, a line break
after the opening quotes does not count, and a backslash at the end of a line swallows the break
and the white space behind it.

Each reader starts behind the opening quotes and answers with the characters of the string and
what follows the closing quotes.

## Main results

* `readBasic_plain` — characters that need no escape stand for themselves.
-/

namespace CountryLookup.Toml

open Text

/-- Whether a character may stand in a string as it is: no control character is, but the tab. -/
def isPrintable (c : Char) : Bool := c == '\t' || (0x20 ≤ c.toNat && c.toNat ≠ 0x7F)

/-- Space and tab. -/
def isGap (c : Char) : Bool := c == ' ' || c == '\t'

/-- The character of a code point, which is no half of a pair. -/
def scalar? (n : Nat) : Option Char :=
  if n < 0xD800 ∨ (0xE000 ≤ n ∧ n < 0x110000) then some (Char.ofNat n) else none

/-- The character that the hexadecimal digits behind an escape denote. -/
def coded? (ds : List Char) : Option Char :=
  if ds.all (isDigit 16) then scalar? (digitsValue 16 ds) else none

/-- The character that a letter behind a backslash stands for. -/
def lettered? : Char → Option Char
  | 'b' => some '\x08'
  | 't' => some '\t'
  | 'n' => some '\n'
  | 'f' => some '\x0c'
  | 'r' => some '\r'
  | 'e' => some '\x1b'
  | '"' => some '"'
  | '\\' => some '\\'
  | _ => none

/-- Reads an escape behind its backslash. -/
def readEscape : List Char → Option (Char × List Char)
  | 'x' :: a :: b :: cs => (coded? [a, b]).map (·, cs)
  | 'u' :: a :: b :: c :: d :: cs => (coded? [a, b, c, d]).map (·, cs)
  | 'U' :: a :: b :: c :: d :: e :: f :: g :: h :: cs =>
    (coded? [a, b, c, d, e, f, g, h]).map (·, cs)
  | c :: cs => (lettered? c).map (·, cs)
  | [] => none

/-- An escape leaves less than there was. -/
theorem length_readEscape {cs rest : List Char} {c : Char} (h : readEscape cs = some (c, rest)) :
    rest.length < cs.length := by
  unfold readEscape at h
  split at h
  · obtain ⟨_, _, e⟩ := Option.map_eq_some_iff.1 h
    simp only [Prod.mk.injEq] at e
    rw [← e.2]; simp only [List.length_cons]; omega
  · obtain ⟨_, _, e⟩ := Option.map_eq_some_iff.1 h
    simp only [Prod.mk.injEq] at e
    rw [← e.2]; simp only [List.length_cons]; omega
  · obtain ⟨_, _, e⟩ := Option.map_eq_some_iff.1 h
    simp only [Prod.mk.injEq] at e
    rw [← e.2]; simp only [List.length_cons]; omega
  · obtain ⟨_, _, e⟩ := Option.map_eq_some_iff.1 h
    simp only [Prod.mk.injEq] at e
    rw [← e.2]; simp only [List.length_cons]; omega
  · cases h

/-- Puts a character in front of what a reader read. -/
def before (c : Char) : Option (List Char × List Char) → Option (List Char × List Char) :=
  Option.map fun r => (c :: r.1, r.2)

/-- Reads a string between double quotes. -/
def readBasic : List Char → Option (List Char × List Char)
  | [] => none
  | '"' :: cs => some ([], cs)
  | '\\' :: cs =>
    match h : readEscape cs with
    | none => none
    | some (c, rest) =>
      have : rest.length < cs.length := length_readEscape h
      before c (readBasic rest)
  | c :: cs => if isPrintable c then before c (readBasic cs) else none
termination_by cs => cs.length
decreasing_by all_goals simp_wf <;> omega

/-- Reads a string between single quotes. -/
def readLiteral : List Char → Option (List Char × List Char)
  | [] => none
  | '\'' :: cs => some ([], cs)
  | c :: cs => if isPrintable c then before c (readLiteral cs) else none

/-- Whether a line ends here, white space apart. -/
def endsLine (cs : List Char) : Bool :=
  match cs.dropWhile isGap with
  | '\n' :: _ => true
  | '\r' :: '\n' :: _ => true
  | _ => false

/-- Reads a string between tripled double quotes. While `swallowing`, white space and line breaks
do not count. -/
def readLongBasic (swallowing : Bool) : List Char → Option (List Char × List Char)
  | [] => none
  | '"' :: '"' :: '"' :: '"' :: '"' :: cs => some (['"', '"'], cs)
  | '"' :: '"' :: '"' :: '"' :: cs => some (['"'], cs)
  | '"' :: '"' :: '"' :: cs => some ([], cs)
  | '\\' :: cs =>
    if endsLine cs then readLongBasic true cs
    else match h : readEscape cs with
      | none => none
      | some (c, rest) =>
        have : rest.length < cs.length := length_readEscape h
        before c (readLongBasic false rest)
  | '\r' :: '\n' :: cs =>
    if swallowing then readLongBasic true cs
    else before '\r' (before '\n' (readLongBasic false cs))
  | '\n' :: cs => if swallowing then readLongBasic true cs else before '\n' (readLongBasic false cs)
  | c :: cs =>
    if swallowing && isGap c then readLongBasic true cs
    else if isPrintable c then before c (readLongBasic false cs) else none
termination_by cs => cs.length
decreasing_by all_goals simp_wf <;> omega

/-- Reads a string between tripled single quotes. -/
def readLongLiteral : List Char → Option (List Char × List Char)
  | [] => none
  | '\'' :: '\'' :: '\'' :: '\'' :: '\'' :: cs => some (['\'', '\''], cs)
  | '\'' :: '\'' :: '\'' :: '\'' :: cs => some (['\''], cs)
  | '\'' :: '\'' :: '\'' :: cs => some ([], cs)
  | '\r' :: '\n' :: cs => before '\r' (before '\n' (readLongLiteral cs))
  | '\n' :: cs => before '\n' (readLongLiteral cs)
  | c :: cs => if isPrintable c then before c (readLongLiteral cs) else none

/-- The text without a line break at its start. -/
def dropBreak : List Char → List Char
  | '\n' :: cs => cs
  | '\r' :: '\n' :: cs => cs
  | cs => cs

/-- Reads a string of any kind from its opening quotes on; `none` if there is none. -/
def readText : List Char → Option (List Char × List Char)
  | '"' :: '"' :: '"' :: cs => readLongBasic false (dropBreak cs)
  | '"' :: cs => readBasic cs
  | '\'' :: '\'' :: '\'' :: cs => readLongLiteral (dropBreak cs)
  | '\'' :: cs => readLiteral cs
  | _ => none

/-- Whether a character stands for itself between double quotes. -/
def isPlain (c : Char) : Bool := isPrintable c && c != '"' && c != '\\'

/-- **Plain characters stand for themselves.** -/
theorem readBasic_plain {run : List Char} (h : run.all isPlain = true) (cs : List Char) :
    readBasic (run ++ '"' :: cs) = some (run, cs) := by
  induction run with
  | nil => simp [readBasic]
  | cons c run ih =>
    simp only [List.all_cons, Bool.and_eq_true, isPlain, bne_iff_ne] at h
    obtain ⟨⟨⟨hp, hq⟩, hb⟩, hr⟩ := h
    rw [List.cons_append, readBasic]
    · simp [hp, ih (by simpa [isPlain] using hr), before]
    · exact hq
    · exact hb

end CountryLookup.Toml
