import CountryLookup.Text.Digits

/-!
# Writing JSON

The program writes JSON for results and for log lines: objects of texts on one line, without
blanks. Strings escape the quote, the backslash and the control characters, five of these by a
letter and the others by four digits; every other character stands as it is. A line break in a
text is thus written as two characters, and an object never spans two lines.

## Main results

* `newline_not_mem_quote` — no quoted text holds a line break.
-/

namespace CountryLookup.Json

/-- How a character stands in a string. -/
def escapeChar (c : Char) : List Char :=
  if c = '"' then ['\\', '"']
  else if c = '\\' then ['\\', '\\']
  else if c = '\x08' then ['\\', 'b']
  else if c = '\x0c' then ['\\', 'f']
  else if c = '\n' then ['\\', 'n']
  else if c = '\r' then ['\\', 'r']
  else if c = '\t' then ['\\', 't']
  else if c.toNat < 0x20 then
    ['\\', 'u', '0', '0', Nat.digitChar (c.toNat / 16), Nat.digitChar (c.toNat % 16)]
  else [c]

/-- A text as a string. -/
def quote (s : String) : List Char := '"' :: s.toList.flatMap escapeChar ++ ['"']

/-- Members of an object, each already written. -/
def writeMembers : List (String × List Char) → List Char
  | [] => []
  | [(k, v)] => quote k ++ ':' :: v
  | (k, v) :: ms => quote k ++ ':' :: v ++ ',' :: writeMembers ms

/-- An object on one line. -/
def writeObject (ms : List (String × List Char)) : List Char :=
  '\x7b' :: writeMembers ms ++ ['\x7d']

theorem newline_not_mem_escapeChar (c : Char) : '\n' ∉ escapeChar c := by
  unfold escapeChar
  repeat' split
  all_goals first
    | decide
    | skip
  · rename_i h
    have hd : ∀ n : Nat, n < 16 → Nat.digitChar n ≠ '\n' := by decide
    have h1 := hd (c.toNat / 16) (by omega)
    have h2 := hd (c.toNat % 16) (by omega)
    simp [Ne.symm h1, Ne.symm h2]
  · rename_i h _ _ _
    intro hc
    simp only [List.mem_singleton] at hc
    exact absurd hc.symm (by assumption)

/-- **A quoted text stays on one line.** -/
theorem newline_not_mem_quote (s : String) : '\n' ∉ quote s := by
  intro h
  simp only [quote, List.cons_append, List.mem_cons, List.mem_append, List.mem_flatMap] at h
  rcases h with h | ⟨c, _, hc⟩ | h
  · exact absurd h (by decide)
  · exact newline_not_mem_escapeChar c hc
  · simp at h

end CountryLookup.Json
