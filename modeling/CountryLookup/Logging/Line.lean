import CountryLookup.Event
import CountryLookup.Json.Printer
import CountryLookup.Text.Digits
import CountryLookup.Text.Paint

/-!
# Log lines

An event is written on a line with the time, its level, its speaker and its message: as words, with
colours for a terminal, or as a JSON object. In words the characters that could command a terminal
are written as escapes, so a message cannot change how a log is shown.

## Main results

* `escape_not_mem_tame` — a tamed message holds no escape character.
-/

namespace CountryLookup.Logging

open Text

/-- How lines are written. -/
inductive LineFormat where
  | words | colouredWords | json
  deriving Repr, DecidableEq

/-- A character that could command a terminal, as an escape; any other as it is. -/
def tameChar (c : Char) : List Char :=
  let digits := [Nat.digitChar (c.toNat / 16), Nat.digitChar (c.toNat % 16)]
  if c ∈ ['\x1b', '\x07', '\x08', '\x0c', '\x7f'] then '\\' :: 'x' :: digits
  else if 0x80 ≤ c.toNat ∧ c.toNat ≤ 0x9F then '\\' :: 'u' :: '\x7b' :: digits ++ ['\x7d']
  else [c]

/-- A message without characters that could command a terminal. -/
def tame (s : String) : String := String.ofList (s.toList.flatMap tameChar)

/-- The name of a level, five columns wide. -/
def levelColumn (l : Level) : String :=
  String.ofList (List.replicate (5 - l.name.length) ' ') ++ l.name

/-- The colour of a level. -/
def levelStyle : Level → String
  | .error => "31"
  | .warn => "33"
  | .info => "32"
  | .debug => "34"
  | .trace => "35"

/-- A text between two sequences, whatever is in it. -/
def styled (style s : String) : String :=
  String.ofList (styleOn style) ++ s ++ String.ofList (styleOn "0")

/-- The style of what is less important in a line. -/
def dim : String := "2"

/-- The line of an event at a time, without its end. -/
def line (format : LineFormat) (time : String) (e : Event) : String :=
  match format with
  | .words => time ++ " " ++ levelColumn e.level ++ " " ++ e.speaker.name ++ ": " ++ tame e.message
  | .colouredWords =>
    styled dim time ++ " " ++ styled (levelStyle e.level) (levelColumn e.level) ++ " "
      ++ styled dim e.speaker.name ++ styled dim ":" ++ " " ++ tame e.message
  | .json =>
    String.ofList (Json.writeObject
      [ ("timestamp", Json.quote time),
        ("level", Json.quote e.level.name),
        ("fields", Json.writeObject [("message", Json.quote e.message)]),
        ("target", Json.quote e.speaker.name) ])

private theorem digitChar_ne_escape : ∀ n : Nat, n < 16 → '\x1b' ≠ Nat.digitChar n := by decide

theorem escape_not_mem_tameChar (c : Char) : '\x1b' ∉ tameChar c := by
  unfold tameChar
  dsimp only
  split
  · rename_i h
    simp only [List.mem_cons, List.not_mem_nil, or_false] at h
    rcases h with rfl | rfl | rfl | rfl | rfl <;> decide
  · split
    · rename_i _ h
      have h1 := digitChar_ne_escape (c.toNat / 16) (by omega)
      have h2 := digitChar_ne_escape (c.toNat % 16) (by omega)
      simp [h1, h2]
    · rename_i h _
      intro hm
      exact h (by simp [← List.mem_singleton.1 hm])

/-- **A tamed message holds no escape character.** -/
theorem escape_not_mem_tame (s : String) : '\x1b' ∉ (tame s).toList := by
  simp only [tame, String.toList_ofList, List.mem_flatMap, not_exists, not_and]
  exact fun c _ => escape_not_mem_tameChar c

end CountryLookup.Logging
