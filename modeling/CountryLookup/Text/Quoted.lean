import CountryLookup.Text.Digits
import CountryLookup.Text.PrintTable

/-!
# Quoted texts

Log lines quote texts so that they stay on one line and show every character. A quotation writes
the two characters that would break it, `"` and `\`, after a backslash, four control characters
by a letter or a zero, and every other character without a picture of its own by its number.
-/

namespace CountryLookup.Text

/-- How a character stands inside a quotation. -/
def quoteChar (c : Char) : List Char :=
  if c = '\x00' then ['\\', '0']
  else if c = '\t' then ['\\', 't']
  else if c = '\n' then ['\\', 'n']
  else if c = '\r' then ['\\', 'r']
  else if c = '"' then ['\\', '"']
  else if c = '\\' then ['\\', '\\']
  else if c.toNat < 0x7F && 0x20 ≤ c.toNat then [c]
  else if unprintable.has c.toNat then
    ['\\', 'u', '\x7b'] ++ (hex c.toNat).toList ++ ['\x7d']
  else [c]

/-- A text between double quotes, every character of it visible. -/
def quoted (s : String) : String :=
  String.ofList ('"' :: s.toList.flatMap quoteChar ++ ['"'])

end CountryLookup.Text
