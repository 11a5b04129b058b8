/-!
# Colour

Terminals colour a text between two control sequences, one that sets a style and one that resets
every style. A text that itself holds the reset would end the style in its middle, so the style
is set again after each reset inside.
-/

namespace CountryLookup.Text

/-- The control character that opens every sequence. -/
def escapeChar : Char := '\x1b'

/-- The sequence that sets a style, given its parameters, such as `1;31`. -/
def styleOn (style : String) : List Char := escapeChar :: '[' :: (style.toList ++ ['m'])

/-- Sets the style again after every reset inside a text. -/
def restyle (style : String) : List Char → List Char
  | '\x1b' :: '[' :: '0' :: 'm' :: cs =>
    escapeChar :: '[' :: '0' :: 'm' :: (styleOn style ++ restyle style cs)
  | c :: cs => c :: restyle style cs
  | [] => []

/-- A text in a style. -/
def painted (style : String) (s : String) : String :=
  String.ofList (styleOn style ++ restyle style s.toList ++ styleOn "0")

/-- A text in a style where colours are on, and the bare text where they are off. -/
def paint (colour : Bool) (style : String) (s : String) : String :=
  if colour then painted style s else s

@[simp] theorem paint_false (style s : String) : paint false style s = s := rfl

end CountryLookup.Text
