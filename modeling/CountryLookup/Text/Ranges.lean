/-!
# Sets of characters as ranges

The properties of the Unicode standard are long lists of code points that come in runs. A
property is therefore a list of closed ranges, and membership is one pass over the list: the
lists are short enough for that, and a fact about every character becomes a fact about finitely
many ranges.
-/

namespace CountryLookup.Text

/-- Closed ranges of code points, in increasing order. -/
abbrev Ranges := List (Nat × Nat)

/-- Whether a code point lies in one of the ranges. -/
def Ranges.has (rs : Ranges) (n : Nat) : Bool :=
  rs.any fun r => r.1 ≤ n && n ≤ r.2

@[simp] theorem Ranges.has_nil (n : Nat) : Ranges.has [] n = false := rfl

@[simp] theorem Ranges.has_cons (r : Nat × Nat) (rs : Ranges) (n : Nat) :
    Ranges.has (r :: rs) n = ((r.1 ≤ n && n ≤ r.2) || Ranges.has rs n) := rfl

theorem Ranges.has_iff (rs : Ranges) (n : Nat) :
    rs.has n = true ↔ ∃ r ∈ rs, r.1 ≤ n ∧ n ≤ r.2 := by
  simp [Ranges.has]

end CountryLookup.Text
