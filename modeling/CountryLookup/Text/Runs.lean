/-!
# Runs of characters

A reader takes the longest run of characters of a class and goes on behind it. Both halves are
the library's `takeWhile` and `dropWhile`; the lemmas here say what they are when the text is known
to start with such a run.

## Main results

* `takeWhile_run`, `dropWhile_run` — a run that something else follows is taken as a whole.
-/

namespace CountryLookup.Text

variable {p : Char → Bool}

theorem takeWhile_all {run : List Char} (h : run.all p = true) : run.takeWhile p = run := by
  induction run with
  | nil => rfl
  | cons c cs ih =>
    simp only [List.all_cons, Bool.and_eq_true] at h
    simp [h.1, ih h.2]

theorem dropWhile_all {run : List Char} (h : run.all p = true) : run.dropWhile p = [] := by
  induction run with
  | nil => rfl
  | cons c cs ih =>
    simp only [List.all_cons, Bool.and_eq_true] at h
    simp [h.1, ih h.2]

/-- A run is taken as far as it goes. -/
theorem takeWhile_run {run : List Char} (h : run.all p = true) {c : Char} (hc : p c = false)
    (cs : List Char) : (run ++ c :: cs).takeWhile p = run := by
  induction run with
  | nil => simp [hc]
  | cons d ds ih =>
    simp only [List.all_cons, Bool.and_eq_true] at h
    simp [h.1, ih h.2]

/-- What follows a run is what is left. -/
theorem dropWhile_run {run : List Char} (h : run.all p = true) {c : Char} (hc : p c = false)
    (cs : List Char) : (run ++ c :: cs).dropWhile p = c :: cs := by
  induction run with
  | nil => simp [hc]
  | cons d ds ih =>
    simp only [List.all_cons, Bool.and_eq_true] at h
    simp [h.1, ih h.2]

end CountryLookup.Text
