/-!
# Fields between separators

Addresses, paths, names of settings and log filters are fields between separators, and so are the
variables of an environment, which come as bytes. What has `n` separators has `n + 1` fields, empty
ones included, so the fields are never the empty list.

## Main results

* `fields_joined` — fields that hold no separator are read back from their joined text.
* `joined_fields` — the fields of a text, joined, are the text.
* `fields_terminated` — lines, each with its end, are read back with an empty field after them.
-/

namespace CountryLookup.Text

variable {α : Type} [DecidableEq α]

/-- The fields between the separators. -/
def fields (sep : α) : List α → List (List α)
  | [] => [[]]
  | c :: cs =>
    if c = sep then [] :: fields sep cs
    else match fields sep cs with
      | f :: fs => (c :: f) :: fs
      | [] => [[c]]

/-- The fields with a separator between each two. -/
def joined (sep : α) : List (List α) → List α
  | [] => []
  | [f] => f
  | f :: fs => f ++ sep :: joined sep fs

@[simp] theorem fields_nil (sep : α) : fields sep [] = [[]] := rfl

theorem fields_ne_nil (sep : α) (cs : List α) : fields sep cs ≠ [] := by
  induction cs with
  | nil => simp
  | cons c cs ih =>
    rw [fields]
    split
    · simp
    · split <;> simp

/-- A field before a separator comes off first. -/
theorem fields_append_sep {sep : α} {f : List α} (h : sep ∉ f) (cs : List α) :
    fields sep (f ++ sep :: cs) = f :: fields sep cs := by
  induction f with
  | nil => simp [fields]
  | cons c f ih =>
    simp only [List.mem_cons, not_or] at h
    rw [List.cons_append, fields, if_neg (fun e => h.1 e.symm), ih h.2]

theorem fields_of_not_mem {sep : α} {f : List α} (h : sep ∉ f) : fields sep f = [f] := by
  induction f with
  | nil => rfl
  | cons c f ih =>
    simp only [List.mem_cons, not_or] at h
    rw [fields, if_neg (fun e => h.1 e.symm), ih h.2]

/-- **Joined fields are read back.** -/
theorem fields_joined {sep : α} {fs : List (List α)} (hne : fs ≠ [])
    (h : ∀ f ∈ fs, sep ∉ f) : fields sep (joined sep fs) = fs := by
  induction fs with
  | nil => exact absurd rfl hne
  | cons f fs ih =>
    cases fs with
    | nil => exact fields_of_not_mem (h f (by simp))
    | cons g gs =>
      rw [joined, fields_append_sep (h f (by simp)), ih (by simp) (fun x hx => h x (by simp [hx]))]
      simp

/-- **Lines are read back**, each with a separator after it. -/
theorem fields_terminated {sep : α} {ls : List (List α)} (h : ∀ l ∈ ls, sep ∉ l) :
    fields sep (ls.flatMap fun l => l ++ [sep]) = ls ++ [[]] := by
  induction ls with
  | nil => rfl
  | cons l ls ih =>
    have hrest := ih fun x hx => h x (List.mem_cons_of_mem l hx)
    rw [List.flatMap_cons, List.append_assoc, List.singleton_append,
      fields_append_sep (h l List.mem_cons_self), hrest, List.cons_append]

/-- The fields on both sides of a separator. -/
theorem fields_append {sep : α} (cs ds : List α) :
    fields sep (cs ++ sep :: ds) = fields sep cs ++ fields sep ds := by
  induction cs with
  | nil => rw [List.nil_append, fields_nil, fields, if_pos rfl, List.singleton_append]
  | cons c cs ih =>
      rw [List.cons_append, fields, fields, ih]
      by_cases hc : c = sep
      · rw [if_pos hc, if_pos hc, List.cons_append]
      · rw [if_neg hc, if_neg hc]
        cases hfields : fields sep cs with
        | nil => exact absurd hfields (fields_ne_nil sep cs)
        | cons f fs => rfl

/-- No field holds a separator. -/
theorem not_mem_of_mem_fields {sep : α} {cs f : List α} (h : f ∈ fields sep cs) : sep ∉ f := by
  induction cs generalizing f with
  | nil =>
      obtain rfl := List.mem_singleton.1 h
      exact List.not_mem_nil
  | cons c cs ih =>
      rw [fields] at h
      by_cases hc : c = sep
      · rw [if_pos hc] at h
        rcases List.mem_cons.1 h with rfl | h
        · exact List.not_mem_nil
        · exact ih h
      · rw [if_neg hc] at h
        cases hfields : fields sep cs with
        | nil => exact absurd hfields (fields_ne_nil sep cs)
        | cons g gs =>
            rw [hfields] at h ih
            rcases List.mem_cons.1 h with rfl | h
            · have hg : sep ∉ g := ih List.mem_cons_self
              simp only [List.mem_cons, not_or]
              exact ⟨fun e => hc e.symm, hg⟩
            · exact ih (List.mem_cons_of_mem g h)

/-- **Lines are read back exactly if no line holds the separator.** -/
theorem fields_terminated_iff {sep : α} {ls : List (List α)} :
    fields sep (ls.flatMap fun l => l ++ [sep]) = ls ++ [[]] ↔ ∀ l ∈ ls, sep ∉ l := by
  constructor
  · intro h l hl
    exact not_mem_of_mem_fields (h ▸ List.mem_append_left _ hl)
  · exact fields_terminated

/-- **The fields of a text, joined, are the text.** -/
theorem joined_fields (sep : α) (cs : List α) : joined sep (fields sep cs) = cs := by
  induction cs with
  | nil => rfl
  | cons c cs ih =>
      rw [fields]
      by_cases hc : c = sep
      · rw [if_pos hc]
        cases hfields : fields sep cs with
        | nil => exact absurd hfields (fields_ne_nil sep cs)
        | cons f fs =>
            rw [hfields] at ih
            rw [joined, ih, hc, List.nil_append]
            simp
      · rw [if_neg hc]
        cases hfields : fields sep cs with
        | nil => exact absurd hfields (fields_ne_nil sep cs)
        | cons f fs =>
            rw [hfields] at ih
            cases fs with
            | nil => exact congrArg (c :: ·) ih
            | cons g gs => exact congrArg (c :: ·) ih

end CountryLookup.Text
