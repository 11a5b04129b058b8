/-!
# Members by name

The tables of a configuration are lists of values with names, in the order in which the names
first occur. Setting a name that is there replaces its value in place.

## Main results

* `get?_put` — what a name stands for after another or the same name was set.
-/

namespace CountryLookup.Members

variable {α : Type}

/-- The value of a name. -/
def get? (k : String) : List (String × α) → Option α
  | [] => none
  | (j, v) :: ms => if j = k then some v else get? k ms

/-- Sets the value of a name. -/
def put (k : String) (v : α) : List (String × α) → List (String × α)
  | [] => [(k, v)]
  | (j, w) :: ms => if j = k then (k, v) :: ms else (j, w) :: put k v ms

@[simp] theorem get?_nil (k : String) : get? k ([] : List (String × α)) = none := rfl

@[simp] theorem get?_put_self (k : String) (v : α) (ms : List (String × α)) :
    get? k (put k v ms) = some v := by
  induction ms with
  | nil => simp [put, get?]
  | cons m ms ih =>
    by_cases h : m.1 = k <;> simp [put, get?, h, ih]

theorem get?_put_of_ne {j k : String} (h : k ≠ j) (v : α) (ms : List (String × α)) :
    get? j (put k v ms) = get? j ms := by
  induction ms with
  | nil => simp [put, get?, h]
  | cons m ms ih =>
    obtain ⟨i, w⟩ := m
    by_cases hk : i = k
    · subst hk
      simp [put, get?, h]
    · by_cases hj : i = j
      · simp [put, get?, hj, show ¬ j = k from fun e => h e.symm]
      · simp [put, get?, hk, hj, ih]

/-- **Setting a name changes that name alone.** -/
theorem get?_put (j k : String) (v : α) (ms : List (String × α)) :
    get? j (put k v ms) = if j = k then some v else get? j ms := by
  split
  · subst_vars
    simp
  · exact get?_put_of_ne (by simp_all [eq_comm]) v ms

end CountryLookup.Members
