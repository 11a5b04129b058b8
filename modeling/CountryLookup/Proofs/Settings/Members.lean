import CountryLookup.Settings.Members

/-!
# Names of members

A list of members is well formed if no name occurs twice in it. Then members that are read from a
document can be laid over others one by one, and the order does not matter. Setting a name keeps
members well formed.

## Main results

* `get?_eq_none_iff`, `mem_of_get?` — what a name stands for, read off the list.
* `names_put`, `nodup_put` — the names after one was set.
-/

namespace CountryLookup.Members

variable {α : Type}

/-- The names of members, in order. -/
def names (ms : List (String × α)) : List String := ms.map (·.1)

@[simp] theorem names_nil : names ([] : List (String × α)) = [] := rfl

@[simp] theorem names_cons (m : String × α) (ms : List (String × α)) :
    names (m :: ms) = m.1 :: names ms := rfl

@[simp] theorem names_append (ms ns : List (String × α)) :
    names (ms ++ ns) = names ms ++ names ns := List.map_append

theorem mem_names_of_mem {m : String × α} {ms : List (String × α)} (h : m ∈ ms) :
    m.1 ∈ names ms := List.mem_map_of_mem h

/-! ## Looking up -/

theorem get?_cons_self (k : String) (v : α) (ms : List (String × α)) :
    get? k ((k, v) :: ms) = some v := by
  rw [get?, if_pos rfl]

theorem get?_cons_of_ne {j k : String} (h : j ≠ k) (v : α) (ms : List (String × α)) :
    get? k ((j, v) :: ms) = get? k ms := by
  rw [get?, if_neg h]

/-- **A name stands for nothing if it does not occur.** -/
theorem get?_eq_none_iff {k : String} {ms : List (String × α)} :
    get? k ms = none ↔ k ∉ names ms := by
  induction ms with
  | nil => simp
  | cons m ms ih =>
      obtain ⟨j, v⟩ := m
      by_cases h : j = k
      · subst h
        simp [get?_cons_self]
      · rw [get?_cons_of_ne h, ih]
        simp [show ¬ k = j from fun e => h e.symm]

theorem get?_append (k : String) (ms ns : List (String × α)) :
    get? k (ms ++ ns) = (get? k ms).or (get? k ns) := by
  induction ms with
  | nil => rfl
  | cons m ms ih =>
      obtain ⟨j, v⟩ := m
      by_cases h : j = k
      · subst h
        rw [List.cons_append, get?_cons_self, get?_cons_self, Option.some_or]
      · rw [List.cons_append, get?_cons_of_ne h, get?_cons_of_ne h, ih]

theorem mem_of_get? {k : String} {v : α} {ms : List (String × α)} (h : get? k ms = some v) :
    (k, v) ∈ ms := by
  induction ms with
  | nil => cases h
  | cons m ms ih =>
      obtain ⟨j, w⟩ := m
      by_cases hj : j = k
      · subst hj
        rw [get?_cons_self, Option.some.injEq] at h
        rw [h]
        exact List.mem_cons_self
      · rw [get?_cons_of_ne hj] at h
        exact List.mem_cons_of_mem _ (ih h)

/-- If no name occurs twice, every value is that of its name. -/
theorem get?_of_mem {k : String} {v : α} {ms : List (String × α)} (hms : (names ms).Nodup)
    (h : (k, v) ∈ ms) : get? k ms = some v := by
  induction ms with
  | nil => cases h
  | cons m ms ih =>
      obtain ⟨j, w⟩ := m
      obtain ⟨hnew, htail⟩ := List.nodup_cons.1 hms
      rcases List.mem_cons.1 h with heq | hmem
      · cases heq
        exact get?_cons_self k v ms
      · have hne : j ≠ k := by
          rintro rfl
          exact hnew (List.mem_map.2 ⟨_, hmem, rfl⟩)
        rw [get?_cons_of_ne hne]
        exact ih htail hmem

theorem get?_eq_some_iff {k : String} {v : α} {ms : List (String × α)} (hms : (names ms).Nodup) :
    get? k ms = some v ↔ (k, v) ∈ ms := ⟨mem_of_get?, get?_of_mem hms⟩

/-- Members whose values are changed one by one. -/
theorem get?_map {β : Type} (f : α → β) (k : String) (ms : List (String × α)) :
    get? k (ms.map fun m => (m.1, f m.2)) = (get? k ms).map f := by
  induction ms with
  | nil => rfl
  | cons m ms ih =>
      obtain ⟨j, v⟩ := m
      by_cases h : j = k
      · subst h
        rw [List.map_cons, get?_cons_self, get?_cons_self, Option.map_some]
      · rw [List.map_cons, get?_cons_of_ne h, get?_cons_of_ne h, ih]

/-! ## Setting -/

/-- A new name comes last. -/
theorem put_of_not_mem {k : String} {ms : List (String × α)} (h : k ∉ names ms) (v : α) :
    put k v ms = ms ++ [(k, v)] := by
  induction ms with
  | nil => rfl
  | cons m ms ih =>
      rw [names_cons, List.mem_cons, not_or] at h
      rw [put, if_neg (fun e => h.1 e.symm), ih h.2, List.cons_append]

/-- Setting the last name again replaces its value. -/
theorem put_concat_self {k : String} {ms : List (String × α)} (h : k ∉ names ms) (v w : α) :
    put k w (ms ++ [(k, v)]) = ms ++ [(k, w)] := by
  induction ms with
  | nil => rw [List.nil_append, put, if_pos rfl, List.nil_append]
  | cons m ms ih =>
      rw [names_cons, List.mem_cons, not_or] at h
      rw [List.cons_append, put, if_neg (fun e => h.1 e.symm), ih h.2, List.cons_append]

theorem get?_concat_self {k : String} {ms : List (String × α)} (h : k ∉ names ms) (v : α) :
    get? k (ms ++ [(k, v)]) = some v := by
  rw [get?_append, get?_eq_none_iff.2 h, Option.none_or, get?_cons_self]

/-- **The names after one was set.** -/
theorem names_put (k : String) (v : α) (ms : List (String × α)) :
    names (put k v ms) = if k ∈ names ms then names ms else names ms ++ [k] := by
  by_cases h : k ∈ names ms
  · rw [if_pos h]
    induction ms with
    | nil => cases h
    | cons m ms ih =>
        by_cases hk : m.1 = k
        · rw [put, if_pos hk, names_cons, names_cons, hk]
        · have hm : k ∈ names ms := by
            rcases List.mem_cons.1 h with e | hm
            · exact absurd e.symm hk
            · exact hm
          rw [put, if_neg hk, names_cons, names_cons, ih hm]
  · rw [if_neg h, put_of_not_mem h, names_append]
    rfl

/-- Setting a name makes none occur twice. -/
theorem nodup_put {ms : List (String × α)} (h : (names ms).Nodup) (k : String) (v : α) :
    (names (put k v ms)).Nodup := by
  rw [names_put]
  split
  · exact h
  · next hk =>
      rw [List.nodup_append]
      refine ⟨h, List.pairwise_singleton _ k, ?_⟩
      intro j hj i hi e
      rw [List.mem_singleton] at hi
      exact hk (hi ▸ e ▸ hj)

theorem mem_put {k : String} {v : α} {ms : List (String × α)} {m : String × α}
    (h : m ∈ put k v ms) : m = (k, v) ∨ m ∈ ms := by
  induction ms with
  | nil => exact .inl (List.mem_singleton.1 h)
  | cons n ms ih =>
      rw [put] at h
      split at h
      · rcases List.mem_cons.1 h with h | h
        · exact .inl h
        · exact .inr (List.mem_cons_of_mem n h)
      · rcases List.mem_cons.1 h with h | h
        · exact .inr (h ▸ List.mem_cons_self)
        · exact (ih h).imp id (List.mem_cons_of_mem n)

end CountryLookup.Members
