/-!
# White space and trimming

The program trims addresses, tokens and answers of the remote service. White space is the
Unicode property `White_Space`, twenty-five characters, and not the six of ASCII: an address
between two ideographic spaces is an address.

## Main results

* `trimChars_trimChars` — trimming twice is trimming once.
* `trimChars_append_space` — white space around a text that neither starts nor ends with white
  space is what trimming removes, and nothing else.
* `trimmed_iff` — what trimming leaves, said without it.
-/

namespace CountryLookup.Text

/-! ## The class -/

/-- The characters of the Unicode property `White_Space`. -/
def isSpace (c : Char) : Bool :=
  let n := c.toNat
  (0x09 ≤ n && n ≤ 0x0D) || n == 0x20 || n == 0x85 || n == 0xA0 || n == 0x1680
    || (0x2000 ≤ n && n ≤ 0x200A) || n == 0x2028 || n == 0x2029 || n == 0x202F
    || n == 0x205F || n == 0x3000

/-! ## Trimming -/

/-- Drops what satisfies `p` from the end of a list. -/
def dropEndWhile (p : Char → Bool) (cs : List Char) : List Char :=
  (cs.reverse.dropWhile p).reverse

/-- The characters left when white space is taken off both ends. -/
def trimChars (cs : List Char) : List Char :=
  dropEndWhile isSpace (cs.dropWhile isSpace)

/-- A text without the white space at its two ends. -/
def trim (s : String) : String := String.ofList (trimChars s.toList)

/-- A text of white space alone, the empty text included. -/
def isBlank (s : String) : Bool := s.toList.all isSpace

@[simp] theorem dropEndWhile_nil (p : Char → Bool) : dropEndWhile p [] = [] := rfl

theorem dropEndWhile_append_of_all {p : Char → Bool} (cs : List Char) {ws : List Char}
    (h : ws.all p = true) : dropEndWhile p (cs ++ ws) = dropEndWhile p cs := by
  have h' : ∀ a ∈ ws.reverse, p a = true := by
    intro a ha
    exact List.all_eq_true.1 h a (List.mem_reverse.1 ha)
  simp [dropEndWhile, List.dropWhile_append_of_pos h']

theorem dropWhile_append_of_all {p : Char → Bool} {ws : List Char} (cs : List Char)
    (h : ws.all p = true) : (ws ++ cs).dropWhile p = cs.dropWhile p :=
  List.dropWhile_append_of_pos (List.all_eq_true.1 h)

/-- A list whose last element fails the test loses nothing. -/
theorem dropEndWhile_concat_of_not {p : Char → Bool} (cs : List Char) {c : Char}
    (h : p c = false) : dropEndWhile p (cs ++ [c]) = cs ++ [c] := by
  simp [dropEndWhile, h]

theorem dropWhile_append_singleton_of_not {p : Char → Bool} (cs : List Char) {c : Char}
    (h : p c = false) : (cs ++ [c]).dropWhile p = cs.dropWhile p ++ [c] := by
  induction cs with
  | nil => simp [h]
  | cons d ds ih =>
    by_cases hd : p d = true
    · simp [hd, ih]
    · simp [hd]

/-- A first element that fails the test stays the first. -/
theorem dropEndWhile_cons_of_not {p : Char → Bool} {c : Char} (cs : List Char)
    (h : p c = false) : dropEndWhile p (c :: cs) = c :: dropEndWhile p cs := by
  simp [dropEndWhile, dropWhile_append_singleton_of_not _ h]

/-- Nothing is dropped from what stands in front of an element that fails the test. -/
theorem dropEndWhile_append_of_not {p : Char → Bool} (cs : List Char) {c : Char} (ds : List Char)
    (h : p c = false) : dropEndWhile p (cs ++ c :: ds) = cs ++ c :: dropEndWhile p ds := by
  have hrev : (cs ++ c :: ds).reverse = ds.reverse ++ c :: cs.reverse := by simp
  rw [dropEndWhile, hrev, List.dropWhile_append]
  split
  · rename_i hnone
    rw [List.isEmpty_iff] at hnone
    simp [dropEndWhile, hnone, h]
  · simp [dropEndWhile]

theorem dropWhile_self (p : Char → Bool) (cs : List Char) :
    (cs.dropWhile p).dropWhile p = cs.dropWhile p := by
  induction cs with
  | nil => rfl
  | cons c cs ih =>
    by_cases h : p c = true
    · simpa [h] using ih
    · simp [h]

theorem dropEndWhile_self (p : Char → Bool) (cs : List Char) :
    dropEndWhile p (dropEndWhile p cs) = dropEndWhile p cs := by
  simp [dropEndWhile, dropWhile_self]

@[simp] theorem trimChars_nil : trimChars [] = [] := rfl

/-- **Trimming twice is trimming once.** -/
theorem trimChars_trimChars (cs : List Char) : trimChars (trimChars cs) = trimChars cs := by
  unfold trimChars
  cases h : cs.dropWhile isSpace with
  | nil => rfl
  | cons c ds =>
    have hc : isSpace c = false := by
      have := List.head?_dropWhile_not isSpace cs
      simpa [h] using this
    rw [dropEndWhile_cons_of_not ds hc]
    simp only [List.dropWhile_cons, hc, Bool.false_eq_true, if_false]
    rw [dropEndWhile_cons_of_not _ hc, dropEndWhile_self]

theorem trim_trim (s : String) : trim (trim s) = trim s := by
  simp [trim, trimChars_trimChars]

/-- Trimming makes no text blank that is not. -/
theorem isBlank_trim (s : String) : isBlank (trim s) = isBlank s := by
  simp only [isBlank, trim, String.toList_ofList]
  induction s.toList with
  | nil => rfl
  | cons c cs ih =>
    by_cases h : isSpace c = true
    · simpa [trimChars, h] using ih
    · have h' : isSpace c = false := by simpa using h
      simp [trimChars, h', dropEndWhile_cons_of_not _ h']

/-- **Trimming removes exactly the white space around a text.** The text `cs ++ [b]` starts
with a character that is no white space, as `b` is none. -/
theorem trimChars_append_space {ws vs cs : List Char} {b : Char} (hw : ws.all isSpace = true)
    (hv : vs.all isSpace = true) (ha : (cs ++ [b]).head?.any isSpace = false)
    (hb : isSpace b = false) : trimChars (ws ++ (cs ++ [b]) ++ vs) = cs ++ [b] := by
  have hstart : (cs ++ [b] ++ vs).dropWhile isSpace = cs ++ [b] ++ vs := by
    cases cs with
    | nil => simp [hb]
    | cons c cs => simp at ha; simp [ha]
  rw [trimChars, List.append_assoc, dropWhile_append_of_all _ hw, hstart,
    dropEndWhile_append_of_all _ hv]
  exact dropEndWhile_concat_of_not _ hb

/-! ## What is left -/

/-- What is left of a text without the white space around it: it neither starts nor ends with white
space, and there is nothing but white space around it. -/
structure Trimmed (cs t : List Char) : Prop where
  around : ∃ w v, w.all isSpace = true ∧ v.all isSpace = true ∧ cs = w ++ t ++ v
  first : t.head?.any isSpace = false
  last : t.getLast?.any isSpace = false

/-- What was dropped from the end of a text satisfies `p` throughout. -/
theorem dropEndWhile_split (p : Char → Bool) (cs : List Char) :
    ∃ v, v.all p = true ∧ cs = dropEndWhile p cs ++ v := by
  refine ⟨(cs.reverse.takeWhile p).reverse, ?_, ?_⟩
  · rw [List.all_reverse, List.all_takeWhile]
  · rw [dropEndWhile, ← List.reverse_append, List.takeWhile_append_dropWhile, List.reverse_reverse]

theorem trimmed_trimChars (cs : List Char) : Trimmed cs (trimChars cs) := by
  constructor
  · obtain ⟨v, hv, hcs⟩ := dropEndWhile_split isSpace (cs.dropWhile isSpace)
    refine ⟨cs.takeWhile isSpace, v, List.all_takeWhile, hv, ?_⟩
    rw [trimChars, List.append_assoc, ← hcs, List.takeWhile_append_dropWhile]
  · cases h : cs.dropWhile isSpace with
    | nil => rw [trimChars, h]; rfl
    | cons c ds =>
      have hc : isSpace c = false := by simpa [h] using List.head?_dropWhile_not isSpace cs
      rw [trimChars, h, dropEndWhile_cons_of_not ds hc]
      exact hc
  · have hlast := List.head?_dropWhile_not isSpace (cs.dropWhile isSpace).reverse
    rw [trimChars, dropEndWhile, List.getLast?_reverse]
    cases h : ((cs.dropWhile isSpace).reverse.dropWhile isSpace).head? with
    | none => rfl
    | some c => simpa [h] using hlast

/-- **What trimming leaves.** -/
theorem trimmed_iff {cs t : List Char} : Trimmed cs t ↔ t = trimChars cs := by
  constructor
  · rintro ⟨⟨w, v, hw, hv, rfl⟩, hfirst, hlast⟩
    rcases List.eq_nil_or_concat t with rfl | ⟨t, b, rfl⟩
    · have hall : (w ++ v).all isSpace = true := by rw [List.all_append, hw, hv]; rfl
      have hnone : (w ++ v).dropWhile isSpace = [] := by
        simpa using dropWhile_append_of_all [] hall
      rw [List.append_nil, trimChars, hnone]
      rfl
    · rw [List.concat_eq_append] at hfirst hlast ⊢
      refine (trimChars_append_space hw hv hfirst ?_).symm
      simpa using hlast
  · rintro rfl
    exact trimmed_trimChars cs

/-- White space around a text does not change what is left of it. -/
theorem trimChars_surrounded {ws vs : List Char} (hw : ws.all isSpace = true)
    (hv : vs.all isSpace = true) (cs : List Char) :
    trimChars (ws ++ cs ++ vs) = trimChars cs := by
  obtain ⟨⟨w, v, hw', hv', hcs⟩, hfirst, hlast⟩ := trimmed_trimChars cs
  refine (trimmed_iff.1 ⟨⟨ws ++ w, v ++ vs, ?_, ?_, ?_⟩, hfirst, hlast⟩).symm
  · rw [List.all_append, hw, hw']
    rfl
  · rw [List.all_append, hv, hv']
    rfl
  · calc ws ++ cs ++ vs = ws ++ (w ++ trimChars cs ++ v) ++ vs := by rw [← hcs]
      _ = ws ++ w ++ trimChars cs ++ (v ++ vs) := by simp only [List.append_assoc]

end CountryLookup.Text
