import CountryLookup.Error
import CountryLookup.Text.Runs

/-!
# Texts without their styles

A control sequence that sets or resets styles is an escape character, a bracket, digits and
semicolons, and the letter `m`. Deleting these sequences from the left to the right gives what a
terminal shows, without its colours.

Colouring puts sequences around a text, and behind every reset inside it. All of them are deleted
again, and nothing else is, since each place where one is put is a place between sequences: a
sequence holds one escape character, its first, so what stands in front of another escape character
never begins a sequence that goes on behind it. What a message holds, such as sequences of its own,
the beginnings of some, or resets, makes no difference.

## Main results

* `behindStyle?_eq_some_iff` — what is deleted at the head of a text.
* `unstyled_append_escape` — no sequence goes on over an escape character.
* `unstyled_restyle` — setting the style again after each reset is not seen.
* `unstyled_coloured` — an error in colours says what it says without.
-/

namespace CountryLookup

namespace Text

/-! ## Sequences -/

/-- A digit or a semicolon. -/
def isParameter (c : Char) : Bool := c.isDigit || c == ';'

/-- A sequence that sets or resets styles. -/
def IsStyle (w : List Char) : Prop :=
  ∃ ps : List Char, ps.all isParameter = true ∧ w = escapeChar :: '[' :: (ps ++ ['m'])

/-- What stands behind the sequence that a text begins with. -/
def behindStyle? : List Char → Option (List Char)
  | '\x1b' :: '[' :: cs =>
    match cs.dropWhile isParameter with
    | 'm' :: rest => some rest
    | _ => none
  | _ => none

/-- **What is deleted at the head of a text** is a sequence, and every sequence there is. -/
theorem behindStyle?_eq_some_iff {cs rest : List Char} :
    behindStyle? cs = some rest ↔ ∃ w, IsStyle w ∧ cs = w ++ rest := by
  constructor
  · intro h
    unfold behindStyle? at h
    split at h
    · rename_i ds
      split at h
      · rename_i tail hdrop
        cases h
        refine ⟨_, ⟨ds.takeWhile isParameter, List.all_takeWhile, rfl⟩, ?_⟩
        have hcut := List.takeWhile_append_dropWhile (p := isParameter) (l := ds)
        rw [hdrop] at hcut
        simp [escapeChar, hcut]
      · cases h
    · cases h
  · rintro ⟨w, ⟨ps, hps, rfl⟩, rfl⟩
    have hdrop : (ps ++ 'm' :: rest).dropWhile isParameter = 'm' :: rest :=
      dropWhile_run hps (by decide) rest
    simp [behindStyle?, escapeChar, hdrop]

theorem length_behindStyle?_lt {cs rest : List Char} (h : behindStyle? cs = some rest) :
    rest.length < cs.length := by
  obtain ⟨w, ⟨ps, -, rfl⟩, rfl⟩ := behindStyle?_eq_some_iff.1 h
  simp
  omega

theorem behindStyle?_of_ne {c : Char} (h : c ≠ escapeChar) (cs : List Char) :
    behindStyle? (c :: cs) = none := by
  unfold behindStyle?
  split
  · rename_i heq
    exact absurd (List.cons.inj heq).1 h
  · rfl

/-! ## Deletion -/

/-- A text without its sequences, deleted from the left to the right. -/
def unstyled (cs : List Char) : List Char :=
  match cs with
  | [] => []
  | c :: cs =>
    match _h : behindStyle? (c :: cs) with
    | some rest => unstyled rest
    | none => c :: unstyled cs
termination_by cs.length
decreasing_by
  · exact length_behindStyle?_lt _h
  · exact Nat.lt_succ_self _

theorem unstyled_nil : unstyled [] = [] := by rw [unstyled]

theorem unstyled_of_behind {cs rest : List Char} (h : behindStyle? cs = some rest) :
    unstyled cs = unstyled rest := by
  cases cs with
  | nil => cases h
  | cons c cs =>
      rw [unstyled]
      split
      · rename_i found hfound
        rw [h] at hfound
        cases hfound
        rfl
      · rename_i hnone
        rw [h] at hnone
        cases hnone

theorem unstyled_cons {c : Char} {cs : List Char} (h : behindStyle? (c :: cs) = none) :
    unstyled (c :: cs) = c :: unstyled cs := by
  rw [unstyled]
  split
  · rename_i rest hfound
    rw [h] at hfound
    cases hfound
  · rfl

/-- A sequence is deleted. -/
theorem unstyled_style {w : List Char} (h : IsStyle w) (cs : List Char) :
    unstyled (w ++ cs) = unstyled cs :=
  unstyled_of_behind (behindStyle?_eq_some_iff.2 ⟨w, h, rfl⟩)

/-- Text without an escape character stays. -/
theorem unstyled_plain {w : List Char} (h : escapeChar ∉ w) (cs : List Char) :
    unstyled (w ++ cs) = w ++ unstyled cs := by
  induction w with
  | nil => rfl
  | cons c w ih =>
      rw [List.mem_cons, not_or] at h
      rw [List.cons_append, unstyled_cons (behindStyle?_of_ne (Ne.symm h.1) _), ih h.2,
        List.cons_append]

/-- A bracket behind the escape character, and then parameters, make the head of a sequence. -/
theorem behindStyle?_bracket (cs : List Char) :
    behindStyle? (escapeChar :: '[' :: cs) =
      match cs.dropWhile isParameter with
      | 'm' :: rest => some rest
      | _ => none := rfl

theorem behindStyle?_of_ne_bracket {c : Char} (h : c ≠ '[') (cs : List Char) :
    behindStyle? (escapeChar :: c :: cs) = none := by
  unfold behindStyle?
  split
  · rename_i heq
    exact absurd (List.cons.inj (List.cons.inj heq).2).1 h
  · rfl

/-- What is deleted in front of an escape character ends before it. -/
theorem behindStyle?_append_escape {cs : List Char} (h : cs ≠ []) (ds : List Char) :
    behindStyle? (cs ++ escapeChar :: ds) = (behindStyle? cs).map (· ++ escapeChar :: ds) := by
  obtain ⟨c, cs, rfl⟩ := List.exists_cons_of_ne_nil h
  by_cases hc : c = escapeChar
  · subst hc
    cases cs with
    | nil => exact behindStyle?_of_ne_bracket (by decide) ds
    | cons c cs =>
        by_cases hb : c = '['
        · subst hb
          -- the parameters end at the escape character, if not before it
          have hdrop : (cs ++ escapeChar :: ds).dropWhile isParameter =
              cs.dropWhile isParameter ++ escapeChar :: ds := by
            rw [List.dropWhile_append]
            split
            · rename_i hnil
              rw [List.isEmpty_iff.1 hnil]
              rfl
            · rfl
          rw [List.cons_append, List.cons_append, behindStyle?_bracket, behindStyle?_bracket, hdrop]
          cases cs.dropWhile isParameter with
          | nil => rfl
          | cons e es =>
              by_cases hm : e = 'm'
              · subst hm
                rfl
              · simp [hm]
        · exact (behindStyle?_of_ne_bracket hb _).trans
            (by rw [behindStyle?_of_ne_bracket hb]; rfl)
  · exact (behindStyle?_of_ne hc _).trans (by rw [behindStyle?_of_ne hc]; rfl)

/-- **No sequence goes on over an escape character**, so that a text may be cut in front of one. -/
theorem unstyled_append_escape (cs ds : List Char) :
    unstyled (cs ++ escapeChar :: ds) = unstyled cs ++ unstyled (escapeChar :: ds) := by
  fun_induction unstyled cs with
  | case1 => rfl
  | case2 c cs rest h ih =>
      have hlonger := behindStyle?_append_escape (List.cons_ne_nil c cs) ds
      rw [h, Option.map_some] at hlonger
      rw [unstyled_of_behind hlonger, ih]
  | case3 c cs h ih =>
      have hlonger := behindStyle?_append_escape (List.cons_ne_nil c cs) ds
      rw [h, Option.map_none] at hlonger
      rw [List.cons_append] at hlonger
      rw [List.cons_append, unstyled_cons hlonger, ih, List.cons_append]

/-- What is left may be a sequence: the text is gone through once. -/
example : unstyled "\x1b[\x1b[0m31m".toList = "\x1b[31m".toList := by cbv

/-! ## Colouring -/

theorem isStyle_styleOn {style : String} (h : style.toList.all isParameter = true) :
    IsStyle (styleOn style) := ⟨style.toList, h, rfl⟩

section Restyle

variable {style : String}

theorem restyle_reset (cs : List Char) :
    restyle style (styleOn "0" ++ cs) = styleOn "0" ++ (styleOn style ++ restyle style cs) := rfl

/-- A character stays where it is, unless a reset begins with it. -/
theorem restyle_cons {c : Char} {cs : List Char} (h : ∀ rest, c :: cs ≠ styleOn "0" ++ rest) :
    restyle style (c :: cs) = c :: restyle style cs := by
  rw [restyle]
  rintro rest rfl rfl
  exact h rest rfl

theorem restyle_of_ne {c : Char} (h : c ≠ escapeChar) (cs : List Char) :
    restyle style (c :: cs) = c :: restyle style cs :=
  restyle_cons fun _ heq => h (List.cons.inj heq).1

/-- A coloured text starts as the text does. -/
theorem restyle_head (style : String) (c : Char) (cs : List Char) : ∃ ds, restyle style (c :: cs) = c :: ds := by
  unfold restyle
  split
  · rename_i heq
    exact ⟨_, congrArg (· :: _) (List.cons.inj heq).1.symm⟩
  · rename_i heq
    exact ⟨_, congrArg (· :: _) (List.cons.inj heq).1.symm⟩
  · rename_i heq
    cases heq

theorem dropWhile_restyle (cs : List Char) :
    (restyle style cs).dropWhile isParameter = restyle style (cs.dropWhile isParameter) := by
  induction cs with
  | nil => rfl
  | cons c cs ih =>
      by_cases hc : isParameter c = true
      · have hne : c ≠ escapeChar := by
          rintro rfl
          exact absurd hc (by decide)
        rw [restyle_of_ne hne, List.dropWhile_cons_of_pos hc, List.dropWhile_cons_of_pos hc, ih]
      · obtain ⟨ds, hds⟩ := restyle_head style c cs
        rw [List.dropWhile_cons_of_neg hc, hds, List.dropWhile_cons_of_neg hc]

/-- Colouring leaves a sequence together, and what stands behind it is coloured. -/
theorem behindStyle?_cons_restyle (style : String) (c : Char) (cs : List Char) :
    behindStyle? (c :: restyle style cs) = (behindStyle? (c :: cs)).map (restyle style) := by
  by_cases hc : c = escapeChar
  · subst hc
    cases cs with
    | nil => rfl
    | cons c cs =>
        by_cases hb : c = '['
        · subst hb
          rw [restyle_of_ne (by decide), behindStyle?_bracket, behindStyle?_bracket,
            dropWhile_restyle]
          cases cs.dropWhile isParameter with
          | nil => rfl
          | cons e es =>
              by_cases hm : e = 'm'
              · subst hm
                rw [restyle_of_ne (by decide)]
                rfl
              · obtain ⟨ds, hds⟩ := restyle_head style e es
                simp [hds, hm]
        · obtain ⟨ds, hds⟩ := restyle_head style c cs
          rw [hds, behindStyle?_of_ne_bracket hb, behindStyle?_of_ne_bracket hb]
          rfl
  · rw [behindStyle?_of_ne hc, behindStyle?_of_ne hc]
    rfl

/-- **Setting the style again after each reset is not seen.** -/
theorem unstyled_restyle (h : style.toList.all isParameter = true) (cs : List Char) :
    unstyled (restyle style cs) = unstyled cs := by
  have hreset : IsStyle (styleOn "0") := isStyle_styleOn (by decide)
  fun_induction unstyled cs with
  | case1 => exact unstyled_nil
  | case2 c cs rest hrest ih =>
      by_cases hr : ∃ tail, c :: cs = styleOn "0" ++ tail
      · obtain ⟨tail, htail⟩ := hr
        have hbehind := behindStyle?_eq_some_iff.2 ⟨_, hreset, htail⟩
        rw [hrest] at hbehind
        cases hbehind
        rw [htail, restyle_reset, unstyled_style hreset, unstyled_style (isStyle_styleOn h), ih]
      · have hbehind := behindStyle?_cons_restyle style c cs
        rw [hrest, Option.map_some] at hbehind
        rw [restyle_cons fun tail htail => hr ⟨tail, htail⟩, unstyled_of_behind hbehind, ih]
  | case3 c cs hnone ih =>
      have hbehind := behindStyle?_cons_restyle style c cs
      rw [hnone, Option.map_none] at hbehind
      have hcons : restyle style (c :: cs) = c :: restyle style cs := by
        refine restyle_cons fun tail htail => ?_
        rw [behindStyle?_eq_some_iff.2 ⟨_, hreset, htail⟩] at hnone
        cases hnone
      rw [hcons, unstyled_cons hbehind, ih]

/-- **A text in a style is the text**, whatever stands behind it. -/
theorem unstyled_painted (h : style.toList.all isParameter = true) (s : String) (cs : List Char) :
    unstyled ((painted style s).toList ++ cs) = unstyled s.toList ++ unstyled cs := by
  have hlist : (painted style s).toList ++ cs =
      styleOn style ++ (restyle style s.toList ++ escapeChar :: (['[', '0', 'm'] ++ cs)) := by
    rw [painted, String.toList_ofList, List.append_assoc, List.append_assoc]
    rfl
  have hreset : unstyled (escapeChar :: (['[', '0', 'm'] ++ cs)) = unstyled cs :=
    unstyled_style (w := styleOn "0") (isStyle_styleOn (by decide)) cs
  rw [hlist, unstyled_style (isStyle_styleOn h), unstyled_append_escape, unstyled_restyle h, hreset]

/-- Words without an escape character are seen as they are, in a style or not. -/
theorem unstyled_paint_words (h : style.toList.all isParameter = true) (colour : Bool) {s : String}
    (hs : escapeChar ∉ s.toList) (cs : List Char) :
    unstyled ((paint colour style s).toList ++ cs) = s.toList ++ unstyled cs := by
  cases colour with
  | false => exact unstyled_plain hs cs
  | true =>
      have hwords := unstyled_plain hs []
      rw [List.append_nil, unstyled_nil, List.append_nil] at hwords
      exact (unstyled_painted h s cs).trans (by rw [hwords])

/-- Any text is seen without its own sequences, in a style or not. -/
theorem unstyled_paint (h : style.toList.all isParameter = true) (colour : Bool) (s : String) :
    unstyled (paint colour style s).toList = unstyled s.toList := by
  cases colour with
  | false => rfl
  | true =>
      have hpainted := unstyled_painted h s []
      rw [List.append_nil, unstyled_nil, List.append_nil] at hpainted
      exact hpainted

end Restyle

end Text

/-! ## Errors -/

namespace LookupError

open Text

/-- No mark, code or title holds an escape character. -/
theorem escape_not_mem (k : ErrorKind) :
    escapeChar ∉ "[ERROR]".toList ∧ escapeChar ∉ k.code.toList ∧ escapeChar ∉ k.title.toList := by
  cases k <;> decide

/-- What is seen of an error on a terminal: the mark, the code, the title, and of the message all but
its sequences. -/
theorem unstyled_coloured_eq (e : LookupError) (colour : Bool) :
    unstyled (e.coloured colour).toList =
      "[ERROR]".toList ++ ' ' :: (e.code.toList ++ ' ' :: (e.kind.title.toList ++
        '\n' :: ' ' :: ' ' :: unstyled e.message.toList)) := by
  obtain ⟨hmark, hcode, htitle⟩ : _ ∧ escapeChar ∉ e.code.toList ∧ _ := escape_not_mem e.kind
  have hlist : (e.coloured colour).toList =
      (paint colour "1;31" "[ERROR]").toList ++ ([' '] ++ ((paint colour "33" e.code).toList ++
        ([' '] ++ ((paint colour "31" e.kind.title).toList ++
          (['\n', ' ', ' '] ++ (paint colour "37" e.message).toList))))) := by
    simp [coloured]
  rw [hlist, unstyled_paint_words (by decide) colour hmark, unstyled_plain (by decide),
    unstyled_paint_words (by decide) colour hcode, unstyled_plain (by decide),
    unstyled_paint_words (by decide) colour htitle, unstyled_plain (by decide),
    unstyled_paint (by decide)]
  rfl

/-- **Colours are presentation only.** For every kind and message, the error in colours and the error
without them are the same text when their sequences are deleted, from the left to the right; and
without colours it is the mark, the code, the title, and below them the message as it is. -/
theorem unstyled_coloured (e : LookupError) :
    unstyled (e.coloured true).toList = unstyled (e.coloured false).toList ∧
      e.coloured false = "[ERROR] " ++ e.code ++ " " ++ e.kind.title ++ "\n  " ++ e.message := by
  refine ⟨?_, e.coloured_false⟩
  rw [unstyled_coloured_eq, unstyled_coloured_eq]

end LookupError

end CountryLookup
