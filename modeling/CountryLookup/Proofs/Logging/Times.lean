import CountryLookup.Proofs.Text.Digits
import CountryLookup.Run

/-!
# Times in a log

Every line of a log carries the time at which it was written, so no two runs write the same log.
What they write can still be the same up to that: the same texts, with the times of the one clock
where the other has the times of the other. The lines of an event are so, in every format, and hence
what the same notices write is so, to the log's file and to the error stream.

## Main results

* `SameUpToTime.eq` — with one clock, what is the same up to time is the same.
* `sameUpToTime_line` — the lines of one event.
* `sameUpToTime_writeNotices` — what the same notices write.
-/

namespace CountryLookup.Logging

open Text

/-- Two texts that are the same but for the times in them: where one has the `n`-th time of its
clock, the other has the `n`-th time of its own. -/
inductive SameUpToTime (clock clock' : Nat → Instant) : String → String → Prop
  | text (s : String) : SameUpToTime clock clock' s s
  | stamp (n : Nat) : SameUpToTime clock clock' (clock n).stamp (clock' n).stamp
  | append {a a' b b' : String} (ha : SameUpToTime clock clock' a a')
      (hb : SameUpToTime clock clock' b b') : SameUpToTime clock clock' (a ++ b) (a' ++ b')

/-! ## Stamps -/

/-- A text that stands in a JSON string as it is. -/
def Unescaped (s : String) : Prop := s.toList.flatMap Json.escapeChar = s.toList

theorem Unescaped.append {s s' : String} (h : Unescaped s) (h' : Unescaped s') :
    Unescaped (s ++ s') := by
  rw [Unescaped, String.toList_append, List.flatMap_append, h, h']

theorem flatMap_escapeChar {cs : List Char} (h : ∀ c ∈ cs, Json.escapeChar c = [c]) :
    cs.flatMap Json.escapeChar = cs := by
  induction cs with
  | nil => rfl
  | cons c cs ih =>
      rw [List.flatMap_cons, h c List.mem_cons_self, ih fun d hd => h d (List.mem_cons_of_mem c hd)]
      rfl

theorem unescaped_padZero (width n : Nat) : Unescaped (padZero width (decimal n)) := by
  apply flatMap_escapeChar
  intro c hc
  have hdigits : ∀ d < 10, Json.escapeChar (Nat.digitChar d) = [Nat.digitChar d] := by decide
  rw [padZero, String.toList_append, String.toList_ofList, toList_decimal, List.mem_append] at hc
  rcases hc with hc | hc
  · rw [List.eq_of_mem_replicate hc]
    rfl
  · exact of_mem_toDigits (p := fun c => Json.escapeChar c = [c]) (by decide) hdigits hc

/-- A stamp stands in a JSON string as it is. -/
theorem unescaped_stamp (t : Instant) : Unescaped t.stamp := by
  have hdash : Unescaped "-" := rfl
  have hcolon : Unescaped ":" := rfl
  have hdate : Unescaped t.date :=
    ((((unescaped_padZero _ _).append hdash).append (unescaped_padZero _ _)).append hdash).append
      (unescaped_padZero _ _)
  have htee : Unescaped "T" := rfl
  have hpoint : Unescaped "." := rfl
  have hzulu : Unescaped "Z" := rfl
  exact ((((((((hdate.append htee).append (unescaped_padZero _ _)).append hcolon).append
    (unescaped_padZero _ _)).append hcolon).append (unescaped_padZero _ _)).append hpoint).append
    (unescaped_padZero _ _)).append hzulu

theorem stamp_ne_empty (t : Instant) : t.stamp ≠ "" := by
  intro h
  have hmem : 'T' ∈ t.stamp.toList := by simp [Instant.stamp]
  rw [h] at hmem
  cases hmem

/-! ## Texts -/

section Texts

variable {clock clock' : Nat → Instant}

/-- **With one clock, what is the same up to time is the same.** -/
theorem SameUpToTime.eq {a b : String} (h : SameUpToTime clock clock a b) : a = b := by
  induction h with
  | text s => rfl
  | stamp n => rfl
  | append _ _ iha ihb => rw [iha, ihb]

/-- Nothing is the same as nothing only. -/
theorem SameUpToTime.eq_empty_iff {a b : String} (h : SameUpToTime clock clock' a b) :
    a = "" ↔ b = "" := by
  induction h with
  | text s => exact Iff.rfl
  | stamp n => exact iff_of_false (stamp_ne_empty _) (stamp_ne_empty _)
  | append _ _ iha ihb => rw [String.append_eq_empty_iff, String.append_eq_empty_iff, iha, ihb]

/-- An object whose first member is a text that stands as it is, taken apart around that text. -/
theorem writeObject_unescaped (k : String) {s : String} (h : Unescaped s)
    {ms : List (String × List Char)} (hms : ms ≠ []) :
    String.ofList (Json.writeObject ((k, Json.quote s) :: ms)) =
      String.ofList ('\x7b' :: (Json.quote k ++ [':', '"'])) ++ s ++
        String.ofList ('"' :: ',' :: (Json.writeMembers ms ++ ['\x7d'])) := by
  apply String.toList_inj.1
  have hquote : Json.quote s = '"' :: (s.toList ++ ['"']) := by
    rw [Json.quote, h, List.cons_append]
  rw [Json.writeObject, Json.writeMembers, hquote]
  · simp
  · exact hms

/-- **The lines of one event are the same up to time.** -/
theorem sameUpToTime_line (format : LineFormat) (n : Nat) (e : Event) :
    SameUpToTime clock clock' (line format (clock n).stamp e) (line format (clock' n).stamp e) := by
  cases format with
  | words =>
      exact (((((SameUpToTime.stamp n).append (.text " ")).append (.text _)).append
        (.text " ")).append (.text _)).append (.text ": ") |>.append (.text _)
  | colouredWords =>
      have htime : SameUpToTime clock clock' (styled dim (clock n).stamp)
          (styled dim (clock' n).stamp) :=
        ((SameUpToTime.text _).append (.stamp n)).append (.text _)
      exact ((((((htime.append (.text " ")).append (.text _)).append (.text " ")).append
        (.text _)).append (.text _)).append (.text " ")).append (.text _)
  | json =>
      simp only [line, writeObject_unescaped _ (unescaped_stamp _) (List.cons_ne_nil _ _)]
      exact ((SameUpToTime.text _).append (.stamp n)).append (.text _)

variable (clock clock') in
/-- **The same notices write the same up to time**, to the log's file and to the error stream. -/
theorem sameUpToTime_writeNotices (l : Logger) (n : Nat) (notices : List Notice) :
    SameUpToTime clock clock' (writeNotices l clock n notices).1
        (writeNotices l clock' n notices).1 ∧
      SameUpToTime clock clock' (writeNotices l clock n notices).2
        (writeNotices l clock' n notices).2 := by
  induction notices generalizing n with
  | nil => exact ⟨.text "", .text ""⟩
  | cons notice rest ih =>
      cases notice with
      | text s => exact ⟨(ih n).1, (SameUpToTime.text s).append (ih n).2⟩
      | event e =>
          rw [writeNotices, writeNotices]
          by_cases he : l.filter.enabled e = true
          · rw [if_pos he, if_pos he]
            have hline : SameUpToTime clock clock' (line l.format (clock n).stamp e ++ "\n")
                (line l.format (clock' n).stamp e ++ "\n") :=
              (sameUpToTime_line l.format n e).append (.text "\n")
            obtain ⟨hlog, herrors⟩ := ih (n + 1)
            cases l.sink with
            | errorStream => exact ⟨hlog, hline.append herrors⟩
            | file path => exact ⟨hline.append hlog, herrors⟩
          · rw [if_neg he, if_neg he]
            exact ih n

end Texts

end CountryLookup.Logging
