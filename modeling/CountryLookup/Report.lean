import CountryLookup.Error
import CountryLookup.Json.Printer

/-!
# Reporting results

A looked-up address is reported as words or as a JSON object on one line. Words go to the output if
there is a code, and to the error stream if there is none; JSON goes to the output in both cases.

## Main results

* `newline_not_mem_json` — a JSON report is one line, whatever the argument holds.
-/

namespace CountryLookup.Report

/-- What is reported: an argument and what its lookup gave. -/
abbrev Answer := String × CodeResult

/-- Whether the lookup failed. -/
def failed (a : Answer) : Bool :=
  match a.2 with
  | .ok _ => false
  | .error _ => true

/-- The JSON object of an answer, without the end of the line. -/
def json (a : Answer) : List Char :=
  match a.2 with
  | .ok code => Json.writeObject [("code", Json.quote code), ("ip", Json.quote a.1)]
  | .error e =>
    Json.writeObject
      [ ("error", Json.writeObject [("code", Json.quote e.code), ("message", Json.quote e.simple)]),
        ("ip", Json.quote a.1) ]

/-- What an answer writes to the output. -/
def output (asJson : Bool) (a : Answer) : String :=
  if asJson then String.ofList (json a ++ ['\n'])
  else match a.2 with
    | .ok code => a.1 ++ " " ++ code ++ "\n"
    | .error _ => ""

/-- What an answer writes to the error stream. -/
def errors (asJson colour : Bool) (a : Answer) : String :=
  if asJson then ""
  else match a.2 with
    | .ok _ => ""
    | .error e => a.1 ++ ": " ++ e.coloured colour ++ "\n"

theorem newline_not_mem_writeMembers {ms : List (String × List Char)}
    (h : ∀ m ∈ ms, '\n' ∉ m.2) : '\n' ∉ Json.writeMembers ms := by
  induction ms with
  | nil => simp [Json.writeMembers]
  | cons m ms ih =>
    obtain ⟨k, v⟩ := m
    have hk := Json.newline_not_mem_quote k
    have hv : '\n' ∉ v := h (k, v) (by simp)
    cases ms with
    | nil => simp [Json.writeMembers, hk, hv]
    | cons m' ms =>
      have hr := ih fun m hm => h m (by simp [hm])
      simp [Json.writeMembers, hk, hv, hr]

theorem newline_not_mem_writeObject {ms : List (String × List Char)}
    (h : ∀ m ∈ ms, '\n' ∉ m.2) : '\n' ∉ Json.writeObject ms := by
  simp [Json.writeObject, newline_not_mem_writeMembers h]

/-- **A JSON report is one line.** -/
theorem newline_not_mem_json (a : Answer) : '\n' ∉ json a := by
  unfold json
  split
  · exact newline_not_mem_writeObject (by simp [Json.newline_not_mem_quote])
  · refine newline_not_mem_writeObject ?_
    simp only [List.mem_cons, List.not_mem_nil, or_false, forall_eq_or_imp, forall_eq]
    exact ⟨newline_not_mem_writeObject (by simp [Json.newline_not_mem_quote]),
      Json.newline_not_mem_quote _⟩

end CountryLookup.Report
