import CountryLookup.Proofs.Json.Documents
import CountryLookup.Proofs.Tiers
import CountryLookup.Run
import CountryLookup.Text.Fields

/-!
# What is reported

With JSON output each argument gets one line. Read as JSON, the line is an object that holds the
argument as it was given and the code, or the error's code and one-line form. Neither depends on
what the texts hold, since quotes, backslashes and line breaks are written as escapes.

Lookups follow each other: each works in the state that the one before it leaves, and a failure
changes the exit status and nothing else.

## Main results

* `Report.document?_json` — a written answer is read back.
* `lookupAll_serve` — the answers are those of a run of the resolver.
* `reportLookups_json` — one decodable line for each argument, and the exit status.
-/

namespace CountryLookup

/-! ## One answer -/

namespace Report

/-- What an answer says as JSON. -/
def document : Answer → Json.Document
  | (arg, .ok code) => .object [("code", .text code), ("ip", .text arg)]
  | (arg, .error e) =>
    .object
      [ ("error", .object [("code", .text e.code), ("message", .text e.simple)]),
        ("ip", .text arg) ]

/-- What a line says when it is read as JSON. -/
def document? (line : List Char) : Option Json.Document :=
  (Json.parse? (String.ofList line)).bind Json.Value.document?

theorem write_document (a : Answer) : (document a).write = json a := by
  obtain ⟨arg, result⟩ := a
  cases result <;> rfl

/-- **A written answer is read back.** -/
theorem document?_json (a : Answer) : document? (json a) = some (document a) := by
  rw [← write_document, document?]
  exact Json.parse?_write (document a)

/-- **Each answer gets a line of its own.** -/
theorem fields_output (answers : List Answer) :
    Text.fields '\n' (String.join (answers.map fun a => output true a)).toList =
      answers.map json ++ [[]] := by
  have hline : ∀ a, (output true a).toList = json a ++ ['\n'] := by
    intro a
    rw [output, if_pos rfl, String.toList_ofList]
  have hall : (String.join (answers.map fun a => output true a)).toList =
      (answers.map json).flatMap fun l => l ++ ['\n'] := by
    rw [String.toList_join, List.flatMap_map, List.flatMap_map]
    exact congrArg (answers.flatMap ·) (funext hline)
  rw [hall]
  apply Text.fields_terminated
  intro l hl
  obtain ⟨a, -, rfl⟩ := List.mem_map.1 hl
  exact newline_not_mem_json a

end Report

/-! ## Lookups one after the other -/

/-- The call that looks an argument up. -/
def Resolver.callOf (file : Option Entry) (arg : String) : Resolver.Call := ⟨file, .text arg⟩

/-- A lookup gives a result if every question to the remote service does. -/
theorem Resolver.lookup_returns (r : Resolver) (hr : r.Returns) (file : Option Entry) (x : Address)
    (st : ResolverState) : ∃ result, (r.lookup file x st).1 = .returns result := by
  cases hf : r.firstTier? st.asked.length x with
  | some code => exact ⟨_, (r.lookup_of_firstTier file x st hf).1⟩
  | none => exact ⟨_, (r.lookup_of_no_firstTier hr file x st hf).1⟩

theorem Resolver.lookupText_returns (r : Resolver) (hr : r.Returns) (file : Option Entry)
    (arg : String) (st : ResolverState) :
    ∃ result, (r.lookupText file arg st).1 = .returns result := by
  unfold lookupText
  cases Address.parse arg with
  | ok x => exact r.lookup_returns hr file x st
  | error e => exact ⟨.error e, rfl⟩

/-- **The answers are those of a run**: each argument is looked up, in the state that the lookups
before it leave, whether they failed or not. -/
theorem lookupAll_serve (r : Resolver) (hr : r.Returns) (file : Option Entry) (args : List String)
    (st : ResolverState) :
    ∃ results : List CodeResult,
      (r.serve (args.map (Resolver.callOf file)) st).1 =
          results.map (fun result => .code (.returns result)) ∧
        results.length = args.length ∧
        (lookupAll r file st args).1.map (·.1) = args.zip results := by
  induction args generalizing st with
  | nil => exact ⟨[], rfl, rfl, rfl⟩
  | cons arg args ih =>
      obtain ⟨result, hresult⟩ := r.lookupText_returns hr file arg st
      obtain ⟨results, hserve, hlength, hanswers⟩ := ih (r.lookupText file arg st).2
      refine ⟨result :: results, ?_, ?_, ?_⟩
      · rw [List.map_cons, Resolver.serve, List.map_cons, ← hserve, ← hresult]
        rfl
      · rw [List.length_cons, List.length_cons, hlength]
      · rw [lookupAll, List.map_cons, hanswers, hresult]
        rfl

/-! ## The report -/

theorem failed_eq_false_iff (a : Report.Answer) :
    Report.failed a = false ↔ ∃ code, a.2 = .ok code := by
  obtain ⟨arg, result⟩ := a
  cases result <;> simp [Report.failed]

/-- No answer is a failure if no result is one, since each result is in an answer. -/
theorem any_failed_zip {args : List String} {results : List CodeResult}
    (h : results.length = args.length) :
    (args.zip results).any Report.failed = false ↔
      ∀ result ∈ results, ∃ code, result = .ok code := by
  have hresults : (args.zip results).map Prod.snd = results :=
    List.map_snd_zip (Nat.le_of_eq h)
  constructor
  · intro hnone result hmem
    rw [← hresults] at hmem
    obtain ⟨a, ha, rfl⟩ := List.mem_map.1 hmem
    have hfine := List.any_eq_false.1 hnone a ha
    exact (failed_eq_false_iff a).1 (Bool.eq_false_iff.2 hfine)
  · intro hall
    apply List.any_eq_false.2
    intro a ha
    have hmem : a.2 ∈ results := (List.of_mem_zip ha).2
    exact Bool.eq_false_iff.1 ((failed_eq_false_iff a).2 (hall a.2 hmem))

/-- **With JSON output a report is one line for each argument**: read as JSON, the line tells the
argument as it was given with the result of its lookup. Every argument is looked up, and the exit
status says whether all of them succeeded. -/
theorem reportLookups_json (r : Resolver) (hr : r.Returns) (file : Option Entry)
    (st : ResolverState) (files : FileTree) (colour : Bool) (args : List String) :
    ∃ (results : List CodeResult) (lines : List (List Char)),
      (r.serve (args.map (Resolver.callOf file)) st).1 =
          results.map (fun result => .code (.returns result)) ∧
        results.length = args.length ∧
        Text.fields '\n' (reportLookups r file st files colour true args).output.toList =
          lines ++ [[]] ∧
        lines.length = args.length ∧
        lines.map Report.document? = (args.zip results).map (fun a => some (Report.document a)) ∧
        ((reportLookups r file st files colour true args).status = 0 ↔
          ∀ result ∈ results, ∃ code, result = .ok code) ∧
        (reportLookups r file st files colour true args).status ≤ 1 := by
  obtain ⟨results, hserve, hlength, hanswers⟩ := lookupAll_serve r hr file args st
  refine ⟨results, (args.zip results).map Report.json, hserve, hlength, ?_, ?_, ?_, ?_, ?_⟩
  · have hfields := Report.fields_output ((lookupAll r file st args).1.map (·.1))
    rw [List.map_map, hanswers] at hfields
    exact hfields
  · rw [List.length_map, List.length_zip, hlength, Nat.min_self]
  · rw [List.map_map]
    exact List.map_congr_left fun a _ => Report.document?_json a
  · have hany : (lookupAll r file st args).1.any (fun a => Report.failed a.1) =
        (args.zip results).any Report.failed := by
      rw [← hanswers, List.any_map]
      rfl
    rw [← any_failed_zip hlength, ← hany]
    simp [reportLookups]
  · simp only [reportLookups]
    split <;> omega

/-- An argument with quotes, a backslash, a line break and a control character, between two
addresses. -/
def oddArguments : List String := ["8.8.8.8", "a\"\\\n\x01é", "8.8.8.8"]

/-- Their results: the missing database, a refusal, and the code that the service has then. -/
def oddResults : List CodeResult :=
  [.error ⟨.databaseInitFailed, "external database unavailable and embedded database is missing"⟩,
    .error ⟨.invalidInput, "invalid ip address: a\"\\\n\x01é"⟩, .ok "us"]

theorem reportLookups_json_oddArguments :
    Resolver.fickle.Returns ∧
      ∃ lines, Text.fields '\n'
          (reportLookups Resolver.fickle none {} ⟨[], []⟩ false true oddArguments).output.toList =
            lines ++ [[]] ∧
        lines.map Report.document? =
          (oddArguments.zip oddResults).map (fun a => some (Report.document a)) ∧
        (reportLookups Resolver.fickle none {} ⟨[], []⟩ false true oddArguments).status ≠ 0 := by
  refine ⟨Resolver.fickle_returns, ?_⟩
  obtain ⟨results, lines, hserve, -, hfields, -, hread, hstatus, -⟩ :=
    reportLookups_json Resolver.fickle Resolver.fickle_returns none {} ⟨[], []⟩ false oddArguments
  have hodd : (Resolver.fickle.serve (oddArguments.map (Resolver.callOf none)) {}).1 =
      oddResults.map (fun result => .code (.returns result)) := by
    rfl
  have hresults : results = oddResults := by
    apply (List.map_inj_right _).1 (hserve.symm.trans hodd)
    intro x y hxy
    exact CallOutcome.returns.inj (Resolver.Response.code.inj hxy)
  subst hresults
  refine ⟨lines, hfields, hread, ?_⟩
  intro hzero
  obtain ⟨code, hcode⟩ := hstatus.1 hzero _ List.mem_cons_self
  cases hcode

end CountryLookup
