import CountryLookup.Proofs.Address.Grammar
import CountryLookup.Proofs.Bundled
import CountryLookup.Proofs.Reports

/-!
# Reports in words

Without JSON output a lookup that succeeds writes the argument as it was given, a space, the code and
the end of the line, and a lookup that fails writes nothing to the output. Nothing is escaped. So the
output is one line for each success as long as neither the argument nor the code has a line break in
it, and each break that they have makes one more.

The text of an address has no break, but white space around it belongs to the argument, and a line
break is white space; and the code is whatever text a database holds.

## Main results

* `toList_output` — what is written, pair by pair.
* `count_lines` — how many lines there are.
* `reportLookups_text` — when the lines are the pairs.
* `reportLookups_text_broken` — an argument that is written on two lines.
-/

namespace CountryLookup

open Text

namespace Report

/-! ## What is written -/

/-- Argument and code of an answer that has a code. -/
def success? : Answer → Option (String × String)
  | (arg, .ok code) => some (arg, code)
  | (_, .error _) => none

/-- What is written for a success, without the end of the line. -/
def line (p : String × String) : List Char := p.1.toList ++ ' ' :: p.2.toList

/-- **The output is a line for each success**, in order. -/
theorem toList_output (answers : List Answer) :
    (String.join (answers.map fun a => output false a)).toList =
      ((answers.filterMap success?).map line).flatMap fun l => l ++ ['\n'] := by
  induction answers with
  | nil => rfl
  | cons a answers ih =>
      obtain ⟨arg, result⟩ := a
      rw [List.map_cons, String.join_cons, String.toList_append, ih]
      cases result with
      | ok code =>
          have hline : (output false (arg, .ok code)).toList = line (arg, code) ++ ['\n'] := by
            simp [output, line]
          rw [hline]
          rfl
      | error e => rfl

/-- **Each line ends once, and each break in it makes one more.** -/
theorem count_lines (ls : List (List Char)) :
    (ls.flatMap fun l => l ++ ['\n']).count '\n' = ls.length + ls.flatten.count '\n' := by
  induction ls with
  | nil => rfl
  | cons l ls ih =>
      have hline : (l ++ ['\n']).count '\n' = l.count '\n' + 1 := by
        rw [List.count_append, List.count_singleton_self]
      rw [List.flatMap_cons, List.count_append, ih, hline, List.flatten_cons, List.count_append,
        List.length_cons]
      omega

theorem newline_not_mem_line_iff (p : String × String) :
    '\n' ∉ line p ↔ '\n' ∉ p.1.toList ∧ '\n' ∉ p.2.toList := by
  simp [line]

end Report

/-! ## Where breaks come from -/

/-- What succeeds is an address. -/
theorem Resolver.parse_of_lookupText {r : Resolver} {file : Option Entry} {arg : String}
    {st : ResolverState} {code : String}
    (h : (r.lookupText file arg st).1 = .returns (.ok code)) : ∃ x, Address.parse arg = .ok x := by
  cases hparse : Address.parse arg with
  | ok x => exact ⟨x, rfl⟩
  | error e =>
      rw [r.lookupText_of_error file st hparse] at h
      cases h

/-- There is no break in an argument that is an address, save in the white space around it. -/
theorem Address.newline_not_mem_of_parse {arg : String} {x : Address}
    (h : Address.parse arg = .ok x) : '\n' ∉ trimChars arg.toList := by
  intro hbreak
  have hchars := (Address.parse_eq_ok_iff.1 h).all_chars
  exact absurd (List.all_eq_true.1 hchars _ hbreak) (by decide)

theorem parse_of_lookupAll {r : Resolver} {file : Option Entry} {args : List String}
    {st : ResolverState} {arg code : String}
    (h : (arg, .ok code) ∈ (lookupAll r file st args).1.map (·.1)) :
    ∃ x, Address.parse arg = .ok x := by
  induction args generalizing st with
  | nil => cases h
  | cons first args ih =>
      rw [lookupAll, List.map_cons] at h
      rcases List.mem_cons.1 h with h | h
      · obtain ⟨rfl, hcode⟩ := Prod.mk.inj h
        cases hcall : (r.lookupText file arg st).1 with
        | returns result =>
            rw [hcall, CallOutcome.contained_returns] at hcode
            exact Resolver.parse_of_lookupText (by rw [hcall, ← hcode])
        | breaks =>
            rw [hcall] at hcode
            cases hcode
      · exact ih h

/-! ## The report -/

/-- **Reports in words.** The output is made of the successes, in order: each is written as the
argument, a space, the code and the end of the line. So there is a line for each success and for each
line break in its argument or code, and the lines of the output are the successes exactly if there
is no such break. A break in an argument stands in the white space around its address. -/
theorem reportLookups_text (r : Resolver) (hr : r.Returns) (file : Option Entry)
    (st : ResolverState) (files : FileTree) (colour : Bool) (args : List String) :
    ∃ results : List CodeResult,
      (r.serve (args.map (Resolver.callOf file)) st).1 =
          results.map (fun result => .code (.returns result)) ∧
        results.length = args.length ∧
        let successes := (args.zip results).filterMap Report.success?
        let output := (reportLookups r file st files colour false args).output.toList
        output = ((successes.map Report.line).flatMap fun l => l ++ ['\n']) ∧
          output.count '\n' =
            successes.length + (successes.map Report.line).flatten.count '\n' ∧
          (Text.fields '\n' output = successes.map Report.line ++ [[]] ↔
            ∀ p ∈ successes, '\n' ∉ p.1.toList ∧ '\n' ∉ p.2.toList) ∧
          ∀ p ∈ successes, ∃ x, Address.parse p.1 = .ok x ∧ '\n' ∉ trimChars p.1.toList := by
  obtain ⟨results, hserve, hlength, hanswers⟩ := lookupAll_serve r hr file args st
  have houtput := Report.toList_output ((lookupAll r file st args).1.map (·.1))
  rw [List.map_map, hanswers] at houtput
  refine ⟨results, hserve, hlength, houtput, ?_, ?_, ?_⟩
  · have hcount := Report.count_lines
      (((args.zip results).filterMap Report.success?).map Report.line)
    rw [List.length_map] at hcount
    exact (congrArg (List.count '\n') houtput).trans hcount
  · rw [show (reportLookups r file st files colour false args).output.toList = _ from houtput,
      fields_terminated_iff]
    simp only [List.forall_mem_map, Report.newline_not_mem_line_iff]
  · intro p hp
    obtain ⟨⟨arg, result⟩, ha, hsuccess⟩ := List.mem_filterMap.1 hp
    cases result with
    | error e => cases hsuccess
    | ok code =>
        cases hsuccess
        rw [← hanswers] at ha
        obtain ⟨x, hx⟩ := parse_of_lookupAll ha
        exact ⟨x, hx, Address.newline_not_mem_of_parse hx⟩

/-- The report of one lookup that succeeds. -/
theorem output_of_code {r : Resolver} {file : Option Entry} {st : ResolverState}
    {arg code : String} (h : (r.lookupText file arg st).1 = .returns (.ok code)) (files : FileTree)
    (colour : Bool) :
    (reportLookups r file st files colour false [arg]).output.toList =
      Report.line (arg, code) ++ ['\n'] := by
  simp [reportLookups, lookupAll, h, Report.output, Report.line]

theorem Resolver.serve_nil (r : Resolver) (st : ResolverState) : (r.serve [] st).1 = [] := rfl

theorem Resolver.serve_callOf (r : Resolver) (file : Option Entry) (arg : String)
    (calls : List Call) (st : ResolverState) :
    (r.serve (callOf file arg :: calls) st).1 =
      .code (r.lookupText file arg st).1 :: (r.serve calls (r.lookupText file arg st).2).1 := rfl

/-! ## The bundled database -/

/-- Without a file the embedded database is chosen. -/
theorem Selector.get_of_embedded (s : Selector) {db : LocalDatabase} (h : s.OpensEmbedded db) :
    (s.get none {}).1 = .ok db := by
  have hexternal : s.tryExternal none =
      (none, event .debug ("No external database at " ++ s.path)) := rfl
  have hchoice : (s.choose none).1 = s.openEmbedded.1 := by
    rw [s.choose_of_no_external hexternal]
  exact hchoice.trans (s.openEmbedded_eq_ok_iff.2 h)

theorem Resolver.codeIn_ok (db : LocalDatabase) (x : Address) :
    codeIn (.ok db) x = db.lookupCode x := rfl

/-- A resolver with the bundled database alone. -/
def bundledOnly : Resolver := ⟨none, ⟨"local.mmdb", some Bundled.bytes⟩⟩

theorem bundledOnly_returns : bundledOnly.Returns := by
  intro m hm
  cases hm

/-- An address of the first network has its code. -/
theorem lookupText_bundledOnly {arg : String} {a : V4} (hparse : Address.parse arg = .ok (.v4 a))
    (ha : a.octets.take 3 = [203, 0, 113]) :
    (bundledOnly.lookupText none arg {}).1 = .returns (.ok "jp") := by
  have hchosen : (bundledOnly.selector.get none {}).1 = .ok Bundled.database :=
    bundledOnly.selector.get_of_embedded ⟨_, rfl, Bundled.ofBytes_bytes⟩
  have hcode : Bundled.database.lookupCode (.v4 a) = .ok "jp" := by
    rcases Bundled.lookupCode_database a with ⟨-, hcode⟩ | ⟨heu, -⟩ | ⟨hjp, -⟩
    · exact hcode
    · rw [ha] at heu
      cases heu
    · exact absurd ha hjp
  rw [Resolver.lookupText, hparse]
  rw [(bundledOnly.lookup_of_no_firstTier bundledOnly_returns none (.v4 a) {} rfl).1, hchosen]
  rw [Resolver.codeIn_ok, hcode]

/-- A text that is no address, and an address behind a blank: one line. -/
theorem reportLookups_text_blank :
    bundledOnly.Returns ∧
      Text.fields '\n' (reportLookups bundledOnly none {} ⟨[], []⟩ false false
        ["x", " 203.0.113.7"]).output.toList = [" 203.0.113.7 jp".toList, []] := by
  obtain ⟨results, hserve, -, -, -, hlines, -⟩ :=
    reportLookups_text bundledOnly bundledOnly_returns none {} ⟨[], []⟩ false ["x", " 203.0.113.7"]
  have hrefused : bundledOnly.lookupText none "x" {} =
      (.returns (.error ⟨.invalidInput, "invalid ip address: x"⟩), {}) := rfl
  have hjp : (bundledOnly.lookupText none " 203.0.113.7" {}).1 = .returns (.ok "jp") :=
    lookupText_bundledOnly (a := ⟨203, 0, 113, 7⟩) rfl rfl
  have hresults : results =
      [.error ⟨.invalidInput, "invalid ip address: x"⟩, .ok "jp"] := by
    apply (List.map_inj_right fun x y hxy =>
      CallOutcome.returns.inj (Resolver.Response.code.inj hxy)).1
    rw [← hserve]
    simp only [List.map_cons, List.map_nil, Resolver.serve_callOf, Resolver.serve_nil, hrefused, hjp]
  subst hresults
  exact ⟨bundledOnly_returns, hlines.2 (by decide)⟩

/-- **A line break in front of an address is written**, and one success makes two lines. -/
theorem reportLookups_text_broken :
    (bundledOnly.lookupText none "\n203.0.113.7" {}).1 = .returns (.ok "jp") ∧
      Text.fields '\n' (reportLookups bundledOnly none {} ⟨[], []⟩ false false
        ["\n203.0.113.7"]).output.toList = [[], "203.0.113.7 jp".toList, []] := by
  have hjp : (bundledOnly.lookupText none "\n203.0.113.7" {}).1 = .returns (.ok "jp") :=
    lookupText_bundledOnly (a := ⟨203, 0, 113, 7⟩) rfl rfl
  refine ⟨hjp, ?_⟩
  rw [output_of_code hjp]
  rfl

end CountryLookup
