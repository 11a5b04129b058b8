import CountryLookup.Proofs.CommandLine.Lookups
import CountryLookup.Proofs.Runs
import CountryLookup.Proofs.Tiers

/-!
# Batches

A run that looks several addresses up shares one resolver among them, and the resolver remembers a
database. What it remembers is the choice for the file at the external path, which does not change
while the run lasts, so whichever address needs the database first, and whatever failed before, the
database is the same. The answer to an argument is thus its own: it depends on the settings, on the
files and on the network, and not on the arguments before it.

## Main results

* `lookupText_verdict` — one lookup gives the argument's own answer, and leaves the choice as it is.
* `lookupAll_verdict` — so does every lookup of a run.
* `run_unfiled` — what a run with its log on the error stream leaves.
* `run_lookups_append` — a run over two lists is the two runs one after the other.
-/

namespace CountryLookup

open CommandLine Logging

namespace Resolver

/-! ## One lookup -/

/-- A resolver whose remote service answers a question alike however often it was asked. -/
def Steady (r : Resolver) : Prop := ∀ m, r.remote = some m → ∀ n x, m.call n x = m.call 0 x

/-- The answer that an argument gets, if `file` is the external file. -/
def verdict (r : Resolver) (file : Option Entry) (arg : String) : CodeResult :=
  match Address.parse arg with
  | .error e => .error e
  | .ok x =>
    match r.firstTier? 0 x with
    | some code => .ok code
    | none => codeIn (r.selector.choose file).1 x

/-- **The invariant.** What the selector gives is the choice for this file, be it made or still to
be made. -/
def Chooses (r : Resolver) (file : Option Entry) (st : ResolverState) : Prop :=
  (r.selector.get file st.selection).1 = (r.selector.choose file).1

theorem chooses_start (r : Resolver) (file : Option Entry) : r.Chooses file {} := rfl

theorem Steady.firstTier? {r : Resolver} (h : r.Steady) (n : Nat) (x : Address) :
    r.firstTier? n x = r.firstTier? 0 x := by
  cases hm : r.remote with
  | none => simp [Resolver.firstTier?, hm]
  | some m => simp [Resolver.firstTier?, hm, h m hm n x]

variable {r : Resolver} {file : Option Entry} {st : ResolverState}

theorem verdict_of_error {arg : String} {e : LookupError} (h : Address.parse arg = .error e) :
    r.verdict file arg = .error e := by
  simp [verdict, h]

theorem verdict_of_firstTier {arg : String} {x : Address} {code : String}
    (h : Address.parse arg = .ok x) (hf : r.firstTier? 0 x = some code) :
    r.verdict file arg = .ok code := by
  simp [verdict, h, hf]

theorem verdict_of_no_firstTier {arg : String} {x : Address} (h : Address.parse arg = .ok x)
    (hf : r.firstTier? 0 x = none) :
    r.verdict file arg = codeIn (r.selector.choose file).1 x := by
  simp [verdict, h, hf]

/-- **Step.** A lookup gives the argument's own answer, asks for its address if it is one, and
leaves the choice as it is. -/
theorem lookupText_verdict (hr : r.Returns) (hs : r.Steady) (h : r.Chooses file st)
    (arg : String) :
    (r.lookupText file arg st).1 = .returns (r.verdict file arg) ∧
      (r.lookupText file arg st).2.asked = st.asked ++ r.asks (Address.parse arg).toOption ∧
      r.Chooses file (r.lookupText file arg st).2 := by
  cases hp : Address.parse arg with
  | error e =>
      rw [r.lookupText_of_error file st hp, verdict_of_error hp]
      exact ⟨rfl, by simp [asks, Except.toOption], h⟩
  | ok x =>
      have hlookup : r.lookupText file arg st = r.lookup file x st := by rw [lookupText, hp]
      have htier := hs.firstTier? st.asked.length x
      rw [hlookup]
      cases hf : r.firstTier? 0 x with
      | some code =>
          obtain ⟨hresult, hselection, hasked⟩ :=
            r.lookup_of_firstTier file x st (htier.trans hf)
          refine ⟨by rw [hresult, verdict_of_firstTier hp hf], hasked, ?_⟩
          rw [Chooses, hselection]
          exact h
      | none =>
          obtain ⟨hresult, hselection, hasked⟩ :=
            r.lookup_of_no_firstTier hr file x st (htier.trans hf)
          refine ⟨by rw [hresult, h, verdict_of_no_firstTier hp hf], hasked, ?_⟩
          rw [Chooses, hselection, r.selector.get_get]
          exact h

/-- **Run.** Every argument gets its own answer, and its address is asked for. -/
theorem lookupAll_verdict (hr : r.Returns) (hs : r.Steady) (h : r.Chooses file st)
    (args : List String) :
    (lookupAll r file st args).1.map (·.1) = args.map (fun a => (a, r.verdict file a)) ∧
      (lookupAll r file st args).2.asked =
        st.asked ++ args.flatMap fun a => r.asks (Address.parse a).toOption := by
  induction args generalizing st with
  | nil => exact ⟨rfl, (List.append_nil _).symm⟩
  | cons arg args ih =>
      obtain ⟨hresult, hasked, hnext⟩ := lookupText_verdict hr hs h arg
      obtain ⟨hanswers, hlast⟩ := ih hnext
      constructor
      · rw [lookupAll, List.map_cons, List.map_cons, hanswers, hresult]
        rfl
      · rw [lookupAll, List.flatMap_cons, ← List.append_assoc, ← hasked]
        exact hlast

/-- What a report writes and asks follows from the answers of its arguments. -/
theorem reportLookups_verdict (hr : r.Returns) (hs : r.Steady) (h : r.Chooses file st)
    (files : FileTree) (colour json : Bool) (args : List String) :
    let a := reportLookups r file st files colour json args
    a.output = String.join (args.map fun arg => Report.output json (arg, r.verdict file arg)) ∧
      a.status =
        (if args.any fun arg => Report.failed (arg, r.verdict file arg) then 1 else 0) ∧
      a.asked = st.asked ++ args.flatMap fun arg => r.asks (Address.parse arg).toOption := by
  obtain ⟨hanswers, hasked⟩ := lookupAll_verdict hr hs h args
  refine ⟨?_, ?_, hasked⟩
  · show String.join ((lookupAll r file st args).1.map (Report.output json ∘ (·.1))) = _
    rw [← List.map_map, hanswers, List.map_map]
    rfl
  · show (if (lookupAll r file st args).1.any (Report.failed ∘ (·.1)) then 1 else 0) = _
    rw [← List.any_map, hanswers, List.any_map]
    rfl

theorem ofSettings_returns (s : Settings) (net : Network) : (ofSettings s net).Returns := by
  intro m hm n x
  unfold ofSettings at hm
  dsimp only at hm
  split at hm
  · cases hm
    exact ⟨_, rfl⟩
  · cases hm

theorem ofSettings_steady (s : Settings) (net : Network) : (ofSettings s net).Steady := by
  intro m hm n x
  unfold ofSettings at hm
  dsimp only at hm
  split at hm
  · cases hm
    rfl
  · cases hm

end Resolver

/-! ## One run -/

/-- Whether settings ask for a log on the error stream. -/
def LoggingSettings.IsUnfiled (s : LoggingSettings) : Prop := s.file.filter (· ≠ "") = none

/-- A log on the error stream is opened without touching a file. -/
theorem Logging.ofSettings_unfiled {s : LoggingSettings} (h : s.IsUnfiled) (date : String)
    (files : FileTree) :
    ∃ l : Logger, l.sink = .errorStream ∧
      (Logger.ofSettings s date files).result = .ok l ∧
      (Logger.ofSettings s date files).files = files := by
  have hopen : Logger.openSink s date files = { files, result := .ok .errorStream } := by
    rw [Logger.openSink, show s.file.filter (· ≠ "") = none from h]
  simp only [Logger.ofSettings, hopen, Except.ok.injEq, and_true]
  exact ⟨_, rfl, rfl⟩

/-- The answer that an argument of a run gets. -/
def World.answer (w : World) (config : String) (noRemote : Bool) (arg : String) : Report.Answer :=
  (arg, (w.resolver config noRemote).verdict (external (w.settings config) w.files) arg)

/-- The requests that an argument of a run causes: one, if it is an address and there is a remote
service, and otherwise none. -/
def World.requests (w : World) (config : String) (noRemote : Bool) (arg : String) : List String :=
  ((w.resolver config noRemote).asks (Address.parse arg).toOption).map
    (Client.ofSettings (w.settings config).remote).url

/-- **What a run with its log on the error stream leaves**: for each argument what its own answer
writes and asks, and the files as they were. -/
theorem run_unfiled {w : World} {args : List String} {config : String} {addresses : List String}
    {noRemote json : Bool} (hparse : parse args = .ok ⟨config, .lookup addresses noRemote json⟩)
    (hlog : (w.settings config).logging.IsUnfiled) :
    (run w args).output =
        String.join (addresses.map fun arg => Report.output json (w.answer config noRemote arg)) ∧
      (run w args).status =
        (if addresses.any fun arg => Report.failed (w.answer config noRemote arg) then 1 else 0) ∧
      (run w args).requests = addresses.flatMap (w.requests config noRemote) ∧
      (run w args).files = w.files := by
  obtain ⟨l, hsink, hopen, hfiles⟩ := Logging.ofSettings_unfiled hlog w.start.date w.files
  have hfile : w.externalFile config = external (w.settings config) w.files :=
    congrArg (external (w.settings config)) hfiles
  obtain ⟨houtput, hstatus, hasked⟩ :=
    Resolver.reportLookups_verdict (Resolver.ofSettings_returns _ w.network)
      (Resolver.ofSettings_steady _ w.network)
      ((w.resolver config noRemote).chooses_start (external (w.settings config) w.files))
      (w.opening config).files (colourForced w.inForce) json addresses
  have hlookups := lookups_eq w config noRemote json addresses
  rw [hfile] at hlookups
  rw [run_of_opened hparse hopen, hlookups]
  refine ⟨houtput, hstatus, ?_, ?_⟩
  · exact (congrArg (List.map _) hasked).trans List.map_flatMap
  · show writeLog l _ (w.opening config).files = w.files
    rw [writeLog, hsink]
    exact hfiles

/-! ## Two runs -/

/-- Two worlds that differ at most in their clocks. -/
structure World.SameButTime (w w' : World) : Prop where
  files : w.files = w'.files
  environment : w.environment = w'.environment
  network : w.network = w'.network
  formats : w.formats = w'.formats

section Clocks

variable {w w' : World} (h : w.SameButTime w') (config : String) (noRemote : Bool)
include h

theorem World.SameButTime.settings : w.settings config = w'.settings config := by
  simp only [World.settings, World.loaded, World.inForce, h.files, h.environment, h.formats]

theorem World.SameButTime.answer : w.answer config noRemote = w'.answer config noRemote := by
  funext arg
  simp only [World.answer, World.resolver, h.settings config, h.files, h.network]

theorem World.SameButTime.requests : w.requests config noRemote = w'.requests config noRemote := by
  funext arg
  simp only [World.requests, World.resolver, h.settings config, h.network]

end Clocks

/-- **A run over two lists is the two runs one after the other.** With a log on the error stream,
whatever the flags and the network, and whenever the runs take place: the output over two lists
together is that over the first followed by that over the second, the status tells a failure exactly
if one of theirs does, and the requests are theirs in order. None of the runs changes a file. -/
theorem run_lookups_append {w w₁ w₂ : World} (h₁ : w₁.SameButTime w) (h₂ : w₂.SameButTime w)
    (config : Option String) (noRemote json : Bool) {xs ys : List String} (hx : xs ≠ [])
    (hy : ys ≠ [])
    (hdash : ∀ a ∈ xs ++ ys, IsDashless a)
    (hlog : (w.settings (config.getD "config.toml")).logging.IsUnfiled) :
    let both := run w (lookupLine config noRemote json (xs ++ ys))
    let first := run w₁ (lookupLine config noRemote json xs)
    let second := run w₂ (lookupLine config noRemote json ys)
    both.output = first.output ++ second.output ∧
      (both.status ≠ 0 ↔ first.status ≠ 0 ∨ second.status ≠ 0) ∧
      both.requests = first.requests ++ second.requests ∧
      both.files = w.files ∧ first.files = w.files ∧ second.files = w.files := by
  intro both first second
  have hboth := run_unfiled (w := w)
    (parse_lookupLine config noRemote json (List.append_ne_nil_of_left_ne_nil hx ys) hdash) hlog
  have hlog₁ := hlog
  rw [← h₁.settings] at hlog₁
  have hfirst := run_unfiled (w := w₁) (parse_lookupLine config noRemote json hx
    fun a ha => hdash a (List.mem_append_left ys ha)) hlog₁
  have hlog₂ := hlog
  rw [← h₂.settings] at hlog₂
  have hsecond := run_unfiled (w := w₂) (parse_lookupLine config noRemote json hy
    fun a ha => hdash a (List.mem_append_right xs ha)) hlog₂
  rw [h₁.answer, h₁.requests, h₁.files] at hfirst
  rw [h₂.answer, h₂.requests, h₂.files] at hsecond
  refine ⟨?_, ?_, ?_, hboth.2.2.2, hfirst.2.2.2, hsecond.2.2.2⟩
  · rw [hboth.1, hfirst.1, hsecond.1, List.map_append, String.join_append]
  · rw [hboth.2.1, hfirst.2.1, hsecond.2.1, List.any_append]
    cases xs.any _ <;> cases ys.any _ <;> simp
  · rw [hboth.2.2.1, hfirst.2.2.1, hsecond.2.2.1, List.flatMap_append]

/-- A world at a time, in which nothing is configured and the service always answers `US`. -/
def alwaysUs (start : Instant) : World where
  files := ⟨["work"], []⟩
  environment := []
  network _ := .ok ⟨200, [85, 83, 10]⟩
  start := start
  clock _ := start

/-- Three arguments, of which the middle one is no address, in a run and in two runs on other
days. -/
theorem run_lookups_append_alwaysUs :
    ((alwaysUs ⟨0⟩).settings "config.toml").logging.IsUnfiled ∧
      (run (alwaysUs ⟨0⟩) (lookupLine none false false ["8.8.8.8", "::g", "::1"])).output =
        "8.8.8.8 us\n" ++ "::1 us\n" ∧
      (run (alwaysUs ⟨0⟩) (lookupLine none false false ["8.8.8.8", "::g", "::1"])).status ≠ 0 ∧
      (run (alwaysUs ⟨0⟩) (lookupLine none false false ["8.8.8.8", "::g", "::1"])).requests =
        ["https://ipinfo.io/8.8.8.8/country", "https://ipinfo.io/::1/country"] := by
  have hlog : ((alwaysUs ⟨0⟩).settings "config.toml").logging.IsUnfiled := rfl
  have hdash : ∀ a ∈ ["8.8.8.8"] ++ ["::g", "::1"], IsDashless a := by decide
  have hsame : ∀ t, (alwaysUs t).SameButTime (alwaysUs ⟨0⟩) := fun t => ⟨rfl, rfl, rfl, rfl⟩
  obtain ⟨houtput, hstatus, hrequests, -⟩ :=
    run_lookups_append (hsame ⟨86400000000⟩) (hsame ⟨172800000000⟩) none false false
      (List.cons_ne_nil _ _) (List.cons_ne_nil _ _) hdash hlog
  exact ⟨hlog, houtput, hstatus.2 (.inr (by decide)), hrequests⟩

end CountryLookup
