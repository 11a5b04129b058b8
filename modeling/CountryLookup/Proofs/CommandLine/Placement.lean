import CountryLookup.CommandLine.Parser
import CountryLookup.Text.Runs
import Mathlib.Data.List.Perm.Basic

/-!
# Options among addresses

The options of a lookup may stand anywhere behind the name of the command, among the addresses or
around them, and the configuration file may be named before it as well. None of this changes what is
looked up.

What is found so far and what the next option adds are the same data, so that one statement covers
all placements: reading an option or an address extends what was found by it, and nothing else. An
option that waits for its value takes the next argument, whatever that is, and an option that has
its value is settled by the argument behind it or by the end. Therefore what is found is described
once the pending option is settled.

## Main results

* `foldlM_step_spelling` — the configuration file is named in three ways, at every level.
* `foldlM_step_given` — reading one option.
* `foldlM_step_placed` — reading options and addresses in any placement.
* `parse_of_placed` — the command lines that are made so, and what they say.
* `parse_placed` — the place of an option does not matter.
-/

namespace CountryLookup.CommandLine

/-- Whether an argument can be told from an option. -/
def IsDashless (arg : String) : Prop := arg.toList.head? ≠ some '-'

instance (arg : String) : Decidable (IsDashless arg) := inferInstanceAs (Decidable (_ ≠ _))

/-- The ways to name a configuration file: `-c` or `--config` and the file as the next argument, or
both in one argument with an equals sign between. -/
inductive Spelling where
  | short | long | joined
  deriving Repr, DecidableEq

namespace Spelling

/-- The arguments in which a file is named. -/
def args (path : String) : Spelling → List String
  | short => ["-c", path]
  | long => ["--config", path]
  | joined => ["--config=" ++ path]

/-- A file that is an argument of its own can be told from an option. -/
def Fits (path : String) (w : Spelling) : Prop := w = joined ∨ IsDashless path

instance (path : String) (w : Spelling) : Decidable (w.Fits path) :=
  inferInstanceAs (Decidable (_ ∨ _))

end Spelling

/-- An option of a lookup as it is given. -/
inductive Given where
  | noRemote
  | json
  | config (spelling : Spelling) (path : String)
  deriving Repr, DecidableEq

namespace Given

/-- The arguments that an option is typed as. -/
def args : Given → List String
  | noRemote => ["--no-remote"]
  | json => ["--json"]
  | config s path => s.args path

/-- The flag that an option is. -/
def flag? : Given → Option Flag
  | noRemote => some .noRemote
  | json => some .json
  | config .. => none

/-- The value that an option gives. -/
def value? : Given → Option (OptionName × String)
  | config _ path => some (.config, path)
  | _ => none

end Given

/-- The arguments in which options are placed among and around addresses. Both keep their order. -/
inductive Placed : List String → List Given → List String → Prop where
  | nothing : Placed [] [] []
  | address (a : String) {as : List String} {gs : List Given} {args : List String}
    (h : Placed as gs args) : Placed (a :: as) gs (a :: args)
  | option (g : Given) {as : List String} {gs : List Given} {args : List String}
    (h : Placed as gs args) : Placed as (g :: gs) (g.args ++ args)

/-! ## Steps -/

section Steps

variable {l : Level} {m s : Found}

/-- A flag of a lookup that was not found before. -/
theorem addFlag_of_not_mem (hs : m.settle = .ok s) {f : Flag} (hf : f = .noRemote ∨ f = .json)
    (hnew : f ∉ s.flags) (t : Topic) :
    m.addFlag t f = .ok { s with flags := s.flags ++ [f] } := by
  have hcontains : s.flags.contains f = false := by simpa using hnew
  rw [Found.addFlag, hs]
  rcases hf with rfl | rfl
  · show (if s.flags.contains .noRemote then _ else _) = _
    rw [hcontains]
    rfl
  · show (if s.flags.contains .json then _ else _) = _
    rw [hcontains]
    rfl

/-- An option that was not found before and has its value attached. -/
theorem addOption_attached (hs : m.settle = .ok s) {o : OptionName} (hnew : s.value? o = none)
    (v : String) : m.addOption o (some v) = .ok { s with values := s.values ++ [(o, v)] } := by
  rw [Found.addOption, hs]
  show s.setValue o v = _
  rw [Found.setValue, hnew]
  rfl

/-- An option that waits for its value. -/
theorem addOption_waiting (hs : m.settle = .ok s) (o : OptionName) :
    m.addOption o none = .ok { s with pending := some (o, none) } := by
  rw [Found.addOption, hs]
  rfl

/-- The next argument is the value that an option waits for, if it does not start with a dash. -/
theorem step_value {o : OptionName} {arg : String} (hp : m.pending = some (o, none))
    (honly : m.onlyAddresses = false) (hd : IsDashless arg) :
    step l m arg = .ok { m with pending := some (o, some arg) } := by
  have hwaiting : m.waiting = some o := by
    rw [Found.waiting, hp, honly]
    rfl
  unfold step
  rw [honly]
  split
  · rename_i h
    cases h
  · split
    · rename_i heq
      exact absurd (congrArg List.head? heq) hd
    · rename_i heq
      exact absurd (congrArg List.head? heq) hd
    · rename_i heq
      exact absurd (congrArg List.head? heq) hd
    · rw [hwaiting]

/-- A value that was given to an option not found before. -/
theorem settle_value {o : OptionName} {v : String} (hs : s.pending = none)
    (hnew : s.value? o = none) :
    { s with pending := some (o, some v) }.settle = .ok { s with values := s.values ++ [(o, v)] } := by
  rw [Found.settle]
  show ({ s with pending := none } : Found).setValue o v = _
  rw [Found.setValue]
  show (if (s.value? o).isSome then _ else _) = _
  rw [hnew, ← hs]
  rfl

theorem splitValue_joined (path : String) :
    splitValue ("config".toList ++ '=' :: path.toList) = ("config", some path) := by
  have hrun : "config".toList.all (· != '=') = true := by decide
  rw [splitValue, Text.takeWhile_run hrun rfl, Text.dropWhile_run hrun rfl,
    String.ofList_toList]
  exact congrArg (fun v => ("config", some v)) String.ofList_toList

section Naming

variable (hlong : l.option? "config" = some .config) (hshort : l.shortOption? 'c' = some .config)
  (honly : m.onlyAddresses = false)

include hshort honly in
theorem step_short : step l m "-c" = m.addOption .config none := by
  rw [step, honly]
  show stepShort l m 'c' [] = _
  rw [stepShort, hshort]

include hlong in
/-- An argument that has the option's long name. -/
theorem stepLong_config {cs : List Char} {attached : Option String}
    (h : splitValue cs = ("config", attached)) :
    stepLong l m cs = m.addOption .config attached := by
  rw [stepLong, h]
  simp only [hlong]

include hlong honly in
theorem step_long : step l m "--config" = m.addOption .config none := by
  rw [step, honly]
  have hsplit : splitValue "config".toList = ("config", none) := by decide
  exact stepLong_config hlong hsplit

include hlong honly in
/-- A configuration file that is named behind an equals sign, whatever its name. -/
theorem step_joined (path : String) :
    step l m ("--config=" ++ path) = m.addOption .config (some path) := by
  have hlist : ("--config=" ++ path).toList =
      '-' :: '-' :: ("config".toList ++ '=' :: path.toList) := by
    rw [String.toList_append]
    rfl
  rw [step, honly, hlist]
  exact stepLong_config hlong (splitValue_joined path)

include hlong hshort honly in
/-- **The configuration file is named in each of the ways**, at every level that knows the option.
Either one argument has the value, or one argument waits for the next. -/
theorem foldlM_step_spelling (hs : m.settle = .ok s) (hnew : s.value? .config = none)
    {path : String} {w : Spelling} (hw : w.Fits path) :
    ∃ m', (w.args path).foldlM (step l) m = .ok m' ∧
      m'.settle = .ok { s with values := s.values ++ [(.config, path)] } ∧
      m'.onlyAddresses = false := by
  have honly' : s.onlyAddresses = false := (Found.onlyAddresses_of_settle hs).trans honly
  have hpending := Found.pending_of_settle hs
  have hnext : ∀ arg, step l m arg = m.addOption .config none → IsDashless path →
      [arg, path].foldlM (step l) m = .ok { s with pending := some (.config, some path) } := by
    intro arg harg hd
    have hvalue : step l { s with pending := some (.config, none) } path =
        .ok { s with pending := some (.config, some path) } := step_value rfl honly' hd
    rw [List.foldlM_cons, harg, addOption_waiting hs]
    show [path].foldlM (step l) { s with pending := some (.config, none) } = _
    rw [List.foldlM_cons, hvalue]
    rfl
  have hsettle := settle_value (v := path) hpending hnew
  cases w with
  | short =>
      have hd := hw.resolve_left (by decide)
      exact ⟨_, hnext "-c" (step_short hshort honly) hd, hsettle, honly'⟩
  | long =>
      have hd := hw.resolve_left (by decide)
      exact ⟨_, hnext "--config" (step_long hlong honly) hd, hsettle, honly'⟩
  | joined =>
      refine ⟨{ s with values := s.values ++ [(.config, path)] }, ?_,
        Found.settle_of_pending hpending, honly'⟩
      rw [Spelling.args, List.foldlM_cons, step_joined hlong honly, addOption_attached hs hnew]
      rfl

end Naming

/-- What is found when options and addresses are read from a point on. -/
def Found.extend (s : Found) (gs : List Given) (as : List String) : Found :=
  { s with
    values := s.values ++ gs.filterMap Given.value?
    flags := s.flags ++ gs.filterMap Given.flag?
    addresses := s.addresses ++ as }

namespace Found

@[simp] theorem extend_nil (s : Found) : s.extend [] [] = s := by simp [extend]

theorem extend_extend (s : Found) (gs hs : List Given) (as bs : List String) :
    (s.extend gs as).extend hs bs = s.extend (gs ++ hs) (as ++ bs) := by
  simp [extend]

theorem extend_address (s : Found) (a : String) :
    s.extend [] [a] = { s with addresses := s.addresses ++ [a] } := by
  simp [extend]

theorem extend_flag (s : Found) {g : Given} {f : Flag} (hf : g.flag? = some f)
    (hv : g.value? = none) : s.extend [g] [] = { s with flags := s.flags ++ [f] } := by
  simp [extend, hf, hv]

theorem extend_config (s : Found) (w : Spelling) (path : String) :
    s.extend [.config w path] [] = { s with values := s.values ++ [(.config, path)] } := by
  have hv : [Given.config w path].filterMap Given.value? = [(.config, path)] := rfl
  have hf : [Given.config w path].filterMap Given.flag? = [] := rfl
  rw [extend, hv, hf, List.append_nil, List.append_nil]

/-- What is found settles once no option is pending. -/
theorem settle_extend {m s : Found} (hs : m.settle = .ok s) (gs : List Given) (as : List String) :
    (s.extend gs as).settle = .ok (s.extend gs as) :=
  settle_of_pending (show s.pending = none from pending_of_settle hs)

/-- Options that were not found yet, each given once, and with a value that can be told from an
option. -/
structure Awaits (s : Found) (gs : List Given) : Prop where
  flags : (s.flags ++ gs.filterMap Given.flag?).Nodup
  values : ((s.values ++ gs.filterMap Given.value?).map (·.1)).Nodup
  paths : ∀ w path, Given.config w path ∈ gs → w.Fits path

theorem Awaits.left {s : Found} {gs hs : List Given} (h : s.Awaits (gs ++ hs)) : s.Awaits gs := by
  refine ⟨?_, ?_, fun w path hc => h.paths w path (List.mem_append_left _ hc)⟩
  · have hflags := h.flags
    rw [List.filterMap_append, ← List.append_assoc] at hflags
    exact (List.nodup_append.1 hflags).1
  · have hvalues := h.values
    rw [List.filterMap_append, ← List.append_assoc, List.map_append] at hvalues
    exact (List.nodup_append.1 hvalues).1

theorem Awaits.right {s : Found} {gs hs : List Given} (h : s.Awaits (gs ++ hs)) (as : List String) :
    (s.extend gs as).Awaits hs := by
  refine ⟨?_, ?_, fun w path hc => h.paths w path (List.mem_append_right _ hc)⟩
  · simpa [extend] using h.flags
  · simpa [extend] using h.values

theorem Awaits.flag_not_mem {s : Found} {g : Given} {f : Flag} (h : s.Awaits [g])
    (hf : g.flag? = some f) : f ∉ s.flags := by
  have hflags := h.flags
  rw [List.filterMap_cons_some hf] at hflags
  exact fun hmem => (List.nodup_append.1 hflags).2.2 f hmem f List.mem_cons_self rfl

theorem Awaits.value?_eq_none {s : Found} {g : Given} {o : OptionName} {v : String}
    (h : s.Awaits [g]) (hv : g.value? = some (o, v)) : s.value? o = none := by
  have hvalues := h.values
  rw [List.filterMap_cons_some hv, List.map_append] at hvalues
  rw [value?, List.lookup_eq_none_iff]
  intro p hp
  simp only [bne_iff_ne, ne_eq]
  rintro rfl
  exact (List.nodup_append.1 hvalues).2.2 _ (List.mem_map_of_mem hp) _ List.mem_cons_self rfl

end Found

/-- A flag of a lookup that was not found before is found. -/
theorem foldlM_step_flag {g : Given} {f : Flag} {arg : String} (hargs : g.args = [arg])
    (hstep : step (.ofTopic .lookup) m arg = m.addFlag .lookup f)
    (hf : f = .noRemote ∨ f = .json) (hs : m.settle = .ok s) (hnew : f ∉ s.flags) :
    g.args.foldlM (step (.ofTopic .lookup)) m = .ok { s with flags := s.flags ++ [f] } := by
  rw [hargs, List.foldlM_cons, hstep, addFlag_of_not_mem hs hf hnew]
  rfl

/-- **Step.** An option that was not found before is found. -/
theorem foldlM_step_given (hs : m.settle = .ok s) (honly : m.onlyAddresses = false) {g : Given}
    (hg : s.Awaits [g]) :
    ∃ m', g.args.foldlM (step (.ofTopic .lookup)) m = .ok m' ∧
      m'.settle = .ok (s.extend [g] []) ∧ m'.onlyAddresses = false := by
  have honly' : s.onlyAddresses = false := (Found.onlyAddresses_of_settle hs).trans honly
  cases g with
  | noRemote =>
      have hstep : step (.ofTopic .lookup) m "--no-remote" = m.addFlag .lookup .noRemote := by
        rw [step, honly]
        rfl
      refine ⟨s.extend [.noRemote] [], ?_, Found.settle_extend hs _ _, honly'⟩
      rw [s.extend_flag rfl rfl]
      exact foldlM_step_flag rfl hstep (.inl rfl) hs (hg.flag_not_mem rfl)
  | json =>
      have hstep : step (.ofTopic .lookup) m "--json" = m.addFlag .lookup .json := by
        rw [step, honly]
        rfl
      refine ⟨s.extend [.json] [], ?_, Found.settle_extend hs _ _, honly'⟩
      rw [s.extend_flag rfl rfl]
      exact foldlM_step_flag rfl hstep (.inr rfl) hs (hg.flag_not_mem rfl)
  | config w path =>
      rw [s.extend_config]
      exact foldlM_step_spelling rfl rfl honly hs (hg.value?_eq_none rfl)
        (hg.paths w path List.mem_cons_self)

/-- **Run.** Options that are given once and addresses are found wherever they stand. -/
theorem foldlM_step_placed {as : List String} {gs : List Given} {args : List String}
    (h : Placed as gs args) (hs : m.settle = .ok s) (honly : m.onlyAddresses = false)
    (has : ∀ a ∈ as, IsDashless a) (hgs : s.Awaits gs) :
    ∃ m', args.foldlM (step (.ofTopic .lookup)) m = .ok m' ∧ m'.settle = .ok (s.extend gs as) := by
  induction h generalizing m s with
  | nothing => exact ⟨m, rfl, by rw [hs, s.extend_nil]⟩
  | @address a as gs args h ih =>
      have hstep := step_address (l := .ofTopic .lookup) rfl hs (has a List.mem_cons_self)
      rw [← s.extend_address] at hstep
      have hnone : s.Awaits ([] ++ gs) := hgs
      obtain ⟨m', hfold, hfound⟩ := ih (Found.settle_extend hs [] [a])
        ((Found.onlyAddresses_of_settle hs).trans honly)
        (fun b hb => has b (List.mem_cons_of_mem a hb)) (hnone.right [a])
      refine ⟨m', ?_, hfound.trans (by rw [Found.extend_extend]; rfl)⟩
      rw [List.foldlM_cons, hstep]
      exact hfold
  | @option g as gs args h ih =>
      rw [← List.singleton_append] at hgs
      obtain ⟨next, hnext, hsettle, hopen⟩ := foldlM_step_given hs honly hgs.left
      obtain ⟨m', hfold, hfound⟩ := ih hsettle hopen has (hgs.right [])
      refine ⟨m', ?_, hfound.trans (by rw [Found.extend_extend]; rfl)⟩
      rw [List.foldlM_append, hnext]
      exact hfold

end Steps

/-! ## Command lines -/

/-- The name of the configuration file before the command, if it is given there. -/
def namingArgs : Option (Spelling × String) → List String
  | none => []
  | some (w, path) => w.args path

/-- The options of a lookup that are chosen. -/
def chosen (noRemote json : Bool) (config : Option (Spelling × String)) : List Given :=
  (if noRemote then [.noRemote] else []) ++ (if json then [.json] else []) ++
    config.toList.map fun c => .config c.1 c.2

/-- The arguments behind the name of the command. -/
theorem readCommand_placed {before settled : Found} (hbefore : before.settle = .ok settled)
    {as : List String} {gs : List Given} {args : List String} (h : Placed as gs args)
    (hne : as ≠ []) (has : ∀ a ∈ as, IsDashless a) (hgs : ({} : Found).Awaits gs) :
    readCommand before .lookup args =
      .ok ⟨(((gs.filterMap Given.value?).lookup .config).or (settled.value? .config)).getD
          "config.toml",
        .lookup as ((gs.filterMap Given.flag?).contains .noRemote)
          ((gs.filterMap Given.flag?).contains .json)⟩ := by
  obtain ⟨m, hfold, hsettle⟩ := foldlM_step_placed (m := {}) h rfl rfl has hgs
  have hlevel : readLevel (.ofTopic .lookup) args = .ok (({} : Found).extend gs as) := by
    rw [readLevel, hfold]
    exact hsettle
  have hsome : as.isEmpty = false := List.isEmpty_eq_false_iff.2 hne
  have hcommand : commandOf .lookup (({} : Found).extend gs as) =
      .ok (.lookup as ((gs.filterMap Given.flag?).contains .noRemote)
        ((gs.filterMap Given.flag?).contains .json)) := by
    simp [commandOf, Found.extend, hsome]
  rw [readCommand, if_neg (by decide), hlevel]
  show (commandOf .lookup _ >>= _) = _
  rw [hcommand]
  show (before.settle >>= _) = _
  rw [hbefore]
  rfl

section Chosen

variable {noRemote json : Bool} {config : Option (Spelling × String)} {gs : List Given}

theorem flags_perm_chosen (h : gs.Perm (chosen noRemote json config)) :
    (gs.filterMap Given.flag?).Perm
      ((if noRemote then [Flag.noRemote] else []) ++ (if json then [.json] else [])) := by
  refine (h.filterMap Given.flag?).trans (.of_eq ?_)
  rcases config with - | c <;> cases noRemote <;> cases json <;> rfl

theorem values_chosen (h : gs.Perm (chosen noRemote json config)) :
    gs.filterMap Given.value? = config.toList.map fun c => (.config, c.2) := by
  have hperm := h.filterMap Given.value?
  rcases config with - | c
  · have hnil : (chosen noRemote json none).filterMap Given.value? = [] := by
      cases noRemote <;> cases json <;> rfl
    rw [hnil] at hperm
    exact hperm.eq_nil
  · have hone : (chosen noRemote json (some c)).filterMap Given.value? = [(.config, c.2)] := by
      cases noRemote <;> cases json <;> rfl
    rw [hone] at hperm
    exact List.perm_singleton.1 hperm

theorem config_mem_chosen {w : Spelling} {path : String} :
    Given.config w path ∈ chosen noRemote json config ↔ config = some (w, path) := by
  have hflags : Given.config w path ∉
      (if noRemote then [Given.noRemote] else []) ++ (if json then [.json] else []) := by
    cases noRemote <;> cases json <;> simp
  rw [chosen, List.mem_append, or_iff_right hflags]
  rcases config with - | ⟨v, p⟩
  · simp
  · simp [eq_comm]

/-- No option is chosen twice. -/
theorem awaits_chosen (h : gs.Perm (chosen noRemote json config))
    (hpath : ∀ c ∈ config, c.1.Fits c.2) : ({} : Found).Awaits gs := by
  refine ⟨?_, ?_, ?_⟩
  · refine (flags_perm_chosen h).nodup_iff.2 ?_
    cases noRemote <;> cases json <;> decide
  · rw [values_chosen h]
    rcases config with - | c <;> simp
  · intro w path hc
    exact hpath (w, path) (config_mem_chosen.1 (h.mem_iff.1 hc))

theorem contains_chosen (h : gs.Perm (chosen noRemote json config)) :
    (gs.filterMap Given.flag?).contains .noRemote = noRemote ∧
      (gs.filterMap Given.flag?).contains .json = json := by
  have hflags := flags_perm_chosen h
  rw [hflags.contains_eq, hflags.contains_eq]
  cases noRemote <;> cases json <;> decide

end Chosen

/-- No command has a name that starts with a dash. -/
theorem ofName?_of_dash {arg : String} (h : arg.toList.head? = some '-') :
    Topic.ofName? arg = none := by
  rw [Topic.ofName?, List.find?_eq_none]
  intro t ht
  have hname : t.name.toList.head? ≠ some '-' := by
    have hall : ∀ t ∈ Topic.commands, t.name.toList.head? ≠ some '-' := by decide
    exact hall t ht
  simp only [decide_eq_true_eq]
  intro e
  rw [e] at hname
  exact hname h

/-- An argument that names no command where it stands is read before the command. -/
theorem readProgram_cons {m m' : Found} {arg : String} (hhere : commandHere? m arg = none)
    (hstep : step .program m arg = .ok m') (args : List String) :
    readProgram m (arg :: args) = readProgram m' args := by
  rw [readProgram, hhere]
  show (step .program m arg >>= _) = _
  rw [hstep]
  rfl

/-- The configuration file is named before the command, in each of the ways. -/
theorem readProgram_naming {path : String} {w : Spelling} (hw : w.Fits path) :
    ∃ m : Found, m.settle = .ok { values := [(.config, path)] } ∧ m.onlyAddresses = false ∧
      ∀ args, readProgram {} (w.args path ++ args) = readProgram m args := by
  -- the value is no command, even if it is the name of one, since an option waits for it
  have hnext : ∀ arg, arg.toList.head? = some '-' →
      step .program {} arg = .ok { pending := some (.config, none) } → IsDashless path →
      ∀ args, readProgram {} ([arg, path] ++ args) =
        readProgram { pending := some (.config, some path) } args := by
    intro arg hdash harg hd args
    have hvalue : step .program { pending := some (.config, none) } path =
        .ok { pending := some (.config, some path) } := step_value rfl rfl hd
    exact (readProgram_cons (show commandHere? {} arg = none from ofName?_of_dash hdash) harg _).trans (readProgram_cons rfl hvalue args)
  cases w with
  | short => exact ⟨_, rfl, rfl, hnext "-c" rfl rfl (hw.resolve_left (by decide))⟩
  | long => exact ⟨_, rfl, rfl, hnext "--config" rfl rfl (hw.resolve_left (by decide))⟩
  | joined =>
      have hdash : ("--config=" ++ path).toList.head? = some '-' := by
        rw [String.toList_append]
        rfl
      have hstep : step .program {} ("--config=" ++ path) =
          .ok { values := [(.config, path)] } := step_joined (m := {}) rfl rfl path
      exact ⟨{ values := [(.config, path)] }, rfl, rfl, readProgram_cons (ofName?_of_dash hdash) hstep⟩

/-- The name of the command stands behind what was read before it. -/
theorem readProgram_lookup {m settled : Found} (hs : m.settle = .ok settled)
    (honly : m.onlyAddresses = false) (args : List String) :
    readProgram m ("lookup" :: args) = readCommand m .lookup args := by
  have hhere : commandHere? m "lookup" = some .lookup := by
    rw [commandHere?, honly, Found.waiting_of_settle hs]
    rfl
  rw [readProgram, hhere]

/-- **Command lines with options in any placement**, and what they say. -/
theorem parse_of_placed {before : Option (Spelling × String)}
    (hbefore : ∀ c ∈ before, c.1.Fits c.2) {as : List String} {gs : List Given}
    {args : List String} (h : Placed as gs args) (hne : as ≠ []) (has : ∀ a ∈ as, IsDashless a)
    (hgs : ({} : Found).Awaits gs) :
    parse (namingArgs before ++ "lookup" :: args) =
      .ok ⟨(((gs.filterMap Given.value?).lookup .config).or (before.map (·.2))).getD "config.toml",
        .lookup as ((gs.filterMap Given.flag?).contains .noRemote)
          ((gs.filterMap Given.flag?).contains .json)⟩ := by
  cases before with
  | none =>
      have hs : ({} : Found).settle = .ok {} := rfl
      rw [namingArgs, List.nil_append, parse, readProgram_lookup hs rfl]
      exact readCommand_placed hs h hne has hgs
  | some c =>
      obtain ⟨m, hs, honly, hnamed⟩ := readProgram_naming (hbefore c rfl)
      rw [namingArgs, parse, hnamed, readProgram_lookup hs honly]
      exact readCommand_placed hs h hne has hgs

/-- **The place of an option does not matter.** Take addresses that do not start with a dash, at
least one, and any of the options of a lookup, the configuration file being named in one of the
three ways. Wherever the options stand among or around the addresses, and in whichever order, the
command line is understood: the addresses are looked up in their order, the flags count if they are
given, and the configuration file is the one that is named. It may also be named before the command;
a name behind it wins. -/
theorem parse_placed (before within : Option (Spelling × String)) (noRemote json : Bool)
    {addresses : List String} {options : List Given} {args : List String}
    (hoptions : options.Perm (chosen noRemote json within)) (h : Placed addresses options args)
    (hne : addresses ≠ []) (haddresses : ∀ a ∈ addresses, IsDashless a)
    (hbefore : ∀ c ∈ before, c.1.Fits c.2) (hwithin : ∀ c ∈ within, c.1.Fits c.2) :
    parse (namingArgs before ++ "lookup" :: args) =
      .ok ⟨((within.or before).map (·.2)).getD "config.toml",
        .lookup addresses noRemote json⟩ := by
  obtain ⟨hremote, hjson⟩ := contains_chosen hoptions
  rw [parse_of_placed hbefore h hne haddresses (awaits_chosen hoptions hwithin), hremote, hjson,
    values_chosen hoptions]
  rcases within with - | c <;> rfl

/-- Names of commands as addresses and as a file, which is named on both sides of the command. -/
theorem parse_placed_commandNames :
    Placed ["source", "::1"] [.json, .config .long "a=b", .noRemote]
        ["source", "--json", "--config", "a=b", "::1", "--no-remote"] ∧
      parse ["-c", "lookup", "lookup", "source", "--json", "--config", "a=b", "::1",
          "--no-remote"] =
        .ok ⟨"a=b", .lookup ["source", "::1"] true true⟩ := by
  have hplaced : Placed ["source", "::1"] [.json, .config .long "a=b", .noRemote]
      ["source", "--json", "--config", "a=b", "::1", "--no-remote"] :=
    .address _ (.option .json (.option (.config .long "a=b")
      (.address _ (.option .noRemote .nothing))))
  exact ⟨hplaced, parse_placed (some (.short, "lookup")) (some (.long, "a=b")) true true (by decide)
    hplaced (by decide) (by decide) (by decide) (by decide)⟩

end CountryLookup.CommandLine
