import CountryLookup.Proofs.CommandLine.Placement

/-!
# Command lines that look addresses up

A command line is written here from what it says, and parsed back: the configuration file if one is
named, the command, its flags and the addresses. This is one placement of the options among many, and
what holds of all of them holds of this one.

## Main results

* `parse_lookupLine` — a command line says what it was written from.
* `noRemote_of_parse` — the flag counts wherever it stands.
-/

namespace CountryLookup.CommandLine

/-- The option that names a configuration file, as it is typed. -/
def configArgs : Option String → List String
  | none => []
  | some path => ["--config=" ++ path]

/-- The flags of a lookup as they are typed. -/
def flagArgs (noRemote json : Bool) : List String :=
  (if noRemote then ["--no-remote"] else []) ++ (if json then ["--json"] else [])

/-- A command line that looks addresses up. -/
def lookupLine (config : Option String) (noRemote json : Bool) (addresses : List String) :
    List String :=
  configArgs config ++ "lookup" :: (flagArgs noRemote json ++ addresses)

/-- Addresses behind each other, without an option. -/
theorem placed_addresses (as : List String) : Placed as [] as := by
  induction as with
  | nil => exact .nothing
  | cons a as ih => exact .address a ih

/-- The flags stand in front of the addresses. -/
theorem placed_flagArgs (noRemote json : Bool) (addresses : List String) :
    Placed addresses (chosen noRemote json none) (flagArgs noRemote json ++ addresses) := by
  have haddresses := placed_addresses addresses
  cases noRemote <;> cases json
  · exact haddresses
  · exact .option .json haddresses
  · exact .option .noRemote haddresses
  · exact .option .noRemote (.option .json haddresses)

/-- **A command line says what it was written from**, whatever the name of the file behind the equals
sign. -/
theorem parse_lookupLine (config : Option String) (noRemote json : Bool) {addresses : List String}
    (hne : addresses ≠ []) (hargs : ∀ a ∈ addresses, IsDashless a) :
    parse (lookupLine config noRemote json addresses) =
      .ok ⟨config.getD "config.toml", .lookup addresses noRemote json⟩ := by
  have hnaming : configArgs config = namingArgs (config.map (.joined, ·)) := by
    cases config <;> rfl
  have hfits : ∀ c ∈ config.map ((.joined, ·) : String → Spelling × String), c.1.Fits c.2 := by
    intro c hc
    obtain ⟨path, -, rfl⟩ := Option.map_eq_some_iff.1 hc
    exact .inl rfl
  have hchosen := List.Perm.refl (chosen noRemote json none)
  obtain ⟨hremote, hjson⟩ := contains_chosen hchosen
  rw [lookupLine, hnaming, parse_of_placed hfits (placed_flagArgs noRemote json addresses) hne hargs
    (awaits_chosen hchosen (by simp)), hremote, hjson, values_chosen hchosen]
  cases config <;> rfl

/-! ## The flag that leaves the remote service alone -/

/-- Whether the flag is among the arguments, and not only behind a double dash, where everything is
an address. -/
def HasNoRemote (args : List String) : Prop := "--no-remote" ∈ args.takeWhile (· ≠ "--")

instance (args : List String) : Decidable (HasNoRemote args) :=
  inferInstanceAs (Decidable (_ ∈ _))

/-- The flag is the first argument or among the others, and the first argument is no double dash. -/
theorem HasNoRemote.tail {arg : String} {args : List String} (h : HasNoRemote (arg :: args)) :
    arg ≠ "--" ∧ (arg ≠ "--no-remote" → HasNoRemote args) := by
  have hdash : arg ≠ "--" := by
    rintro rfl
    exact absurd h List.not_mem_nil
  refine ⟨hdash, fun hne => ?_⟩
  rw [HasNoRemote, List.takeWhile_cons_of_pos (by simpa using hdash)] at h
  rcases List.mem_cons.1 h with heq | h
  · exact absurd heq.symm hne
  · exact h

/-- A step after which another one succeeds succeeds itself. -/
theorem ok_of_bind_eq_ok {ε α β : Type} {x : Except ε α} {f : α → Except ε β} {b : β}
    (h : x >>= f = .ok b) : ∃ a, x = .ok a ∧ f a = .ok b := by
  cases x with
  | error e => cases h
  | ok a => exact ⟨a, rfl, h⟩

/-- What one more argument keeps: the flags that were found, and whether options are still read. -/
def Keeps (m m' : Found) : Prop := m.flags ⊆ m'.flags ∧ m'.onlyAddresses = m.onlyAddresses

theorem Keeps.refl (m : Found) : Keeps m m := ⟨List.Subset.refl _, rfl⟩

theorem Keeps.trans {m m' m'' : Found} (h : Keeps m m') (h' : Keeps m' m'') : Keeps m m'' :=
  ⟨List.Subset.trans h.1 h'.1, h'.2.trans h.2⟩

section Keeping

variable {l : Level} {m m' : Found}

theorem keeps_setValue {o : OptionName} {v : String} (h : m.setValue o v = .ok m') :
    Keeps m m' := by
  unfold Found.setValue at h
  split at h
  · cases h
  · cases h
    exact .refl m

theorem keeps_settle (h : m.settle = .ok m') : Keeps m m' := by
  unfold Found.settle at h
  split at h
  · cases h
    exact .refl m
  · cases h
  · obtain ⟨hflags, honly⟩ := keeps_setValue h
    exact ⟨hflags, honly⟩

theorem keeps_addOption {o : OptionName} {v : Option String} (h : m.addOption o v = .ok m') :
    Keeps m m' := by
  obtain ⟨settled, hs, h⟩ := ok_of_bind_eq_ok h
  cases v with
  | none =>
      cases h
      obtain ⟨hflags, honly⟩ := keeps_settle hs
      exact ⟨hflags, honly⟩
  | some v => exact (keeps_settle hs).trans (keeps_setValue h)

/-- A flag that does not end the parse is found. -/
theorem addFlag_eq_ok {t : Topic} {f : Flag} (h : m.addFlag t f = .ok m') :
    Keeps m m' ∧ f ∈ m'.flags := by
  obtain ⟨settled, hs, h⟩ := ok_of_bind_eq_ok h
  have hadded : ∀ g, (if settled.flags.contains g then Except.error Stop.repeated
      else .ok { settled with flags := settled.flags ++ [g] }) = .ok m' →
        Keeps m m' ∧ g ∈ m'.flags := by
    intro g hg
    split at hg
    · cases hg
    · cases hg
      exact ⟨(keeps_settle hs).trans ⟨List.subset_append_left _ _, rfl⟩,
        List.mem_append_right _ (List.mem_singleton.2 rfl)⟩
  cases f with
  | help => cases h
  | version => cases h
  | noRemote => exact hadded _ h
  | json => exact hadded _ h

theorem keeps_stepLong {cs : List Char} (h : stepLong l m cs = .ok m') : Keeps m m' := by
  unfold stepLong at h
  dsimp only at h
  split at h
  · exact keeps_addOption h
  · split at h
    · cases h
    · exact (addFlag_eq_ok h).1
  · cases h

theorem keeps_stepShort {c : Char} {behind : List Char} (h : stepShort l m c behind = .ok m') :
    Keeps m m' := by
  unfold stepShort at h
  split at h
  · exact keeps_addOption h
  · exact (addFlag_eq_ok h).1
  · cases h

theorem keeps_stepPlain {arg : String} (h : stepPlain l m arg = .ok m') : Keeps m m' := by
  unfold stepPlain at h
  split at h
  · obtain ⟨settled, hs, h⟩ := ok_of_bind_eq_ok h
    cases h
    obtain ⟨hflags, honly⟩ := keeps_settle hs
    exact ⟨hflags, honly⟩
  · split at h
    · split at h <;> cases h
    · cases h

/-- **Step.** An argument takes no flag away, and one that is not a double dash does not end the
options. -/
theorem flags_step {arg : String} (h : step l m arg = .ok m') :
    m.flags ⊆ m'.flags ∧ (arg ≠ "--" → m'.onlyAddresses = m.onlyAddresses) := by
  have hkeeps : ∀ hk : Keeps m m', m.flags ⊆ m'.flags ∧
      (arg ≠ "--" → m'.onlyAddresses = m.onlyAddresses) := fun hk => ⟨hk.1, fun _ => hk.2⟩
  unfold step at h
  split at h
  · exact hkeeps (keeps_stepPlain h)
  · split at h
    · rename_i hlist
      cases h
      exact ⟨List.Subset.refl _, fun hdash => absurd (String.toList_inj.1 hlist) hdash⟩
    · exact hkeeps (keeps_stepLong h)
    · exact hkeeps (keeps_stepShort h)
    · split at h
      · cases h
        exact hkeeps (.refl m)
      · exact hkeeps (keeps_stepPlain h)

end Keeping

/-- Behind the name of the command the flag is found where it is read. -/
theorem mem_flags_of_step {m m' : Found} (hm : m.onlyAddresses = false)
    (h : step (.ofTopic .lookup) m "--no-remote" = .ok m') : .noRemote ∈ m'.flags := by
  have hstep : step (.ofTopic .lookup) m "--no-remote" = m.addFlag .lookup .noRemote := by
    rw [step, hm]
    rfl
  exact (addFlag_eq_ok (hstep.symm.trans h)).2

/-- **Run.** The flag is found among the arguments behind the name of the command, and stays
found. -/
theorem mem_flags_of_foldlM {args : List String} {m m' : Found}
    (h : args.foldlM (step (.ofTopic .lookup)) m = .ok m')
    (hf : .noRemote ∈ m.flags ∨ m.onlyAddresses = false ∧ HasNoRemote args) :
    .noRemote ∈ m'.flags := by
  induction args generalizing m with
  | nil =>
      cases h
      rcases hf with hf | ⟨-, hf⟩
      · exact hf
      · exact absurd hf List.not_mem_nil
  | cons arg args ih =>
      rw [List.foldlM_cons] at h
      obtain ⟨next, hs, h⟩ := ok_of_bind_eq_ok h
      obtain ⟨hflags, hoptions⟩ := flags_step hs
      refine ih h ?_
      rcases hf with hf | ⟨honly, hf⟩
      · exact .inl (hflags hf)
      · obtain ⟨hdash, hrest⟩ := hf.tail
        by_cases hflag : arg = "--no-remote"
        · subst hflag
          exact .inl (mem_flags_of_step honly hs)
        · exact .inr ⟨(hoptions hdash).trans honly, hrest hflag⟩

/-- A lookup whose own arguments have the flag leaves the remote service alone. -/
theorem noRemote_of_readCommand {before : Found} {t : Topic} {args : List String} {config : String}
    {addresses : List String} {noRemote json : Bool}
    (h : readCommand before t args = .ok ⟨config, .lookup addresses noRemote json⟩)
    (hargs : HasNoRemote args) : noRemote = true := by
  unfold readCommand readLevel at h
  split at h
  · cases h
  · obtain ⟨m, hm, h⟩ := ok_of_bind_eq_ok h
    obtain ⟨found, hfold, hsettle⟩ := ok_of_bind_eq_ok hm
    obtain ⟨command, hc, h⟩ := ok_of_bind_eq_ok h
    obtain ⟨settled, -, h⟩ := ok_of_bind_eq_ok h
    cases h
    cases t with
    | lookup =>
        have hmem := (keeps_settle hsettle).1 (mem_flags_of_foldlM hfold (.inr ⟨rfl, hargs⟩))
        unfold commandOf at hc
        dsimp only at hc
        split at hc
        · cases hc
        · cases hc
          exact List.contains_iff_mem.2 hmem
    | _ => cases hc

/-- **The flag counts wherever it stands**: a command line that has it and looks addresses up leaves
the remote service alone. -/
theorem noRemote_of_parse {args : List String} {config : String} {addresses : List String}
    {noRemote json : Bool} (h : parse args = .ok ⟨config, .lookup addresses noRemote json⟩)
    (hargs : HasNoRemote args) : noRemote = true := by
  -- before the name of the command the flag is an error, so it stands behind
  suffices hread : ∀ m : Found, m.onlyAddresses = false →
      readProgram m args = .ok ⟨config, .lookup addresses noRemote json⟩ → noRemote = true from
    hread {} rfl h
  clear h
  induction args with
  | nil => exact absurd hargs List.not_mem_nil
  | cons arg args ih =>
      intro m honly h
      obtain ⟨hdash, hrest⟩ := hargs.tail
      rw [readProgram] at h
      cases hhere : commandHere? m arg with
      | some t =>
          rw [hhere] at h
          refine noRemote_of_readCommand h (hrest ?_)
          rintro rfl
          rw [commandHere?, ofName?_of_dash rfl] at hhere
          split at hhere <;> cases hhere
      | none =>
          rw [hhere] at h
          obtain ⟨next, hs, h⟩ := ok_of_bind_eq_ok h
          refine ih (hrest ?_) next (((flags_step hs).2 hdash).trans honly) h
          rintro rfl
          rw [step, honly] at hs
          cases hs

end CountryLookup.CommandLine
