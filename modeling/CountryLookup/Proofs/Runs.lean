import CountryLookup.Run

/-!
# The stages of a run

A run goes through stages: it reads its settings, opens its log, carries its command out and writes
what there is to tell. Each stage is named here after the world that it depends on, and a run is said
in terms of them, once for a log that cannot be opened and once for one that can.

## Main results

* `run_of_failure`, `run_of_logger` — what a run of any command leaves.
* `run_of_unopened`, `run_of_opened` — what a run that looks addresses up leaves.
-/

namespace CountryLookup

open CommandLine Logging

namespace World

/-- The variables in force: those of the environment, and those of a file over which they win. -/
def inForce (w : World) : Environment := VariableFile.load w.files w.environment

/-- What loading the settings comes to. -/
def loaded (w : World) (config : String) : LoadReport × Settings :=
  Settings.load w.files w.inForce config w.formats

/-- The settings of a run. -/
def settings (w : World) (config : String) : Settings := (w.loaded config).2

/-- What opening the log comes to. -/
def opening (w : World) (config : String) : Opening Logger :=
  Logger.ofSettings (w.settings config).logging w.start.date w.files

/-- What is told about loading the settings. -/
def report? (w : World) (config : String) : Option String :=
  (w.loaded config).1.line? config (w.formats.cause? w.files w.inForce config)

/-- What is told before anything is looked up. -/
def told (w : World) (config : String) : String :=
  unlines ((w.report? config).toList ++ (w.opening config).told)

/-- The resolver of a run. -/
def resolver (w : World) (config : String) (noRemote : Bool) : Resolver :=
  Resolver.ofSettings ((Command.lookup [] noRemote false).settings (w.settings config)) w.network

/-- What a run finds as the external file, which it looks for when the log is open. -/
def externalFile (w : World) (config : String) : Option Entry :=
  external (w.settings config) (w.opening config).files

/-- What carrying the command of a run out comes to. -/
def activity (w : World) (i : Invocation) : Activity :=
  carryOut i.command (w.settings i.config) w.network (w.opening i.config).files
    (colourForced w.inForce)

/-- What looking addresses up comes to. -/
def lookups (w : World) (config : String) (noRemote json : Bool) (addresses : List String) :
    Activity :=
  carryOut (.lookup addresses noRemote json) (w.settings config) w.network (w.opening config).files
    (colourForced w.inForce)

end World

variable {w : World} {args : List String} {config : String} {addresses : List String}
  {noRemote json : Bool}

/-! ## Any command -/

/-- A command line that leads to no command looks at nothing. -/
theorem run_of_stop {stop : Stop} (hparse : parse args = .error stop) :
    run w args =
      { status := stop.status
        output := (stopText stop).1
        errors := (stopText stop).2
        files := w.files } := by
  rw [run, hparse]

/-- **A run whose log cannot be opened** says why, and does nothing else. -/
theorem run_of_failure {i : Invocation} (hparse : parse args = .ok i) {causes : List String}
    (h : (w.opening i.config).result = .error causes) :
    run w args =
      { status := 1
        errors := w.told i.config ++ failureText "failed to initialize logging" causes
        files := (w.opening i.config).files } := by
  rw [run, hparse]
  have hopening : (Logger.ofSettings (Settings.load w.files (VariableFile.load w.files
      w.environment) i.config w.formats).2.logging w.start.date w.files).result = .error causes := h
  simp only [runCommand, hopening]
  rfl

/-- **A run whose log is open** leaves what its command comes to and what it tells. -/
theorem run_of_logger {i : Invocation} (hparse : parse args = .ok i) {l : Logger}
    (h : (w.opening i.config).result = .ok l) :
    let a := w.activity i
    let written := writeNotices l w.clock 0 a.notices
    run w args =
      { status := a.status
        output := a.output
        errors := w.told i.config ++ written.2
        requests := a.asked.map (Client.ofSettings (w.settings i.config).remote).url
        files := writeLog l written.1 a.files } := by
  rw [run, hparse]
  have hopening : (Logger.ofSettings (Settings.load w.files (VariableFile.load w.files
      w.environment) i.config w.formats).2.logging w.start.date w.files).result = .ok l := h
  simp only [runCommand, hopening]
  rfl

/-! ## Lookups -/

/-- The lookups of a run are those of its resolver. -/
theorem lookups_eq (w : World) (config : String) (noRemote json : Bool) (addresses : List String) :
    let a := reportLookups (w.resolver config noRemote) (w.externalFile config) {}
      (w.opening config).files (colourForced w.inForce) json addresses
    w.lookups config noRemote json addresses =
      { a with notices := (Resolver.startEvents
        ((Command.lookup [] noRemote false).settings (w.settings config))).map .event
          ++ a.notices } := by
  cases noRemote <;> rfl

/-- A run whose log cannot be opened looks nothing up. -/
theorem run_of_unopened (hparse : parse args = .ok ⟨config, .lookup addresses noRemote json⟩)
    {causes : List String} (h : (w.opening config).result = .error causes) :
    run w args =
      { status := 1
        errors := w.told config ++ failureText "failed to initialize logging" causes
        files := (w.opening config).files } :=
  run_of_failure hparse h

/-- **A run whose log is open** leaves what its lookups come to and what they tell. -/
theorem run_of_opened (hparse : parse args = .ok ⟨config, .lookup addresses noRemote json⟩)
    {l : Logger} (h : (w.opening config).result = .ok l) :
    let a := w.lookups config noRemote json addresses
    let written := writeNotices l w.clock 0 a.notices
    run w args =
      { status := a.status
        output := a.output
        errors := w.told config ++ written.2
        requests := a.asked.map (Client.ofSettings (w.settings config).remote).url
        files := writeLog l written.1 a.files } :=
  run_of_logger hparse h

end CountryLookup
