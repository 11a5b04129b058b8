import CountryLookup.Proofs.Files.Changes
import CountryLookup.Proofs.Runs
import CountryLookup.Run.Paths

/-!
# What a run deletes

Only a log that rotates deletes files, and only when it is opened. Which ones is told by their names:
they start as the log's files do and end in `log`, and no more is asked of them. So among them can be
files that no log of that name has ever written. What a run does after that keeps every file, and if
it writes one of those it has just deleted, that file is there in the end.

## Main results

* `Rotation.get?_prune_regular` — the files that pruning leaves.
* `extends_run` — what a run does to the files that pruning left.
* `loses_iff` — the files that a run deletes, and when they are all its own.
-/

namespace CountryLookup

open CommandLine Logging FileTree

/-! ## Pruning -/

namespace Logging.Rotation

/-- The places of the files that pruning deletes. -/
def surplusPlaces (r : Rotation) (most : Nat) (files : FileTree) : List Place :=
  match r.place? files with
  | .ok place => (surplus most (r.counted files place)).map fun name => place ++ [name]
  | .error _ => []

/-- What pruning deletes counts as a file of the log. -/
theorem counts_of_mem_surplusPlaces {r : Rotation} {most : Nat} {files : FileTree} {q : Place}
    (h : q ∈ r.surplusPlaces most files) :
    ∃ place name, r.place? files = .ok place ∧ r.counts name = true ∧ q = place ++ [name] := by
  unfold surplusPlaces at h
  cases hplace : r.place? files with
  | error e =>
      rw [hplace] at h
      cases h
  | ok place =>
      rw [hplace] at h
      obtain ⟨name, hname, rfl⟩ := List.mem_map.1 h
      have hcounts : r.counts name = true := (List.mem_filter.1 (surplus_subset hname)).2
      exact ⟨place, name, rfl, hcounts, rfl⟩

theorem get?_deleteAll_regular (place : Place) (names : List String) (files : FileTree) (q : Place)
    (c : List UInt8) :
    (deleteAll place names files).get? q = some (.regular c) ↔
      files.get? q = some (.regular c) ∧ q ∉ names.map fun name => place ++ [name] := by
  induction names generalizing files with
  | nil => simp [deleteAll]
  | cons name names ih =>
      rw [deleteAll, List.foldl_cons, ← deleteAll, ih, get?_erase, List.map_cons, List.mem_cons]
      by_cases hq : q = place ++ [name]
      · -- a place that could not be emptied belongs to the working directory, and is no file
        by_cases hhome : q.isPrefixOf files.home = true
        · have hdir : files.get? q = some .directory := if_pos hhome
          simp [hdir]
        · simp [hq, Bool.eq_false_iff.2 (hq ▸ hhome)]
      · simp [hq]

/-- **The files that pruning leaves**, which keep their contents. -/
theorem get?_prune_regular (r : Rotation) (most : Nat) (files : FileTree) (q : Place)
    (c : List UInt8) :
    (r.prune most files).1.get? q = some (.regular c) ↔
      files.get? q = some (.regular c) ∧ q ∉ r.surplusPlaces most files := by
  unfold prune surplusPlaces
  cases r.place? files with
  | ok place => exact get?_deleteAll_regular place _ files q c
  | error e => simp

/-- Creating the file of a day. -/
theorem extends_create {r : Rotation} {date : String} {t u : FileTree}
    (h : r.create date t = .ok u) : Extends [r.path date] t u := by
  unfold create at h
  cases hfirst : t.append (r.path date) [] with
  | ok v =>
      rw [hfirst] at h
      cases h
      exact extends_append hfirst
  | error e =>
      rw [hfirst] at h
      dsimp only at h
      cases hdirs : t.createDirectories ((Path.parent? (r.path date)).getD "") with
      | error e =>
          rw [hdirs] at h
          cases h
      | ok v =>
          rw [hdirs] at h
          dsimp only at h
          cases hlast : v.append (r.path date) [] with
          | error e =>
              rw [hlast] at h
              cases h
          | ok v' =>
              rw [hlast] at h
              cases h
              exact (extends_createDirectories hdirs).trans (extends_append hlast)

end Logging.Rotation

/-! ## Opening a log -/

/-- The places of the files that opening a log deletes. -/
def LoggingSettings.surplus (s : LoggingSettings) (files : FileTree) : List Place :=
  match s.rotation? with
  | some r => r.surplusPlaces s.maxBackups.toNat files
  | none => []

/-- The files that opening a log leaves, before it writes. -/
def LoggingSettings.pruned (s : LoggingSettings) (files : FileTree) : FileTree :=
  match s.rotation? with
  | some r => (r.prune s.maxBackups.toNat files).1
  | none => files

theorem LoggingSettings.get?_pruned_regular (s : LoggingSettings) (files : FileTree) (q : Place)
    (c : List UInt8) :
    (s.pruned files).get? q = some (.regular c) ↔
      files.get? q = some (.regular c) ∧ q ∉ s.surplus files := by
  unfold LoggingSettings.pruned LoggingSettings.surplus
  cases s.rotation? with
  | none => simp
  | some r => exact r.get?_prune_regular _ files q c

/-- The path that a sink writes to. -/
def Logging.Sink.paths : Sink → List String
  | .errorStream => []
  | .file path => [path]

/-- The paths that opening something has written to. -/
def Logging.Opening.written {α : Type} (sink : α → Sink) (o : Opening α) : List String :=
  match o.result with
  | .ok a => (sink a).paths
  | .error _ => []

/-- After pruning, opening a sink creates its file. -/
theorem extends_openSink (s : LoggingSettings) (date : String) (files : FileTree) :
    Extends ((Logger.openSink s date files).written id) (s.pruned files)
      (Logger.openSink s date files).files := by
  unfold LoggingSettings.pruned LoggingSettings.rotation? Logger.openSink
  cases hfile : s.file.filter (· ≠ "") with
  | none =>
      rw [Option.map_none, ite_self]
      exact .refl files
  | some file =>
      by_cases hr : s.enableRotation = true
      · simp only [if_pos hr, Option.map_some]
        cases hcreate : (Rotation.ofPath file).create date
            ((Rotation.ofPath file).prune s.maxBackups.toNat files).1 with
        | ok opened => exact Rotation.extends_create hcreate
        | error e => exact .refl _
      · simp only [if_neg hr]
        cases happend : files.append file [] with
        | ok opened => exact extends_append happend
        | error e => exact .refl _

theorem extends_ofSettings (s : LoggingSettings) (date : String) (files : FileTree) :
    Extends ((Logger.ofSettings s date files).written Logger.sink) (s.pruned files)
      (Logger.ofSettings s date files).files := by
  have h := extends_openSink s date files
  unfold Opening.written at h
  cases hresult : (Logger.openSink s date files).result with
  | error causes =>
      rw [hresult] at h
      simp only [Logger.ofSettings, hresult]
      exact h
  | ok sink =>
      rw [hresult] at h
      simp only [Logger.ofSettings, hresult]
      exact h

/-! ## Commands -/

/-- The path that a command writes to. -/
def CommandLine.Command.target? : Command → Option String
  | .configGen output => output
  | _ => none

/-- The paths that a command has written to, once it is known whether it succeeded. -/
def Activity.written (a : Activity) (c : Command) : List String :=
  if a.status = 0 then c.target?.toList else []

/-- A command creates the file that it is to write, if any, and changes no other. -/
theorem extends_carryOut (c : Command) (s : Settings) (net : Network) (files : FileTree)
    (colour : Bool) :
    let a := carryOut c s net files colour
    Extends (a.written c) files a.files := by
  cases c with
  | lookup addresses noRemote json =>
      simp only [Activity.written, Command.target?, Option.toList_none, ite_self]
      exact .refl files
  | source =>
      simp only [Activity.written, Command.target?, Option.toList_none, ite_self]
      simp only [carryOut, runSource]
      split <;> exact .refl files
  | configGen output =>
      cases output with
      | none =>
          simp only [Activity.written, Command.target?, Option.toList_none, ite_self]
          exact .refl files
      | some path =>
          simp only [carryOut, runConfigGen]
          split
          · exact extends_save ‹_›
          · exact .refl files

/-- What is logged is added to the file of the log. -/
theorem extends_writeLog (l : Logger) (log : String) (files : FileTree) :
    Extends [] files (writeLog l log files) ∨
      Extends l.sink.paths files (writeLog l log files) := by
  unfold writeLog Sink.paths
  cases l.sink with
  | errorStream => exact .inl (.refl files)
  | file path =>
      dsimp only
      split
      · exact .inl (.refl files)
      · cases happend : files.append path (Text.Utf8.encode log) with
        | error e => exact .inl (.refl files)
        | ok u => exact .inr (extends_append happend)

/-! ## Runs -/

namespace World

variable (w : World) (args : List String)

/-- The places of the files that a run deletes when it opens its log. -/
def surplus : List Place :=
  match parse args with
  | .error _ => []
  | .ok i => (w.settings i.config).logging.surplus w.files

/-- The files that a run leaves, before it writes. -/
def pruned : FileTree :=
  match parse args with
  | .error _ => w.files
  | .ok i => (w.settings i.config).logging.pruned w.files

/-- The paths that a run writes to: that of its log, and that of its command. -/
def written : List String :=
  match parse args with
  | .error _ => []
  | .ok i =>
    match (w.opening i.config).result with
    | .error _ => []
    | .ok l => l.sink.paths ++ (w.activity i).written i.command

/-- A run writes the file at a place. -/
def Writes (q : Place) : Prop := ∃ p ∈ w.written args, (run w args).files.locate p = .ok q

/-- A run deletes the file at a place. -/
def Loses (q : Place) : Prop := w.files.IsFile q ∧ ¬ (run w args).files.IsFile q

end World

variable (w : World) (args : List String)

theorem get?_pruned_regular (q : Place) (c : List UInt8) :
    (w.pruned args).get? q = some (.regular c) ↔
      w.files.get? q = some (.regular c) ∧ q ∉ w.surplus args := by
  unfold World.pruned World.surplus
  cases parse args with
  | error stop => simp
  | ok i => exact LoggingSettings.get?_pruned_regular _ w.files q c

/-- **What a run does to the files that pruning left**: it writes some, and deletes none. -/
theorem extends_run : Extends (w.written args) (w.pruned args) (run w args).files := by
  unfold World.written World.pruned
  cases hparse : parse args with
  | error stop =>
      rw [run_of_stop hparse]
      exact .refl w.files
  | ok i =>
      have hopening : Extends ((w.opening i.config).written Logger.sink)
          ((w.settings i.config).logging.pruned w.files) (w.opening i.config).files :=
        extends_ofSettings _ _ _
      unfold Opening.written at hopening
      dsimp only
      cases hlog : (w.opening i.config).result with
      | error causes =>
          rw [hlog] at hopening
          rw [run_of_failure hparse hlog]
          exact hopening
      | ok l =>
          rw [hlog] at hopening
          have hactivity : Extends ((w.activity i).written i.command) (w.opening i.config).files
              (w.activity i).files := extends_carryOut _ _ _ _ _
          have hcarried := hopening.trans hactivity
          rw [run_of_logger hparse hlog]
          rcases extends_writeLog l (writeNotices l w.clock 0 (w.activity i).notices).1
              (w.activity i).files with h | h
          · exact (hcarried.trans h).of_mem_iff fun p => by simp
          · -- what is logged goes to a path that is named already
            refine (hcarried.trans h).of_mem_iff fun p => ?_
            simp only [List.mem_append]
            exact ⟨.inl, fun hp => hp.elim id .inl⟩

/-- A file that a run neither deletes nor writes has the same content afterwards. -/
theorem get?_run_of_not_writes {q : Place} (hq : ¬ w.Writes args q) (c : List UInt8) :
    (run w args).files.get? q = some (.regular c) ↔
      w.files.get? q = some (.regular c) ∧ q ∉ w.surplus args := by
  rw [← get?_pruned_regular]
  exact (extends_run w args).kept q (fun p hp hlocate => hq ⟨p, hp, hlocate⟩) c

/-- What a run writes is a file afterwards. -/
theorem World.Writes.isFile {q : Place} (hq : w.Writes args q) : (run w args).files.IsFile q := by
  obtain ⟨p, hp, hlocate⟩ := hq
  obtain ⟨q', hlocate', hfile⟩ := (extends_run w args).ends p hp
  rw [hlocate] at hlocate'
  cases hlocate'
  exact hfile

/-! ## Logs of a run -/

/-- Whether a text is a date: the digits of a year, a month and a day. -/
def Logging.isDate (s : String) : Bool :=
  match s.toList with
  | [a, b, c, d, '-', e, f, '-', g, h] => [a, b, c, d, e, f, g, h].all Char.isDigit
  | _ => false

/-- The place of a file beside the log of a run whose name counts. -/
def World.Counts (q : Place) : Prop :=
  ∃ i r place name, parse args = .ok i ∧ (w.settings i.config).logging.rotation? = some r ∧
    r.place? w.files = .ok place ∧ r.counts name = true ∧ q = place ++ [name]

/-- The place of a log of a run from some day. -/
def World.OwnLog (q : Place) : Prop :=
  ∃ i r place date, parse args = .ok i ∧ (w.settings i.config).logging.rotation? = some r ∧
    r.place? w.files = .ok place ∧ isDate date = true ∧ q = place ++ [r.fileName date]

variable {w args} in
theorem World.counts_of_mem_surplus {q : Place} (h : q ∈ w.surplus args) : w.Counts args q := by
  unfold World.surplus at h
  cases hparse : parse args with
  | error stop =>
      rw [hparse] at h
      cases h
  | ok i =>
      rw [hparse] at h
      dsimp only [LoggingSettings.surplus] at h
      cases hr : (w.settings i.config).logging.rotation? with
      | none =>
          rw [hr] at h
          cases h
      | some r =>
          rw [hr] at h
          obtain ⟨place, name, hplace, hcounts, hq⟩ := Rotation.counts_of_mem_surplusPlaces h
          exact ⟨i, r, place, name, hparse, hr, hplace, hcounts, hq⟩

/-- **The files that a run deletes** are those of the surplus, unless the run writes them again. They
all stand beside its log and have names that count. They are logs of its own just if the surplus
holds no other files. -/
theorem loses_iff :
    (∀ q, w.Loses args q ↔ w.files.IsFile q ∧ q ∈ w.surplus args ∧ ¬ w.Writes args q) ∧
      (∀ q, w.Loses args q → w.Counts args q) ∧
      ((∀ q, w.Loses args q → w.OwnLog args q) ↔
        ∀ q ∈ w.surplus args, w.files.IsFile q → w.OwnLog args q ∨ w.Writes args q) := by
  have hloses : ∀ q, w.Loses args q ↔
      w.files.IsFile q ∧ q ∈ w.surplus args ∧ ¬ w.Writes args q := by
    intro q
    constructor
    · rintro ⟨⟨c, hc⟩, hgone⟩
      have hwrites : ¬ w.Writes args q := fun h => hgone h.isFile
      have hsurplus : q ∈ w.surplus args := Decidable.byContradiction fun h =>
        hgone ⟨c, (get?_run_of_not_writes w args hwrites c).2 ⟨hc, h⟩⟩
      exact ⟨⟨c, hc⟩, hsurplus, hwrites⟩
    · rintro ⟨hfile, hsurplus, hwrites⟩
      refine ⟨hfile, ?_⟩
      rintro ⟨c, hc⟩
      exact ((get?_run_of_not_writes w args hwrites c).1 hc).2 hsurplus
  refine ⟨hloses, fun q hlost => World.counts_of_mem_surplus ((hloses q).1 hlost).2.1, ?_⟩
  constructor
  · intro h q hsurplus hfile
    by_cases hwrites : w.Writes args q
    · exact .inr hwrites
    · exact .inl (h q ((hloses q).2 ⟨hfile, hsurplus, hwrites⟩))
  · intro h q hlost
    obtain ⟨hfile, hsurplus, hwrites⟩ := (hloses q).1 hlost
    exact (h q hsurplus hfile).resolve_right hwrites

/-- A world in which the log is to be the only one of its name, next to a file of another program
whose name starts alike. -/
def crowdedWorld : World where
  files := ⟨["work"],
    [(["work", "logs"], .directory), (["work", "logs", "application.log"], .regular [104, 105])]⟩
  environment :=
    [ ("GEOIP__LOGGING__FILE", Text.Utf8.encode "logs/app.log"),
      ("GEOIP__LOGGING__MAX_BACKUPS", Text.Utf8.encode "1")]
  network := Network.unreachable
  start := ⟨0⟩
  clock n := ⟨n⟩

/-- **A file of another program is deleted.** -/
theorem loses_application_log :
    let w := crowdedWorld
    let args := ["config-gen"]
    let q := ["work", "logs", "application.log"]
    (w.settings "config.toml").logging.file = some "logs/app.log" ∧
      (w.settings "config.toml").logging.enableRotation = true ∧
      (w.settings "config.toml").logging.maxBackups = 1 ∧
      w.Loses args q ∧ ¬ w.OwnLog args q := by
  intro w args q
  have hlogging : (w.settings "config.toml").logging =
      { file := some "logs/app.log", maxBackups := 1 } := by decide +kernel
  have hgone : (run w args).files.get? q = none := by decide +kernel
  refine ⟨by rw [hlogging], by rw [hlogging], by rw [hlogging], ⟨⟨[104, 105], rfl⟩, ?_⟩, ?_⟩
  · rintro ⟨c, hc⟩
    rw [hgone] at hc
    cases hc
  · rintro ⟨i, r, place, date, hparse, hrotation, hplace, -, hq⟩
    have hi : (parse args).toOption = some ⟨"config.toml", .configGen none⟩ := by decide +kernel
    rw [hparse] at hi
    cases hi
    have hr : LoggingSettings.rotation? { file := some "logs/app.log", maxBackups := 1 } =
        some ⟨"logs", "app"⟩ := by decide +kernel
    rw [hlogging, hr] at hrotation
    cases hrotation
    -- behind the name of the log a dot should stand, and there stands a letter
    have hname : "application.log" = Rotation.fileName ⟨"logs", "app"⟩ date :=
      List.singleton_inj.1 (List.append_inj_right' (show ["work", "logs"] ++ _ = _ from hq) rfl)
    have hchars := congrArg (fun s : String => s.toList[3]?) hname
    simp [Rotation.fileName, String.toList_append] at hchars

end CountryLookup
