import CountryLookup.Proofs.Settings.Sources
import CountryLookup.Proofs.Toml.Documents

/-!
# When loading is reported

Loading looks for a file in one way and reports it in another. A file is used if it stands at the
path and has the name of a format, or, if no file stands there, if one stands beside the path, which
is the path with the extension of a format behind it. That a file was loaded is reported if anything
at all stands at the path. So the report is right where the two agree, and they do not always: a file
beside the path is used without a word, and a directory at the path, or a file whose name tells no
format, is reported although the settings are those of the environment and the defaults.

Where the two agree is a matter of names alone. Neither the order in which extensions are tried nor
what the readers of the formats make of a document plays a part.

## Main results

* `reported_iff`, `usesFile_iff` — when loading is reported, and when a file is used.
* `agrees_iff` — on which layouts the two agree.
* `report_truthful_iff` — when the report is right.
-/

namespace CountryLookup

open Text

/-! ## Where the two ways agree -/

namespace FileTree

variable {t : FileTree} {path : String} {formats : Formats}

/-- What stands at a path is a file if there is one to be used, and nothing if there is none: a file
whose name tells a format, a directory with a file beside the path, or nothing at the path and no
file beside it. -/
def Agrees (t : FileTree) (path : String) : Prop :=
  match t.stat path with
  | .ok (.regular _) => ∃ f, Tells path f
  | .ok .directory => t.AnyBeside path
  | .error _ => ¬ t.AnyBeside path

/-- What can be read is a file. -/
theorem read_eq_ok_iff {p : String} {bytes : List UInt8} :
    t.read p = .ok bytes ↔ t.stat p = .ok (.regular bytes) := by
  rw [read]
  cases t.stat p with
  | error e => simp [bind, Except.bind]
  | ok e => cases e <;> simp [bind, Except.bind]

/-- **On which layouts the two ways agree.** -/
theorem agrees_iff :
    t.Agrees path ↔ (t.holds path = true ↔ ∃ f bytes, t.Uses path formats f bytes) := by
  rw [Agrees, holds]
  cases hstat : t.stat path with
  | error e =>
      have hno : ∀ bs, t.read path ≠ .ok bs := by simp [read_eq_ok_iff, hstat]
      simp [exists_uses_iff hno]
  | ok e =>
      cases e with
      | directory =>
          have hno : ∀ bs, t.read path ≠ .ok bs := by simp [read_eq_ok_iff, hstat]
          simp [exists_uses_iff hno]
      | regular content =>
          have huses : (∃ f bytes, t.Uses path formats f bytes) ↔ ∃ f, Tells path f := by
            simp only [← configuration?_eq_some_iff,
              configuration?_of_file (read_eq_ok_iff.2 hstat), exists_eq_right]
          simp [huses]

end FileTree

namespace Settings

variable {files : FileTree} {env : Environment} {path : String} {formats : Formats}

/-! ## What is loaded and what is reported -/

/-- Loading says that a file was loaded. -/
def Reported (files : FileTree) (env : Environment) (path : String) (formats : Formats) : Prop :=
  (load files env path formats).1.line? path (formats.cause? files env path) =
    some ("[INFO] Configuration loaded from: " ++ path)

/-- Loading says of no error. -/
def Accepted (files : FileTree) (env : Environment) (path : String) (formats : Formats) : Prop :=
  (load files env path formats).1 ≠ .unbuildable ∧ (load files env path formats).1 ≠ .undecodable

/-- A file is used: it is found and read, and the settings that are loaded are those that its members
give with the environment over them. -/
def UsesFile (files : FileTree) (env : Environment) (path : String) (formats : Formats) : Prop :=
  ∃ format bytes ms vs s, files.Uses path formats format bytes ∧
    formats.members? format (configurationText bytes) = some ms ∧ env.settings? = some vs ∧
      (assignAll vs (assignAll ms (.table []))).toSettings? = some s ∧
        (load files env path formats).2 = s.resolveToken (env.text? tokenVariable)

theorem load_of_tree {tree : Setting} {s : Settings}
    (ht : tree? files env path formats = some tree) (hs : tree.toSettings? = some s) :
    load files env path formats = (if files.holds path then .loaded else .silent,
      s.resolveToken (env.text? tokenVariable)) := by
  simp only [load, loadRaw, ht, hs]

/-- No error means that there is a tree and that it converts. -/
theorem accepted_iff :
    Accepted files env path formats ↔
      ∃ tree s, tree? files env path formats = some tree ∧ tree.toSettings? = some s := by
  constructor
  · rintro ⟨hbuilt, hdecoded⟩
    cases ht : tree? files env path formats with
    | none => exact absurd (by simp only [load, loadRaw, ht]) hbuilt
    | some tree =>
        cases hs : tree.toSettings? with
        | none => exact absurd (by simp only [load, loadRaw, ht, hs]) hdecoded
        | some s => exact ⟨tree, s, rfl, hs⟩
  · rintro ⟨tree, s, ht, hs⟩
    rw [Accepted, load_of_tree ht hs]
    cases files.holds path <;> simp

/-- The line of a failure is not that of a success, whatever its cause. -/
theorem withCause_ne {failure : String} {cause : Option String}
    (h : failure.toList[1]? = some 'E') :
    withCause failure cause ≠ "[INFO] Configuration loaded from: " ++ path := by
  intro heq
  have hsecond := congrArg (fun s => s.toList[1]?) heq
  obtain ⟨hlong, -⟩ := List.getElem?_eq_some_iff.1 h
  simp only [withCause, String.toList_append, List.getElem?_append_left hlong, h] at hsecond
  simp at hsecond

theorem reported_iff_loaded :
    Reported files env path formats ↔ (load files env path formats).1 = .loaded := by
  rw [Reported]
  cases (load files env path formats).1 with
  | loaded => simp [LoadReport.line?]
  | silent => simp [LoadReport.line?]
  | undecodable => simpa [LoadReport.line?] using withCause_ne (by decide)
  | unbuildable => simpa [LoadReport.line?] using withCause_ne (by decide)

/-- **When loading is reported**: if there was no error and anything stands at the path. -/
theorem reported_iff :
    Reported files env path formats ↔
      Accepted files env path formats ∧ files.holds path = true := by
  rw [reported_iff_loaded]
  constructor
  · intro h
    have haccepted : Accepted files env path formats := by
      rw [Accepted, h]
      exact ⟨nofun, nofun⟩
    obtain ⟨tree, s, ht, hs⟩ := accepted_iff.1 haccepted
    rw [load_of_tree ht hs] at h
    cases hholds : files.holds path with
    | true => exact ⟨haccepted, rfl⟩
    | false =>
        rw [hholds] at h
        cases h
  · rintro ⟨haccepted, hholds⟩
    obtain ⟨tree, s, ht, hs⟩ := accepted_iff.1 haccepted
    rw [load_of_tree ht hs, if_pos hholds]

/-- **When a file is used**: if there was no error and there is a file to be used. -/
theorem usesFile_iff :
    UsesFile files env path formats ↔
      Accepted files env path formats ∧ ∃ format bytes, files.Uses path formats format bytes := by
  constructor
  · rintro ⟨format, bytes, ms, vs, s, huses, hms, hvs, hs, -⟩
    refine ⟨accepted_iff.2 ⟨_, s, ?_, hs⟩, format, bytes, huses⟩
    rw [tree?, FileTree.configuration?_eq_some_iff.2 huses]
    simp only [hms, hvs, Option.bind_eq_bind, Option.bind_some, Option.pure_def]
  · rintro ⟨haccepted, format, bytes, huses⟩
    obtain ⟨tree, s, ht, hs⟩ := accepted_iff.1 haccepted
    have htree := ht
    rw [tree?, FileTree.configuration?_eq_some_iff.2 huses] at htree
    simp only [Option.bind_eq_bind, Option.bind_eq_some_iff, Option.pure_def,
      Option.some.injEq] at htree
    obtain ⟨ms, hms, vs, hvs, rfl⟩ := htree
    exact ⟨format, bytes, ms, vs, s, huses, hms, hvs, hs, by rw [load_of_tree ht hs]⟩

/-- **When the report is right.** A file is reported as loaded if nothing went wrong and anything
stands at the path, and one is used if nothing went wrong and there is a file to be used. So the
report is right exactly if something went wrong, in which case neither is so, or if what stands at
the path is a file whose name tells a format, a directory with a file beside the path, or nothing and
no file is beside the path. All formats count for that, whichever is tried first and however its
documents are read. -/
theorem report_truthful_iff (files : FileTree) (env : Environment) (path : String)
    (formats : Formats) :
    (Reported files env path formats ↔
        Accepted files env path formats ∧ files.holds path = true) ∧
      (UsesFile files env path formats ↔
        Accepted files env path formats ∧
          ∃ format bytes, files.Uses path formats format bytes) ∧
      ((Reported files env path formats ↔ UsesFile files env path formats) ↔
        (Accepted files env path formats → files.Agrees path)) := by
  refine ⟨reported_iff, usesFile_iff, ?_⟩
  rw [reported_iff, usesFile_iff, FileTree.agrees_iff, and_congr_right_iff]

/-! ## Where the report is wrong -/

/-- A configuration that sets the token. -/
def tokenText : String := "[remote]\ntoken = \"a\"\n"

/-- A working directory with that configuration under a name. -/
def tokenFile (name : String) : FileTree :=
  ⟨["work"], [(["work", name], .regular (Utf8.encode tokenText))]⟩

theorem parse?_tokenText :
    Toml.parse? tokenText = some [("remote", .table [("token", .text "a")])] := by
  have htables := Toml.Tables.cons (k := "remote") (by decide)
    (.row (k := "token") (by decide) (Toml.reads_text "a") .nil) .nil
  have h := Toml.parse?_writeTables htables (by decide) (by decide)
  exact (congrArg Toml.parse? rfl).trans h

theorem tree?_tokenFile :
    tree? (tokenFile "config.toml") [] "config" .builtin =
      some (.table [("remote", .table [("token", .text "a")])]) := by
  have hfile : (tokenFile "config.toml").configuration? "config" .builtin =
      some (.toml, Utf8.encode tokenText) := rfl
  have hmark : byteOrderMark.isPrefixOf (Utf8.encode tokenText) = false := rfl
  have hnothing : Environment.settings? [] = some [] := rfl
  have hsteps : Step.stepsOf "remote" = [.name "remote"] := rfl
  rw [tree?_of_file hfile hmark parse?_tokenText hnothing, assignAll_cons, hsteps]
  rfl

/-- **A file is used and not reported, and one is reported and not used**: the first stands beside the
path, and the name of the second tells no format. -/
theorem report_untruthful :
    (UsesFile (tokenFile "config.toml") [] "config" .builtin ∧
      (load (tokenFile "config.toml") [] "config" .builtin).2 = { remote := { token := some "a" } } ∧
      ¬ Reported (tokenFile "config.toml") [] "config" .builtin) ∧
    (Reported (tokenFile "config.conf") [] "config.conf" .builtin ∧
      (load (tokenFile "config.conf") [] "config.conf" .builtin).2 = {} ∧
      ¬ UsesFile (tokenFile "config.conf") [] "config.conf" .builtin) := by
  have hsettings : (Setting.table [("remote", .table [("token", .text "a")])]).toSettings? =
      some { remote := { token := some "a" } } := rfl
  have hused : (tokenFile "config.toml").configuration? "config" .builtin =
      some (.toml, Utf8.encode tokenText) := rfl
  have haway : (tokenFile "config.toml").holds "config" = false := rfl
  have hnone : (tokenFile "config.conf").configuration? "config.conf" .builtin = none := rfl
  have hthere : (tokenFile "config.conf").holds "config.conf" = true := rfl
  have hnothing : Environment.settings? [] = some [] := rfl
  have hempty : tree? (tokenFile "config.conf") [] "config.conf" .builtin = some (.table []) := by
    rw [tree?_of_no_file hnone hnothing]
    rfl
  refine ⟨⟨?_, ?_, ?_⟩, ?_, ?_, ?_⟩
  · exact usesFile_iff.2 ⟨accepted_iff.2 ⟨_, _, tree?_tokenFile, hsettings⟩, _, _,
      FileTree.configuration?_eq_some_iff.1 hused⟩
  · rw [load_of_tree tree?_tokenFile hsettings]
    rfl
  · rw [reported_iff, haway]
    simp
  · exact reported_iff.2 ⟨accepted_iff.2 ⟨_, _, hempty, Setting.settings_empty⟩, hthere⟩
  · rw [load_of_tree hempty Setting.settings_empty]
    rfl
  · rintro ⟨format, bytes, -, -, -, huses, -⟩
    rw [FileTree.configuration?_eq_some_iff.2 huses] at hnone
    cases hnone

end Settings

end CountryLookup
