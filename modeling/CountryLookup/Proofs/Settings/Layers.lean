import CountryLookup.Proofs.Settings.Overlay
import CountryLookup.Proofs.Toml.Documents

/-!
# Each setting on its own, or none

Loading settings has two ends. If the file can be read and whatever is said about a setting
converts, every setting is what its variable says, else what the file says, else its default,
whatever becomes of the others. If one value is wrong, or the file cannot be read, all settings
are the defaults. There is nothing between the two.

## Main results

* `load_overlay` — what is loaded, setting by setting, and what is reported.
-/

namespace CountryLookup.Settings

open Text

/-- Whatever the layers say about a field converts. -/
def Converts (env : Environment) (ms : List (String × Setting)) : Prop :=
  ∀ f : Field, f.resolve? (effective env ms f) ≠ none

theorem load_eq {files : FileTree} {env : Environment} {path : String} {formats : Formats}
    {report : LoadReport} {s : Settings} (h : loadRaw files env path formats = (report, s)) :
    load files env path formats = (report, s.resolveToken (env.text? tokenVariable)) := by
  rw [load, h]

/-- **What is loaded, setting by setting.** -/
theorem load_overlay {files : FileTree} {env : Environment} {path : String}
    (hpath : NamesToml files path) (henv : env.Plain)
    (hfile : ∀ ms, fileMembers? files path = some ms → Setting.Shaped ms) (formats : Formats) :
    ∃ s : Settings,
      (load files env path formats).2 =
        { s with remote :=
          { s.remote with token := s.remote.resolvedToken (env.text? tokenVariable) } } ∧
      (∀ ms, fileMembers? files path = some ms → Converts env ms →
        (load files env path formats).1 = success files path ∧
        ∀ f : Field, some (f.get s) = f.resolve? (effective env ms f)) ∧
      (∀ ms, fileMembers? files path = some ms → ¬ Converts env ms →
        (load files env path formats).1 = .undecodable ∧ s = {}) ∧
      (fileMembers? files path = none → (load files env path formats).1 = .unbuildable ∧ s = {}) := by
  cases hm : fileMembers? files path with
  | none =>
      have hload := load_eq (loadRaw_of_unreadable hpath env formats hm)
      rw [hload]
      refine ⟨{}, rfl, ?_, ?_, ?_⟩
      · intro ms h
        cases h
      · intro ms h
        cases h
      · intro _
        exact ⟨rfl, rfl⟩
  | some ms =>
      have htidy := tidy_fileMembers? hm (hfile ms hm)
      rcases Field.settings_or_missing fun f => f.resolve? (effective env ms f) with ⟨s, hs⟩ | hbad
      · have hload := load_eq (loadRaw_of_values hpath henv hm htidy hs formats)
        rw [hload]
        refine ⟨s, rfl, ?_, ?_, ?_⟩
        · intro ms' h _
          cases h
          exact ⟨rfl, fun f => (hs f).symm⟩
        · intro ms' h hnot
          cases h
          apply absurd _ hnot
          intro f hf
          rw [hs f] at hf
          cases hf
        · intro h
          cases h
      · obtain ⟨f, hf⟩ := hbad
        have hload := load_eq (loadRaw_of_bad_value hpath henv hm htidy hf formats)
        rw [hload]
        refine ⟨{}, rfl, ?_, ?_, ?_⟩
        · intro ms' h hall
          cases h
          exact absurd hf (hall f)
        · intro ms' h _
          exact ⟨rfl, rfl⟩
        · intro h
          cases h

/-! ## An example -/

/-- A file that sets some fields, and a name that is none. -/
def partlySet : String :=
  "[extra]\nn = 1\n\n[remote]\nenabled = \"off\"\ntimeout_secs = 7\n\n[logging]\nlevel = \"warn\"\n"

/-- A working directory with that file. -/
def partlySetFiles : FileTree :=
  ⟨["work"], [(["work", "settings.toml"], .regular (Utf8.encode partlySet))]⟩

/-- The members of that file. -/
def partlySetMembers : List (String × Setting) :=
  [ ("extra", .table [("n", .integer 1)]),
    ("remote", .table [("enabled", .text "off"), ("timeout_secs", .integer 7)]),
    ("logging", .table [("level", .text "warn")]) ]

/-- An environment that sets two fields, one of them over the file. -/
def partlySetEnvironment : Environment :=
  [ ("HOME", Utf8.encode "/root"), ("GEOIP__REMOTE__TIMEOUT_SECS", Utf8.encode "9"),
    ("GEOIP__LOGGING__FILE", Utf8.encode "log.txt"), ("IPINFO_TOKEN", Utf8.encode " t ") ]

theorem parse?_partlySet : Toml.parse? partlySet = some partlySetMembers := by
  have hremote : Toml.Rows
      [ ("enabled", some (Toml.writeText "off")), ("timeout_secs", some (decimal 7).toList)]
      [ ("enabled", .text "off"), ("timeout_secs", .integer 7)] :=
    .row (by decide) (Toml.reads_text "off")
      (.row (by decide) (Toml.reads_decimal (n := 7) (by decide)) .nil)
  have htables := Toml.Tables.cons (k := "extra") (by decide)
    (.row (k := "n") (by decide) (Toml.reads_decimal (n := 1) (by decide)) .nil)
    (.cons (k := "remote") (by decide) hremote
      (.cons (k := "logging") (by decide)
        (.row (k := "level") (by decide) (Toml.reads_text "warn") .nil) .nil))
  have h := Toml.parse?_writeTables htables (by decide) (by decide)
  exact (congrArg Toml.parse? rfl).trans h

theorem content?_partlySetFiles :
    partlySetFiles.content? "settings.toml" = some (Utf8.encode partlySet) := rfl

theorem fileMembers?_partlySetFiles :
    fileMembers? partlySetFiles "settings.toml" = some partlySetMembers := by
  have hmark : byteOrderMark.isPrefixOf (Utf8.encode partlySet) = false := rfl
  rw [fileMembers?, content?_partlySetFiles]
  show Toml.parse? (configurationText (Utf8.encode partlySet)) = _
  rw [configurationText_encode hmark, parse?_partlySet]

theorem shaped_partlySetMembers : Setting.Shaped partlySetMembers := by
  refine ⟨by decide, ?_⟩
  intro f x hx
  have htables : ∀ m ∈ partlySetMembers, ∃ ns, m.2 = Setting.table ns := by
    intro m hm
    simp only [partlySetMembers, List.mem_cons, List.not_mem_nil, or_false] at hm
    rcases hm with rfl | rfl | rfl
    · exact ⟨_, rfl⟩
    · exact ⟨_, rfl⟩
    · exact ⟨_, rfl⟩
  exact htables (f.table, x) (Members.mem_of_get? hx)

theorem plain_partlySetEnvironment : partlySetEnvironment.Plain := by
  have hsettings : partlySetEnvironment.settingsOnly =
      [ (Field.timeoutSeconds.variableName, Utf8.encode "9"),
        (Field.file.variableName, Utf8.encode "log.txt") ] := rfl
  constructor
  · rw [hsettings]
    decide
  · rw [hsettings]
    intro e he
    simp only [List.mem_cons, List.not_mem_nil, or_false] at he
    rcases he with rfl | rfl
    · exact ⟨.timeoutSeconds, rfl⟩
    · exact ⟨.file, rfl⟩
  · rw [hsettings]
    intro e he
    simp only [List.mem_cons, List.not_mem_nil, or_false] at he
    rcases he with rfl | rfl
    · exact ⟨"9", Utf8.decode?_encode "9"⟩
    · exact ⟨"log.txt", Utf8.decode?_encode "log.txt"⟩

theorem load_overlay_partlySet :
    load partlySetFiles partlySetEnvironment "settings.toml" =
      (.loaded,
        { remote := { enabled := false, timeoutSeconds := 9, token := some "t" }
          logging := { level := "warn", file := some "log.txt" } }) := by
  have hpath : NamesToml partlySetFiles "settings.toml" := by
    refine ⟨rfl, ?_⟩
    intro hnone
    rw [content?_partlySetFiles] at hnone
    cases hnone
  have hfile : ∀ ms, fileMembers? partlySetFiles "settings.toml" = some ms →
      Setting.Shaped ms := by
    intro ms hms
    rw [fileMembers?_partlySetFiles] at hms
    cases hms
    exact shaped_partlySetMembers
  have hresolve : ∀ f : Field,
      f.resolve? (effective partlySetEnvironment partlySetMembers f) = some (f.get
        { remote := { enabled := false, timeoutSeconds := 9 }
          logging := { level := "warn", file := some "log.txt" } }) := by
    intro f
    cases f <;> rfl
  have hconverts : Converts partlySetEnvironment partlySetMembers := by
    intro f
    rw [hresolve f]
    exact Option.some_ne_none _
  obtain ⟨s, hload, hvalues, _⟩ := load_overlay hpath plain_partlySetEnvironment hfile
    .builtin
  obtain ⟨hreport, hfields⟩ := hvalues partlySetMembers fileMembers?_partlySetFiles hconverts
  have hs : s =
      { remote := { enabled := false, timeoutSeconds := 9 }
        logging := { level := "warn", file := some "log.txt" } } := by
    apply Field.ext_get
    intro f
    exact Option.some.inj ((hfields f).trans (hresolve f))
  have htoken : RemoteSettings.resolvedToken { enabled := false, timeoutSeconds := 9 }
      (partlySetEnvironment.text? tokenVariable) = some "t" := rfl
  have hsuccess : success partlySetFiles "settings.toml" = .loaded := rfl
  subst hs
  rw [htoken] at hload
  rw [hsuccess] at hreport
  exact Prod.ext hreport hload

end CountryLookup.Settings
