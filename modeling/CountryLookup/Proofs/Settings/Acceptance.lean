import CountryLookup.Proofs.Settings.RoundTrip
import CountryLookup.Proofs.Toml.Refusals

/-!
# Which saved settings are accepted

Saving never asks whether what it writes can be read. All texts can, and so can every number of
backups. The seconds that the remote service has to answer are a number of 64 bits without a sign,
though, and an integer of a document has one. So half of these numbers are written, and none of them
is read: the line with the seconds is refused, the document with it, and all settings that were
saved give way to the defaults.

## Main results

* `parse?_render_eq_none_iff` — the documents of settings that are refused.
* `load_saved_eq` — what is loaded after saving, for all settings.
* `load_saved_wide` — settings that are saved and not loaded.
-/

namespace CountryLookup.Settings

open Text Toml

/-! ## The document -/

/-- The tables of a document up to the line with the seconds. -/
def tablesBefore (s : Settings) : List (String × List (String × Option (List Char))) :=
  [ ("database", [("external_path", some (writeText s.database.externalPath))]),
    ("remote",
      [ ("enabled", some (writeTruth s.remote.enabled)),
        ("base_url", some (writeText s.remote.baseUrl))]) ]

/-- What is written up to the line with the seconds spells statements. -/
theorem spells_tablesBefore (s : Settings) :
    ∃ ss, Spells (writeTables (s.tablesBefore.map fun t => writeTable t.1 t.2)) ss := by
  have hdatabase : Rows [("external_path", some (writeText s.database.externalPath))]
      [("external_path", .text s.database.externalPath)] :=
    .row (by decide) (reads_text _) .nil
  have hremote := Rows.row (k := "enabled") (by decide) (reads_writeTruth s.remote.enabled)
    (.row (k := "base_url") (by decide) (reads_text s.remote.baseUrl) .nil)
  exact ⟨_, spells_writeTables (.cons (by decide) hdatabase (.cons (by decide) hremote .nil))⟩

/-- The line with the seconds, and what stands in front of it. -/
theorem render_eq (s : Settings) :
    ∃ rest, s.render = String.ofList
      (writeTables (s.tablesBefore.map fun t => writeTable t.1 t.2) ++
        ("timeout_secs".toList ++ [' ', '=', ' '] ++
          (decimal s.remote.timeoutSeconds.toNat).toList ++ '\n' :: rest)) := by
  refine ⟨((s.remote.token.map fun t => writeLine "token" (writeText t)).getD []) ++ '\n' ::
    writeTable "logging"
      [ ("level", some (writeText s.logging.level)),
        ("format", some (writeText s.logging.format)),
        ("file", s.logging.file.map writeText),
        ("max_backups", some (decimal s.logging.maxBackups.toNat).toList),
        ("enable_rotation", some (writeTruth s.logging.enableRotation))], ?_⟩
  rw [render]
  refine congrArg String.ofList ?_
  cases htoken : s.remote.token with
  | none => simp [tables, tablesBefore, writeTables, writeTable, writeLine, htoken]
  | some t => simp [tables, tablesBefore, writeTables, writeTable, writeLine, htoken]

/-- **The documents of settings that are refused**: those whose seconds do not fit. -/
theorem parse?_render_eq_none_iff (s : Settings) : parse? s.render = none ↔ ¬ s.Storable := by
  constructor
  · intro hnone hstorable
    rw [parse?_render hstorable] at hnone
    cases hnone
  · intro hwide
    obtain ⟨ss, hspells⟩ := s.spells_tablesBefore
    obtain ⟨rest, hrender⟩ := s.render_eq
    have hline : Refuses ("timeout_secs".toList ++ [' ', '=', ' '] ++
        (decimal s.remote.timeoutSeconds.toNat).toList) :=
      refuses_assignment (by decide) (refused_decimal (Nat.not_lt.1 hwide))
    rw [hrender]
    exact parse?_of_refuses hspells hline rest

/-! ## Loading -/

/-- Settings that were saved give way to the defaults if their seconds do not fit. -/
theorem loadRaw_save_of_not_storable {s : Settings} {files after : FileTree} {path : String}
    (hpath : (Path.fileName? path).bind Path.extension? = some "toml") (hwide : ¬ s.Storable)
    (env : Environment) (h : s.save files path = .ok after) (formats : Formats) :
    loadRaw after env path formats = (.unbuildable, {}) := by
  obtain ⟨hnames, hfile⟩ := fileMembers?_save hpath h
  exact loadRaw_of_unreadable hnames env formats (hfile.trans (s.parse?_render_eq_none_iff.2 hwide))

/-- **What is loaded after saving, for all settings.** If no variable changes them, the settings
that were saved are accepted just if their seconds fit an integer of a document, and then they are
loaded as they were, with their token resolved. All others are reported as a document that cannot be
read, and the defaults stand in for every one of their fields. -/
theorem load_saved_eq {s : Settings} {files after : FileTree} {path : String} {env : Environment}
    (hpath : (Path.fileName? path).bind Path.extension? = some "toml")
    (henv : ∀ e ∈ env, Environment.settingName? e.1 = none)
    (h : s.save files path = .ok after) (formats : Formats) :
    load after env path formats =
      if s.remote.timeoutSeconds.toNat < twoTo 63
      then (.loaded, s.resolveToken (env.text? tokenVariable))
      else (.unbuildable, ({} : Settings).resolveToken (env.text? tokenVariable)) := by
  by_cases hseconds : s.remote.timeoutSeconds.toNat < twoTo 63
  · rw [load, loadRaw_save hpath hseconds henv h formats, if_pos hseconds]
  · rw [load, loadRaw_save_of_not_storable hpath hseconds env h formats, if_neg hseconds]

/-- Settings without a remote service, with one second more than fits. -/
def wideSettings : Settings where
  remote := { enabled := false, timeoutSeconds := 9223372036854775808 }
  logging := { maxBackups := 4294967295 }

theorem exists_save (s : Settings) (files : FileTree) (path : String)
    (h : (s.save files path).toOption.isSome = true) : ∃ after, s.save files path = .ok after := by
  cases hs : s.save files path with
  | error e =>
      rw [hs] at h
      cases h
  | ok after => exact ⟨after, rfl⟩

/-- The most seconds that fit, and one more. -/
theorem load_saved_eq_limits :
    (∃ after, oddSettings.save ⟨["work"], []⟩ "conf/settings.toml" = .ok after ∧
        (load after [] "conf/settings.toml").1 = .loaded ∧
        (load after [] "conf/settings.toml").2.remote.timeoutSeconds = 9223372036854775807 ∧
        (load after [] "conf/settings.toml").2.logging.maxBackups = 4294967295) ∧
      ∃ after, wideSettings.save ⟨["work"], []⟩ "conf/settings.toml" = .ok after ∧
        load after [("IPINFO_TOKEN", [0x61])] "conf/settings.toml" =
          (.unbuildable, { remote := { token := some "a" } }) := by
  have hpath : (Path.fileName? "conf/settings.toml").bind Path.extension? = some "toml" := rfl
  constructor
  · obtain ⟨after, hsave⟩ := exists_save oddSettings ⟨["work"], []⟩ "conf/settings.toml"
      (by decide +kernel)
    refine ⟨after, hsave, ?_⟩
    rw [load_saved_eq hpath (fun e he => absurd he List.not_mem_nil) hsave .builtin]
    decide
  · obtain ⟨after, hsave⟩ := exists_save wideSettings ⟨["work"], []⟩ "conf/settings.toml"
      (by decide +kernel)
    have henv : ∀ e ∈ ([("IPINFO_TOKEN", [0x61])] : Environment),
        Environment.settingName? e.1 = none := by decide
    refine ⟨after, hsave, ?_⟩
    rw [load_saved_eq hpath henv hsave .builtin]
    rfl

/-- **Settings that are saved and not loaded.** What is loaded in their place has other seconds and
other backups, and the remote service is asked again. -/
theorem load_saved_wide :
    ∃ after, wideSettings.save ⟨["work"], []⟩ "settings.toml" = .ok after ∧
      (load after [] "settings.toml").1 = .unbuildable ∧
      (load after [] "settings.toml").2.remote.timeoutSeconds ≠
        wideSettings.remote.timeoutSeconds ∧
      (load after [] "settings.toml").2.logging.maxBackups ≠ wideSettings.logging.maxBackups ∧
      wideSettings.remote.enabled = false ∧
      (load after [] "settings.toml").2.remote.enabled = true := by
  have hpath : (Path.fileName? "settings.toml").bind Path.extension? = some "toml" := rfl
  obtain ⟨after, hsave⟩ := exists_save wideSettings ⟨["work"], []⟩ "settings.toml"
    rfl
  have hwide : ¬ wideSettings.remote.timeoutSeconds.toNat < twoTo 63 := by decide
  have hload : load after [] "settings.toml" = (.unbuildable, {}) := by
    rw [load, loadRaw_save_of_not_storable hpath hwide [] hsave .builtin]
    rfl
  refine ⟨after, hsave, ?_⟩
  rw [hload]
  exact ⟨rfl, by decide, by decide, rfl, rfl⟩

end CountryLookup.Settings
