import CountryLookup.Proofs.Files
import CountryLookup.Proofs.Settings.Overlay
import CountryLookup.Proofs.Text.Utf8
import CountryLookup.Proofs.Toml.Documents
import CountryLookup.Settings.Save

/-!
# Saving and loading

Saved settings are a document of three tables. It is read back as those tables, whatever texts the
settings hold, and each field is decoded to the value that was written. Only numbers that no
integer of a document can hold are lost, so the time that the remote service has to answer must
fit 63 bits.

## Main results

* `parse?_render` — the document of settings is read as their tables.
* `load_save` — saved settings are loaded, with their token resolved.
-/

namespace CountryLookup.Settings

open Text Toml

/-! ## The document -/

/-- The members of the table that settings are saved as. -/
def saved (s : Settings) : List (String × List (String × Setting)) :=
  [ ("database", [("external_path", .text s.database.externalPath)]),
    ("remote",
      [ ("enabled", .truth s.remote.enabled),
        ("base_url", .text s.remote.baseUrl),
        ("timeout_secs", .integer s.remote.timeoutSeconds.toNat)] ++
      (s.remote.token.map fun t => ("token", Setting.text t)).toList),
    ("logging",
      [ ("level", .text s.logging.level),
        ("format", .text s.logging.format)] ++
      (s.logging.file.map fun t => ("file", Setting.text t)).toList ++
      [ ("max_backups", .integer s.logging.maxBackups.toNat),
        ("enable_rotation", .truth s.logging.enableRotation)]) ]

/-- The number of seconds fits an integer of a document. -/
def Storable (s : Settings) : Prop := s.remote.timeoutSeconds.toNat < twoTo 63

theorem reads_writeTruth (b : Bool) : Reads (writeTruth b) (.truth b) := reads_truth b

theorem reads_seconds {s : Settings} (h : s.Storable) :
    Reads (decimal s.remote.timeoutSeconds.toNat).toList
      (.integer s.remote.timeoutSeconds.toNat) :=
  reads_decimal h

theorem reads_backups (s : Settings) :
    Reads (decimal s.logging.maxBackups.toNat).toList (.integer s.logging.maxBackups.toNat) := by
  apply reads_decimal
  have h32 : s.logging.maxBackups.toNat < twoTo 32 := s.logging.maxBackups.toNat_lt
  have h63 : twoTo 32 ≤ twoTo 63 := by decide
  omega

/-- A field that may be absent, before other fields. -/
theorem rows_option {k : String} (hk : IsName k) (t : Option String)
    {fs : List (String × Option (List Char))} {ms : List (String × Setting)} (h : Rows fs ms) :
    Rows ((k, t.map writeText) :: fs) ((t.map fun t => (k, Setting.text t)).toList ++ ms) := by
  cases t with
  | none => exact .absent k h
  | some t => exact .row hk (reads_text t) h

/-- The tables that are written are read as the saved ones. -/
theorem tables_saved {s : Settings} (h : s.Storable) : Tables s.tables s.saved := by
  have hdatabase : Rows [("external_path", some (writeText s.database.externalPath))]
      [("external_path", .text s.database.externalPath)] :=
    .row (by decide) (reads_text _) .nil
  have htoken := rows_option (k := "token") (by decide) s.remote.token .nil
  rw [List.append_nil] at htoken
  have hrotation : Rows
      [("max_backups", some (decimal s.logging.maxBackups.toNat).toList),
        ("enable_rotation", some (writeTruth s.logging.enableRotation))]
      [("max_backups", .integer s.logging.maxBackups.toNat),
        ("enable_rotation", .truth s.logging.enableRotation)] :=
    .row (by decide) (reads_backups s) (.row (by decide) (reads_writeTruth _) .nil)
  have hfile := rows_option (k := "file") (by decide) s.logging.file hrotation
  have hremote := Rows.row (k := "enabled") (by decide) (reads_writeTruth s.remote.enabled)
    (.row (k := "base_url") (by decide) (reads_text s.remote.baseUrl)
      (.row (k := "timeout_secs") (by decide) (reads_seconds h) htoken))
  have hlogging := Rows.row (k := "level") (by decide) (reads_text s.logging.level)
    (.row (k := "format") (by decide) (reads_text s.logging.format) hfile)
  exact .cons (by decide) hdatabase
    (.cons (by decide) hremote (.cons (by decide) hlogging .nil))

/-- No name is written twice. -/
theorem nodup_saved (s : Settings) :
    (s.saved.map (·.1)).Nodup ∧ ∀ u ∈ s.saved, (Members.names u.2).Nodup := by
  refine ⟨?_, ?_⟩
  · show ["database", "remote", "logging"].Nodup
    decide
  · intro u hu
    simp only [saved, List.mem_cons, List.not_mem_nil, or_false] at hu
    rcases hu with rfl | rfl | rfl
    · show ["external_path"].Nodup
      decide
    · cases s.remote.token with
      | none =>
          show ["enabled", "base_url", "timeout_secs"].Nodup
          decide
      | some t =>
          show ["enabled", "base_url", "timeout_secs", "token"].Nodup
          decide
    · cases s.logging.file with
      | none =>
          show ["level", "format", "max_backups", "enable_rotation"].Nodup
          decide
      | some t =>
          show ["level", "format", "file", "max_backups", "enable_rotation"].Nodup
          decide

/-- The members of the document of settings. -/
def savedMembers (s : Settings) : List (String × Setting) :=
  s.saved.map fun u => (u.1, .table u.2)

/-- **The document of settings is read as their tables.** -/
theorem parse?_render {s : Settings} (h : s.Storable) : parse? s.render = some s.savedMembers :=
  parse?_writeTables (tables_saved h) (nodup_saved s).1 (nodup_saved s).2

/-- No mark of the byte order stands in front of a document of settings. -/
theorem configurationText_render (s : Settings) :
    configurationText (Utf8.encode s.render) = s.render := by
  have hhead : ∃ cs, s.render.toList = '[' :: cs := by
    rw [render, String.toList_ofList]
    exact ⟨_, rfl⟩
  obtain ⟨cs, hcs⟩ := hhead
  have hmark : byteOrderMark.isPrefixOf (Utf8.encode s.render) = false := by
    rw [Utf8.encode, hcs]
    rfl
  exact configurationText_encode hmark

/-! ## The fields -/

theorem tidy_savedMembers {s : Settings} (h : s.Storable) : Setting.Tidy s.savedMembers := by
  apply Setting.tidy_of_parse? (parse?_render h)
  constructor
  · show ∀ k ∈ ["database", "remote", "logging"], k.toList.all Step.isWordChar = true
    decide
  · intro f x hx
    rw [savedMembers, Members.get?_map] at hx
    obtain ⟨ns, _, rfl⟩ := Option.map_eq_some_iff.1 hx
    exact ⟨ns, rfl⟩

theorem toNat?_integer {n bits : Nat} (h : n < twoTo bits) :
    Setting.toNat? bits (.integer n) = some n := by
  have hi : (0 : Int) ≤ n ∧ (n : Int).toNat < twoTo bits := by
    rw [Int.toNat_natCast]
    exact ⟨Int.natCast_nonneg n, h⟩
  simp only [Setting.toNat?, Setting.toWhole?]
  rw [if_pos hi, Int.toNat_natCast]

/-- What is saved of a field. -/
def savedValue (s : Settings) : Field → Option Setting
  | .externalPath => some (.text s.database.externalPath)
  | .enabled => some (.truth s.remote.enabled)
  | .baseUrl => some (.text s.remote.baseUrl)
  | .timeoutSeconds => some (.integer s.remote.timeoutSeconds.toNat)
  | .token => s.remote.token.map .text
  | .level => some (.text s.logging.level)
  | .format => some (.text s.logging.format)
  | .file => s.logging.file.map .text
  | .maxBackups => some (.integer s.logging.maxBackups.toNat)
  | .enableRotation => some (.truth s.logging.enableRotation)

theorem at?_savedMembers (s : Settings) (f : Field) :
    (Setting.table s.savedMembers).at? f = s.savedValue f := by
  obtain ⟨database, ⟨enabled, baseUrl, seconds, token⟩,
    ⟨level, format, file, backups, rotation⟩⟩ := s
  cases token with
  | none =>
      cases file with
      | none => cases f <;> rfl
      | some p => cases f <;> rfl
  | some t =>
      cases file with
      | none => cases f <;> rfl
      | some p => cases f <;> rfl

/-- **Every field is decoded to the value that was saved.** -/
theorem resolve?_savedValue (s : Settings) (f : Field) :
    f.resolve? (s.savedValue f) = some (f.get s) := by
  cases f with
  | timeoutSeconds =>
      have hlt : s.remote.timeoutSeconds.toNat < twoTo 64 := s.remote.timeoutSeconds.toNat_lt
      show (Setting.toNat? 64 (.integer s.remote.timeoutSeconds.toNat)).map UInt64.ofNat = _
      rw [toNat?_integer hlt, Option.map_some, UInt64.ofNat_toNat]
      rfl
  | maxBackups =>
      have hlt : s.logging.maxBackups.toNat < twoTo 32 := s.logging.maxBackups.toNat_lt
      show (Setting.toNat? 32 (.integer s.logging.maxBackups.toNat)).map UInt32.ofNat = _
      rw [toNat?_integer hlt, Option.map_some, UInt32.ofNat_toNat]
      rfl
  | token =>
      show Field.resolve? .token (s.remote.token.map .text) = some s.remote.token
      cases s.remote.token with
      | none => rfl
      | some t => rfl
  | file =>
      show Field.resolve? .file (s.logging.file.map .text) = some s.logging.file
      cases s.logging.file with
      | none => rfl
      | some t => rfl
  | _ => rfl

/-! ## Loading -/

/-- The file that is read is the one that was saved. -/
theorem fileMembers?_save {s : Settings} {files after : FileTree} {path : String}
    (hpath : (Path.fileName? path).bind Path.extension? = some "toml")
    (h : s.save files path = .ok after) :
    NamesToml after path ∧ fileMembers? after path = parse? s.render := by
  obtain ⟨ready, _, hwrite⟩ := save_eq_ok h
  have hcontent : after.content? path = some (Utf8.encode s.render) := by
    rw [FileTree.content?, FileTree.read_write hwrite]
    rfl
  refine ⟨⟨hpath, fun hnone => ?_⟩, ?_⟩
  · rw [hcontent] at hnone
    cases hnone
  · rw [fileMembers?, hcontent]
    show parse? (configurationText (Utf8.encode s.render)) = _
    rw [configurationText_render]

/-- Settings that were saved are loaded as they were, if no variable changes them. -/
theorem loadRaw_save {s : Settings} {files after : FileTree} {path : String} {env : Environment}
    (hpath : (Path.fileName? path).bind Path.extension? = some "toml")
    (hseconds : s.Storable) (henv : ∀ e ∈ env, Environment.settingName? e.1 = none)
    (h : s.save files path = .ok after) (formats : Formats) :
    loadRaw after env path formats = (.loaded, s) := by
  obtain ⟨ready, _, hwrite⟩ := save_eq_ok h
  obtain ⟨hnames, hread⟩ := fileMembers?_save hpath h
  have hfile : fileMembers? after path = some s.savedMembers :=
    hread.trans (parse?_render hseconds)
  have hplain := Environment.plain_of_none henv
  have hsaid : ∀ f : Field, env.said f = none := by
    intro f
    apply Environment.said_of_not_mem
    rw [Environment.settingsOnly_eq_nil henv]
    exact List.not_mem_nil
  have hvalues : ∀ f : Field, f.resolve? (effective env s.savedMembers f) = some (f.get s) := by
    intro f
    rw [effective, hsaid f, Option.none_or, at?_savedMembers, resolve?_savedValue]
  rw [loadRaw_of_values hnames hplain hfile (tidy_savedMembers hseconds) hvalues formats, success,
    FileTree.holds_write hwrite]
  rfl

/-- **Saved settings are loaded, with their token resolved.** Nothing of what they hold is lost on
the way: whatever characters the texts are made of, and whether or not there is a token and a
file. -/
theorem load_save {s : Settings} {files after : FileTree} {path : String} {env : Environment}
    (hpath : (Path.fileName? path).bind Path.extension? = some "toml")
    (hseconds : s.remote.timeoutSeconds.toNat < twoTo 63)
    (henv : ∀ e ∈ env, Environment.settingName? e.1 = none)
    (h : s.save files path = .ok after) (formats : Formats) :
    load after env path formats =
      (.loaded,
        { s with remote :=
          { s.remote with token := s.remote.resolvedToken (env.text? tokenVariable) } }) := by
  rw [load, loadRaw_save hpath hseconds henv h formats]
  rfl

/-- Settings whose texts need every style of writing: quotes of both kinds in long runs, breaks of
both kinds, controls, nothing at all. -/
def oddSettings : Settings where
  database := { externalPath := "C:\\data\\'lite' \"copy\".mmdb" }
  remote :=
    { enabled := false
      baseUrl := "\n\"\"\"\"\"\r\n\\'''"
      timeoutSeconds := 9223372036854775807
      token := some " \t\u0001'\u007f " }
  logging :=
    { level := ""
      format := "'''\\\n'' \\"
      file := some "\\ \"\" \u00e9\u2028"
      maxBackups := 4294967295
      enableRotation := false }

theorem load_save_oddSettings :
    ∃ after, oddSettings.save ⟨["work"], []⟩ "settings.toml" = .ok after ∧
      load after [("IPINFO_TOKEN", [0x61])] "settings.toml" =
        (.loaded,
          { oddSettings with remote :=
            { oddSettings.remote with token := some "\u0001'\u007f" } }) := by
  have hsaves : (oddSettings.save ⟨["work"], []⟩ "settings.toml").toOption.isSome = true := rfl
  cases hs : oddSettings.save ⟨["work"], []⟩ "settings.toml" with
  | error e =>
      rw [hs] at hsaves
      cases hsaves
  | ok after =>
      have henv : ∀ e ∈ ([("IPINFO_TOKEN", [0x61])] : Environment),
          Environment.settingName? e.1 = none := by
        decide
      have htoken : oddSettings.remote.resolvedToken
          (Environment.text? [("IPINFO_TOKEN", [0x61])] tokenVariable) =
            some "\u0001'\u007f" := rfl
      refine ⟨after, rfl, ?_⟩
      rw [load_save rfl (by decide) henv hs .builtin, htoken]

end CountryLookup.Settings
