import CountryLookup.Settings.Decode

/-!
# Settings one by one

There are ten settings. Each has a place, a name in one of three tables, a variable of the
environment that sets it, a type, a conversion and a default. A configuration in which the three
tables are tables gives each setting on its own: the decoder of the whole configuration accepts it
if and only if every setting that is there converts, and then every one of them has its converted
value or its default.

## Main results

* `ext_get`, `settings_or_missing` — the ten settings are all there is to settings.
* `toSettings?_eq_some_iff` — a configuration is decoded setting by setting.
-/

namespace CountryLookup

/-- A value that may be missing, converted; the default if it is. -/
def Setting.convertOr {α : Type} (default : α) (convert : Setting → Option α) :
    Option Setting → Option α
  | none => some default
  | some v => convert v

/-- The settings, one by one. -/
inductive Field where
  | externalPath
  | enabled | baseUrl | timeoutSeconds | token
  | level | format | file | maxBackups | enableRotation
  deriving Repr, DecidableEq

namespace Field

/-- The table that a field stands in. -/
def table : Field → String
  | externalPath => "database"
  | enabled => "remote"
  | baseUrl => "remote"
  | timeoutSeconds => "remote"
  | token => "remote"
  | level => "logging"
  | format => "logging"
  | file => "logging"
  | maxBackups => "logging"
  | enableRotation => "logging"

/-- The name of a field in its table. -/
def name : Field → String
  | externalPath => "external_path"
  | enabled => "enabled"
  | baseUrl => "base_url"
  | timeoutSeconds => "timeout_secs"
  | token => "token"
  | level => "level"
  | format => "format"
  | file => "file"
  | maxBackups => "max_backups"
  | enableRotation => "enable_rotation"

/-- The variable of the environment that sets a field. -/
def variableName : Field → String
  | externalPath => "GEOIP__DATABASE__EXTERNAL_PATH"
  | enabled => "GEOIP__REMOTE__ENABLED"
  | baseUrl => "GEOIP__REMOTE__BASE_URL"
  | timeoutSeconds => "GEOIP__REMOTE__TIMEOUT_SECS"
  | token => "GEOIP__REMOTE__TOKEN"
  | level => "GEOIP__LOGGING__LEVEL"
  | format => "GEOIP__LOGGING__FORMAT"
  | file => "GEOIP__LOGGING__FILE"
  | maxBackups => "GEOIP__LOGGING__MAX_BACKUPS"
  | enableRotation => "GEOIP__LOGGING__ENABLE_ROTATION"

/-- What a field holds. -/
abbrev Value : Field → Type
  | externalPath => String
  | enabled => Bool
  | baseUrl => String
  | timeoutSeconds => UInt64
  | token => Option String
  | level => String
  | format => String
  | file => Option String
  | maxBackups => UInt32
  | enableRotation => Bool

/-- The value of a field in settings. -/
def get (s : Settings) : (f : Field) → f.Value
  | externalPath => s.database.externalPath
  | enabled => s.remote.enabled
  | baseUrl => s.remote.baseUrl
  | timeoutSeconds => s.remote.timeoutSeconds
  | token => s.remote.token
  | level => s.logging.level
  | format => s.logging.format
  | file => s.logging.file
  | maxBackups => s.logging.maxBackups
  | enableRotation => s.logging.enableRotation

/-- A value of a configuration as the value of a field. -/
def convert? : (f : Field) → Setting → Option f.Value
  | externalPath, v => v.toText?
  | enabled, v => v.toTruth?
  | baseUrl, v => v.toText?
  | timeoutSeconds, v => (v.toNat? 64).map UInt64.ofNat
  | token, v => v.toTextOption?
  | level, v => v.toText?
  | format, v => v.toText?
  | file, v => v.toTextOption?
  | maxBackups, v => (v.toNat? 32).map UInt32.ofNat
  | enableRotation, v => v.toTruth?

/-- What a field is if a configuration gives it a value, or none: the converted value, or the
default. -/
def resolve? (f : Field) : Option Setting → Option f.Value :=
  Setting.convertOr (f.get {}) f.convert?

/-- The settings with given values. -/
def ofValues (g : (f : Field) → f.Value) : Settings where
  database := { externalPath := g externalPath }
  remote :=
    { enabled := g enabled
      baseUrl := g baseUrl
      timeoutSeconds := g timeoutSeconds
      token := g token }
  logging :=
    { level := g level
      format := g format
      file := g file
      maxBackups := g maxBackups
      enableRotation := g enableRotation }

theorem get_ofValues (g : (f : Field) → f.Value) (f : Field) : f.get (ofValues g) = g f := by
  cases f <;> rfl

/-- **Settings with the same ten values are the same.** -/
theorem ext_get {s t : Settings} (h : ∀ f : Field, f.get s = f.get t) : s = t := by
  have hs : ∀ u : Settings, ofValues (fun f => f.get u) = u := fun _ => rfl
  rw [← hs s, ← hs t]
  exact congrArg ofValues (funext h)

/-- Ten answers either make up settings, or one of them is missing. -/
theorem settings_or_missing (r : (f : Field) → Option f.Value) :
    (∃ s : Settings, ∀ f : Field, r f = some (f.get s)) ∨ ∃ f : Field, r f = none := by
  by_cases h : ∃ f : Field, r f = none
  · exact .inr h
  · have hsome : ∀ f : Field, ∃ x, r f = some x := by
      intro f
      rw [← Option.ne_none_iff_exists']
      intro hf
      exact h ⟨f, hf⟩
    refine .inl ⟨ofValues fun f => (hsome f).choose, ?_⟩
    intro f
    rw [get_ofValues]
    exact (hsome f).choose_spec

/-- No two fields have the same place. -/
theorem eq_of_place {f g : Field} (ht : f.table = g.table) (hn : f.name = g.name) : f = g := by
  revert ht hn
  cases f <;> cases g <;> first | (intros; rfl) | (intro ht hn; exact absurd hn (by decide))

end Field

namespace Setting

/-- The members of a table of a configuration; none if it is missing. -/
def membersOf (v : Setting) (table : String) : List (String × Setting) :=
  ((Members.get? table v.members).map members).getD []

/-- What a configuration says about a field. -/
def at? (v : Setting) (f : Field) : Option Setting := Members.get? f.name (v.membersOf f.table)

/-- A configuration is a table, and each of the tables of the fields is one if it is there. -/
structure Sectioned (v : Setting) : Prop where
  isTable : ∃ ms, v = table ms
  tables : ∀ (f : Field) (x : Setting),
    Members.get? f.table v.members = some x → ∃ ns, x = table ns

/-! ## Fields of a table -/

theorem fieldOr_table {α : Type} (ms : List (String × Setting)) (name : String) (position : Nat)
    (default : α) (convert : Setting → Option α) :
    fieldOr (table ms) name position default convert =
      convertOr default convert (Members.get? name ms) := by
  unfold fieldOr field?
  dsimp only
  cases Members.get? name ms with
  | none => rfl
  | some x => rfl

/-- A missing table counts as an empty one. -/
theorem fieldOr_membersOf {α : Type} {v : Setting} (h : v.Sectioned) (f : Field) (position : Nat)
    (default : α) (convert : Setting → Option α) (hd : convert (table []) = some default) :
    fieldOr v f.table position default convert = convert (table (v.membersOf f.table)) := by
  obtain ⟨ms, rfl⟩ := h.isTable
  rw [fieldOr_table, membersOf]
  cases hg : Members.get? f.table ms with
  | none =>
      rw [show Members.get? f.table (table ms).members = none from hg]
      exact hd.symm
  | some x =>
      obtain ⟨ns, rfl⟩ := h.tables f x hg
      rw [show Members.get? f.table (table ms).members = some (table ns) from hg]
      rfl

theorem convertOr_map {α β : Type} (g : α → β) (default : α) (convert : Setting → Option α)
    (v : Option Setting) :
    (convertOr default convert v).map g =
      convertOr (g default) (fun x => (convert x).map g) v := by
  cases v with
  | none => rfl
  | some x => rfl

/-! ## Tables of fields -/

theorem toDatabase?_eq_some_iff {ms : List (String × Setting)} {d : DatabaseSettings} :
    toDatabase? (table ms) = some d ↔
      Field.resolve? .externalPath (Members.get? "external_path" ms) = some d.externalPath := by
  simp only [toDatabase?, fieldOr_table, bind, pure, Option.bind_eq_some_iff, Option.some.injEq]
  constructor
  · rintro ⟨path, hp, rfl⟩
    exact hp
  · intro hp
    exact ⟨d.externalPath, hp, rfl⟩

theorem toRemote?_eq_some_iff {ms : List (String × Setting)} {d : RemoteSettings} :
    toRemote? (table ms) = some d ↔
      Field.resolve? .enabled (Members.get? "enabled" ms) = some d.enabled ∧
      Field.resolve? .baseUrl (Members.get? "base_url" ms) = some d.baseUrl ∧
      Field.resolve? .timeoutSeconds (Members.get? "timeout_secs" ms) = some d.timeoutSeconds ∧
      Field.resolve? .token (Members.get? "token" ms) = some d.token := by
  have hn := convertOr_map UInt64.ofNat ({} : RemoteSettings).timeoutSeconds.toNat (toNat? 64)
    (Members.get? "timeout_secs" ms)
  simp only [toRemote?, fieldOr_table, bind, pure, Option.bind_eq_some_iff, Option.some.injEq]
  constructor
  · rintro ⟨enabled, he, url, hu, seconds, hs, token, ht, rfl⟩
    refine ⟨he, hu, ?_, ht⟩
    rw [hs] at hn
    exact hn.symm
  · rintro ⟨he, hu, hs, ht⟩
    obtain ⟨seconds, hs, hd⟩ := Option.map_eq_some_iff.1 (hn.trans hs)
    refine ⟨d.enabled, he, d.baseUrl, hu, seconds, hs, d.token, ht, ?_⟩
    rw [hd]

theorem toLogging?_eq_some_iff {ms : List (String × Setting)} {d : LoggingSettings} :
    toLogging? (table ms) = some d ↔
      Field.resolve? .level (Members.get? "level" ms) = some d.level ∧
      Field.resolve? .format (Members.get? "format" ms) = some d.format ∧
      Field.resolve? .file (Members.get? "file" ms) = some d.file ∧
      Field.resolve? .maxBackups (Members.get? "max_backups" ms) = some d.maxBackups ∧
      Field.resolve? .enableRotation (Members.get? "enable_rotation" ms) =
        some d.enableRotation := by
  have hn := convertOr_map UInt32.ofNat ({} : LoggingSettings).maxBackups.toNat (toNat? 32)
    (Members.get? "max_backups" ms)
  simp only [toLogging?, fieldOr_table, bind, pure, Option.bind_eq_some_iff, Option.some.injEq]
  constructor
  · rintro ⟨level, hl, format, hf, file, hp, backups, hb, rotation, hr, rfl⟩
    refine ⟨hl, hf, hp, ?_, hr⟩
    rw [hb] at hn
    exact hn.symm
  · rintro ⟨hl, hf, hp, hb, hr⟩
    obtain ⟨backups, hb, hd⟩ := Option.map_eq_some_iff.1 (hn.trans hb)
    refine ⟨d.level, hl, d.format, hf, d.file, hp, backups, hb, d.enableRotation, hr, ?_⟩
    rw [hd]

/-! ## All fields -/

/-- **A configuration is decoded setting by setting.** -/
theorem toSettings?_eq_some_iff {v : Setting} (h : v.Sectioned) {s : Settings} :
    v.toSettings? = some s ↔ ∀ f : Field, f.resolve? (v.at? f) = some (f.get s) := by
  have hd := fieldOr_membersOf h .externalPath 0 ({} : Settings).database toDatabase? rfl
  have hr := fieldOr_membersOf h .enabled 1 ({} : Settings).remote toRemote? rfl
  have hl := fieldOr_membersOf h .level 2 ({} : Settings).logging toLogging? rfl
  have hiff : v.toSettings? = some s ↔
      toDatabase? (table (v.membersOf "database")) = some s.database ∧
      toRemote? (table (v.membersOf "remote")) = some s.remote ∧
      toLogging? (table (v.membersOf "logging")) = some s.logging := by
    rw [← show _ = toDatabase? (table (v.membersOf "database")) from hd,
      ← show _ = toRemote? (table (v.membersOf "remote")) from hr,
      ← show _ = toLogging? (table (v.membersOf "logging")) from hl]
    simp only [toSettings?, bind, pure, Option.bind_eq_some_iff, Option.some.injEq]
    constructor
    · rintro ⟨database, hd, remote, hr, logging, hl, rfl⟩
      exact ⟨hd, hr, hl⟩
    · rintro ⟨hd, hr, hl⟩
      exact ⟨s.database, hd, s.remote, hr, s.logging, hl, rfl⟩
  rw [hiff, toDatabase?_eq_some_iff, toRemote?_eq_some_iff, toLogging?_eq_some_iff]
  constructor
  · rintro ⟨hp, ⟨he, hu, hs, ht⟩, hv, hf, hi, hb, ho⟩ f
    cases f with
    | externalPath => exact hp
    | enabled => exact he
    | baseUrl => exact hu
    | timeoutSeconds => exact hs
    | token => exact ht
    | level => exact hv
    | format => exact hf
    | file => exact hi
    | maxBackups => exact hb
    | enableRotation => exact ho
  · intro hall
    exact ⟨hall .externalPath,
      ⟨hall .enabled, hall .baseUrl, hall .timeoutSeconds, hall .token⟩,
      hall .level, hall .format, hall .file, hall .maxBackups, hall .enableRotation⟩

/-- It is refused if and only if one of its settings does not convert. -/
theorem toSettings?_eq_none_iff {v : Setting} (h : v.Sectioned) :
    v.toSettings? = none ↔ ∃ f : Field, f.resolve? (v.at? f) = none := by
  constructor
  · intro hn
    rcases Field.settings_or_missing fun f => f.resolve? (v.at? f) with ⟨s, hs⟩ | hf
    · rw [(toSettings?_eq_some_iff h).2 hs] at hn
      cases hn
    · exact hf
  · rintro ⟨f, hf⟩
    cases hs : v.toSettings? with
    | none => rfl
    | some s =>
        have h' := (toSettings?_eq_some_iff h).1 hs f
        rw [hf] at h'
        cases h'

end Setting

end CountryLookup
