import CountryLookup.Proofs.Settings.Fields
import CountryLookup.Proofs.Settings.Members
import CountryLookup.Proofs.Settings.Sources
import CountryLookup.Proofs.Toml.Names

/-!
# Layers of a configuration

A configuration is built in two layers: the members of the file are assigned to an empty table,
and the variables of the environment over them. The first layer changes nothing that the decoder
sees. The second changes a setting if and only if its variable is set, and no other setting with
it. So what a configuration says about a setting is what the variable says, else what the file
says, and what is loaded follows setting by setting.

## Main results

* `at?_overlay_nothing` — what the members of a file say about a setting is kept.
* `at?_assign_place` — an assigned variable changes one setting.
* `at?_assignAll` — the variables of an environment change the settings that they name.
* `loadRaw_of_unreadable`, `loadRaw_of_values`, `loadRaw_of_bad_value` — what is loaded.
-/

namespace CountryLookup

open Text

namespace Setting

/-! ## The layer of the file -/

/-- **What members stand for after others were laid over them.** -/
theorem get?_overlayMembers (olds : List (String × Setting)) {ms : List (String × Setting)}
    (hd : (Members.names ms).Nodup) (k : String) :
    Members.get? k (overlayMembers olds ms) =
      match Members.get? k ms with
      | none => Members.get? k olds
      | some v => some (overlay ((Members.get? k olds).getD nothing) v) := by
  induction ms generalizing olds with
  | nil => rfl
  | cons m ms ih =>
      obtain ⟨j, v⟩ := m
      rw [Members.names_cons, List.nodup_cons] at hd
      rw [overlayMembers, ih _ hd.2]
      by_cases h : j = k
      · subst h
        rw [Members.get?_cons_self, Members.get?_eq_none_iff.2 hd.1]
        exact Members.get?_put_self j _ olds
      · rw [Members.get?_cons_of_ne h, Members.get?_put_of_ne h]

/-- No conversion tells a value from the same value laid over nothing. -/
theorem convert?_overlay_nothing (f : Field) (v : Setting) :
    f.convert? (overlay nothing v) = f.convert? v := by
  cases v with
  | table ms => cases f <;> rfl
  | _ => rfl

theorem resolve?_overlay_nothing (f : Field) (v : Option Setting) :
    f.resolve? (v.map (overlay nothing)) = f.resolve? v := by
  cases v with
  | none => rfl
  | some v => exact convert?_overlay_nothing f v

/-- Members of a shape that a file should have: names that are places of one step, and tables where
the fields need them. -/
structure Shaped (ms : List (String × Setting)) : Prop where
  words : ∀ k ∈ Members.names ms, k.toList.all Step.isWordChar = true
  tables : ∀ (f : Field) (x : Setting),
    Members.get? f.table ms = some x → ∃ ns, x = table ns

/-- Members of that shape without a name that occurs twice. -/
structure Tidy (ms : List (String × Setting)) : Prop extends Shaped ms where
  names : (Members.names ms).Nodup
  inner : ∀ k ns, Members.get? k ms = some (table ns) → (Members.names ns).Nodup

/-- What is read from a document has no name twice. -/
theorem tidy_of_parse? {s : String} {ms : List (String × Setting)} (h : Toml.parse? s = some ms)
    (hms : Shaped ms) : Tidy ms :=
  ⟨hms, (Toml.parse?_distinct h).1, (Toml.parse?_distinct h).2⟩

theorem membersOf_table (ms : List (String × Setting)) (k : String) :
    (table ms).membersOf k = ((Members.get? k ms).map members).getD [] := rfl

/-- **What the members of a file say about a setting is kept.** -/
theorem at?_overlay_nothing {ms : List (String × Setting)} (h : Tidy ms) (f : Field) :
    (table (overlayMembers [] ms)).at? f = ((table ms).at? f).map (overlay nothing) := by
  rw [at?, at?, membersOf_table, membersOf_table, get?_overlayMembers [] h.names]
  cases hg : Members.get? f.table ms with
  | none => rfl
  | some x =>
      obtain ⟨ns, rfl⟩ := h.tables f x hg
      show Members.get? f.name (overlayMembers [] ns) = (Members.get? f.name ns).map _
      rw [get?_overlayMembers [] (h.inner f.table ns hg)]
      cases Members.get? f.name ns with
      | none => rfl
      | some v => rfl

theorem sectioned_overlay_nothing {ms : List (String × Setting)} (h : Tidy ms) :
    (table (overlayMembers [] ms)).Sectioned := by
  refine ⟨⟨_, rfl⟩, ?_⟩
  intro f x hx
  rw [show (table (overlayMembers [] ms)).members = overlayMembers [] ms from rfl,
    get?_overlayMembers [] h.names] at hx
  cases hg : Members.get? f.table ms with
  | none =>
      rw [hg] at hx
      cases hx
  | some y =>
      obtain ⟨ns, rfl⟩ := h.tables f y hg
      rw [hg] at hx
      cases hx
      exact ⟨_, rfl⟩

/-! ## The layer of the environment -/

/-- The place of a field. -/
def place (f : Field) : List Step := [.name f.table, .name f.name]

/-- **An assigned value changes one setting.** -/
theorem at?_assign_place {v : Setting} (hv : ∀ ms, v ≠ table ms) (g : Field) (root : Setting)
    (f : Field) : (assign v (place g) root).at? f = if f = g then some v else root.at? f := by
  have hroot : assign v (place g) root =
      table (Members.put g.table (table (Members.put g.name v (root.membersOf g.table)))
        root.members) := by
    rw [place, assign, assign, assign, overlay_of_not_table hv, membersOf]
    cases Members.get? g.table root.members with
    | none => rfl
    | some x => rfl
  rw [hroot, at?, membersOf_table, Members.get?_put]
  by_cases ht : f.table = g.table
  · rw [if_pos ht]
    show Members.get? f.name (Members.put g.name v (root.membersOf g.table)) = _
    rw [Members.get?_put]
    by_cases hn : f.name = g.name
    · rw [if_pos hn, if_pos (Field.eq_of_place ht hn)]
    · have hne : f ≠ g := fun e => hn (by rw [e])
      rw [if_neg hn, if_neg hne, at?, ht]
  · have hne : f ≠ g := fun e => ht (by rw [e])
    rw [if_neg ht, if_neg hne]
    rfl

theorem sectioned_assign_place {v : Setting} (g : Field) {root : Setting} (h : root.Sectioned) :
    (assign v (place g) root).Sectioned := by
  refine ⟨⟨_, rfl⟩, ?_⟩
  intro f x hx
  rw [place, assign, members, Members.get?_put] at hx
  split at hx
  · cases hx
    exact ⟨_, rfl⟩
  · exact h.tables f x hx

end Setting

namespace Environment

/-- What an environment says about a field: what the text of its variable is read as. -/
def said (env : Environment) (f : Field) : Option Setting :=
  (env.text? f.variableName).map valueOf

/-- The variables of an environment that are settings. -/
def settingsOnly (env : Environment) : Environment :=
  env.filter fun e => (settingName? e.1).isSome

/-- An environment in which the variables of fields are set to texts, each at most once, and no
others that are settings. -/
structure Plain (env : Environment) : Prop where
  names : (Members.names env.settingsOnly).Nodup
  fields : ∀ e ∈ env.settingsOnly, ∃ f : Field, e.1 = f.variableName
  texts : ∀ e ∈ env.settingsOnly, ∃ s, Utf8.decode? e.2 = some s

theorem settingsOnly_eq_nil {env : Environment} (h : ∀ e ∈ env, settingName? e.1 = none) :
    env.settingsOnly = [] := by
  rw [settingsOnly, List.filter_eq_nil_iff]
  intro e he
  rw [h e he]
  exact Bool.false_ne_true

/-- An environment without settings is one. -/
theorem plain_of_none {env : Environment} (h : ∀ e ∈ env, settingName? e.1 = none) :
    Plain env := by
  have hnil := settingsOnly_eq_nil h
  refine ⟨?_, ?_, ?_⟩
  · rw [hnil]
    exact List.nodup_nil
  · rw [hnil]
    exact fun _ he => absurd he List.not_mem_nil
  · rw [hnil]
    exact fun _ he => absurd he List.not_mem_nil

theorem settingsOnly_cons_none {e : String × List UInt8} (h : settingName? e.1 = none)
    (env : Environment) : settingsOnly (e :: env) = settingsOnly env := by
  rw [settingsOnly, List.filter_cons, if_neg]
  · rfl
  · rw [h]
    exact Bool.false_ne_true

theorem settingsOnly_cons_some {e : String × List UInt8} {k : String}
    (h : settingName? e.1 = some k) (env : Environment) :
    settingsOnly (e :: env) = e :: settingsOnly env := by
  rw [settingsOnly, List.filter_cons, if_pos]
  · rfl
  · rw [h]
    rfl

theorem Plain.tail_none {e : String × List UInt8} {env : Environment} (h : Plain (e :: env))
    (he : settingName? e.1 = none) : Plain env := by
  have hs := settingsOnly_cons_none he env
  exact ⟨hs ▸ h.names, hs ▸ h.fields, hs ▸ h.texts⟩

theorem Plain.tail_some {e : String × List UInt8} {env : Environment} (h : Plain (e :: env))
    {k : String} (he : settingName? e.1 = some k) :
    Plain env ∧ e.1 ∉ Members.names env.settingsOnly := by
  have hs := settingsOnly_cons_some he env
  have hn := h.names
  rw [hs, Members.names_cons, List.nodup_cons] at hn
  refine ⟨⟨hn.2, ?_, ?_⟩, hn.1⟩
  · intro x hx
    exact h.fields x (by rw [hs]; exact List.mem_cons_of_mem e hx)
  · intro x hx
    exact h.texts x (by rw [hs]; exact List.mem_cons_of_mem e hx)

/-- The variable of a field names its place. -/
theorem settingName?_variableName (f : Field) :
    ∃ k, settingName? f.variableName = some k ∧ Step.stepsOf k = Setting.place f := by
  refine ⟨f.table ++ "." ++ f.name, ?_, ?_⟩
  · cases f <;> decide +kernel
  · cases f <;> rfl

theorem valueOf_ne_table (s : String) (ms : List (String × Setting)) :
    valueOf s ≠ .table ms := by
  unfold valueOf
  dsimp only
  split
  · exact Setting.noConfusion
  · split
    · exact Setting.noConfusion
    · split <;> exact Setting.noConfusion

/-- No two fields have the same variable. -/
theorem eq_of_variableName {f g : Field} (h : f.variableName = g.variableName) : f = g := by
  revert h
  cases f <;> cases g <;> first | (intros; rfl) | (intro h; exact absurd h (by decide))

theorem said_cons_of_ne {e : String × List UInt8} {f : Field} (h : e.1 ≠ f.variableName)
    (env : Environment) : said (e :: env) f = said env f := by
  obtain ⟨name, bytes⟩ := e
  rw [said, said, text?, text?, Members.get?_cons_of_ne h]

theorem said_cons_self {f : Field} {bytes : List UInt8} {s : String}
    (h : Utf8.decode? bytes = some s) (env : Environment) :
    said ((f.variableName, bytes) :: env) f = some (valueOf s) := by
  rw [said, text?, Members.get?_cons_self, Option.bind_some, h, Option.map_some]

/-- An environment says nothing about a field whose variable is not among its settings. -/
theorem said_of_not_mem {env : Environment} {f : Field}
    (h : f.variableName ∉ Members.names env.settingsOnly) : said env f = none := by
  obtain ⟨k, hk, _⟩ := settingName?_variableName f
  have hnone : Members.get? f.variableName env = none := by
    rw [Members.get?_eq_none_iff]
    intro hm
    obtain ⟨e, he, hname⟩ := List.mem_map.1 hm
    apply h
    rw [← hname]
    apply Members.mem_names_of_mem
    rw [settingsOnly, List.mem_filter, hname, hk]
    exact ⟨he, rfl⟩
  rw [said, text?, hnone]
  rfl

/-- A variable that is a setting is that of a field, and is set to a text. -/
theorem Plain.head {name : String} {bytes : List UInt8} {env : Environment}
    (h : Plain ((name, bytes) :: env)) {k : String} (hk : settingName? name = some k) :
    ∃ g s, name = Field.variableName g ∧ Utf8.decode? bytes = some s ∧
      Step.stepsOf k = Setting.place g := by
  have hmem : (name, bytes) ∈ settingsOnly ((name, bytes) :: env) := by
    rw [settingsOnly_cons_some (e := (name, bytes)) hk]
    exact List.mem_cons_self
  obtain ⟨g, hg⟩ := h.fields _ hmem
  obtain ⟨s, hs⟩ := h.texts _ hmem
  obtain ⟨k', hk', hplace⟩ := settingName?_variableName g
  have hname : name = g.variableName := hg
  rw [hname, hk'] at hk
  cases hk
  exact ⟨g, s, hname, hs, hplace⟩

/-- What two layers say about a field after one more variable was assigned. -/
theorem or_at?_assign_place {env : Environment} {g : Field} {bytes : List UInt8} {s : String}
    (hnew : g.variableName ∉ Members.names env.settingsOnly)
    (hs : Utf8.decode? bytes = some s) (root : Setting) (f : Field) :
    (said env f).or ((Setting.assign (valueOf s) (Setting.place g) root).at? f) =
      (said ((g.variableName, bytes) :: env) f).or (root.at? f) := by
  rw [Setting.at?_assign_place (valueOf_ne_table s)]
  by_cases hfg : f = g
  · -- the variable is set once, so nothing later says anything about the field
    subst hfg
    rw [if_pos rfl, said_of_not_mem hnew, said_cons_self hs]
    rfl
  · have hne : g.variableName ≠ f.variableName := fun e => hfg (eq_of_variableName e).symm
    rw [if_neg hfg, said_cons_of_ne hne]

/-- **The variables of an environment change the settings that they name,** and no others. -/
theorem at?_assignAll {env : Environment} (h : Plain env) {root : Setting}
    (hr : root.Sectioned) :
    ∃ ms, env.settings? = some ms ∧ (Settings.assignAll ms root).Sectioned ∧
      ∀ f : Field, (Settings.assignAll ms root).at? f = (env.said f).or (root.at? f) := by
  induction env generalizing root with
  | nil => exact ⟨[], rfl, hr, fun f => rfl⟩
  | cons e env ih =>
      obtain ⟨name, bytes⟩ := e
      cases hk : settingName? name with
      | none =>
          obtain ⟨ms, hms, hsec, hat⟩ := ih (h.tail_none hk) hr
          refine ⟨ms, ?_, hsec, ?_⟩
          · rw [settings?, hk]
            exact hms
          · intro f
            have hne : name ≠ f.variableName := by
              intro e
              obtain ⟨k, hset, _⟩ := settingName?_variableName f
              rw [e, hset] at hk
              cases hk
            rw [hat f, said_cons_of_ne hne]
      | some k =>
          obtain ⟨g, s, rfl, hs, hplace⟩ := h.head hk
          obtain ⟨henv, hnew⟩ := h.tail_some hk
          obtain ⟨ms, hms, hsec, hat⟩ := ih henv (Setting.sectioned_assign_place g hr)
          refine ⟨(k, valueOf s) :: ms, ?_, ?_, ?_⟩
          · simp only [settings?, hk, hs, hms, bind, Option.bind, pure]
          · rw [Settings.assignAll_cons, hplace]
            exact hsec
          · intro f
            rw [Settings.assignAll_cons, hplace, hat f, or_at?_assign_place hnew hs]

end Environment

namespace Settings

/-! ## Both layers -/

/-- Members whose names are words are laid over those of a table. -/
theorem assignAll_words {ms : List (String × Setting)}
    (h : ∀ k ∈ Members.names ms, k.toList.all Step.isWordChar = true)
    (olds : List (String × Setting)) :
    assignAll ms (.table olds) = .table (Setting.overlayMembers olds ms) := by
  induction ms generalizing olds with
  | nil => rfl
  | cons m ms ih =>
      obtain ⟨k, v⟩ := m
      have hk := h k (by rw [Members.names_cons]; exact List.mem_cons_self)
      rw [assignAll_cons, Step.stepsOf_word hk]
      exact ih (fun j hj => h j (by rw [Members.names_cons]; exact List.mem_cons_of_mem k hj)) _

/-- What the file of a configuration holds: nothing if there is none. -/
def fileMembers? (files : FileTree) (path : String) : Option (List (String × Setting)) :=
  match files.content? path with
  | some bytes => Toml.parse? (configurationText bytes)
  | none => some []

/-- The members of a file have no name twice, and neither has no file. -/
theorem tidy_fileMembers? {files : FileTree} {path : String} {ms : List (String × Setting)}
    (h : fileMembers? files path = some ms) (hms : Setting.Shaped ms) : Setting.Tidy ms := by
  unfold fileMembers? at h
  split at h
  · exact Setting.tidy_of_parse? h hms
  · cases h
    exact ⟨hms, List.nodup_nil, fun _ _ h => by cases h⟩

/-- The path names a file whose format is TOML, and if there is no such file, then there is none
with the extension of a format behind its name either. -/
structure NamesToml (files : FileTree) (path : String) : Prop where
  format : (Path.fileName? path).bind Path.extension? = some "toml"
  alone : files.content? path = none → ∀ format : FileFormat, ∀ extension ∈ format.extensions,
    files.beside? path extension = none

/-- Which file is read, and how. The formats beside TOML do not matter. -/
theorem tree?_eq {files : FileTree} {path : String} (h : NamesToml files path)
    (env : Environment) (formats : Formats) :
    tree? files env path formats = do
      let fromFile ← fileMembers? files path
      let fromEnvironment ← env.settings?
      return assignAll fromEnvironment (assignAll fromFile (.table [])) := by
  unfold tree? fileMembers? FileTree.configuration?
  cases hc : files.content? path with
  | some bytes =>
      obtain ⟨name, hn, he⟩ := Option.bind_eq_some_iff.1 h.format
      have hf : FileFormat.ofExtension? "toml" = some .toml := by decide
      simp only [hn, he, hf, bind, Option.bind, pure]
      rfl
  | none =>
      have hnone : formats.tried.findSome? (fun e => (files.beside? path e.2).map (e.1, ·)) =
          none := by
        rw [List.findSome?_eq_none_iff]
        intro e htried
        rw [h.alone hc e.1 e.2 (Formats.mem_tried.1 htried), Option.map_none]
      rw [hnone]

/-- A file that cannot be read spoils everything. -/
theorem loadRaw_of_unreadable {files : FileTree} {path : String} (h : NamesToml files path)
    (env : Environment) (formats : Formats) (hf : fileMembers? files path = none) :
    loadRaw files env path formats = (.unbuildable, {}) := by
  rw [loadRaw, tree?_eq h, hf]
  rfl

/-- What both layers together say about a field. -/
def effective (env : Environment) (ms : List (String × Setting)) (f : Field) : Option Setting :=
  (env.said f).or ((Setting.table ms).at? f)

/-- The tree of both layers says about each field what its variable says, else what the file
says. -/
theorem resolve?_tree {files : FileTree} {path : String} (h : NamesToml files path)
    {env : Environment} (henv : env.Plain) {ms : List (String × Setting)}
    (hf : fileMembers? files path = some ms) (hms : Setting.Tidy ms) (formats : Formats) :
    ∃ tree, tree? files env path formats = some tree ∧ tree.Sectioned ∧
      ∀ f : Field, f.resolve? (tree.at? f) = f.resolve? (effective env ms f) := by
  have hlayer := Setting.sectioned_overlay_nothing hms
  obtain ⟨vs, hvs, hsec, hat⟩ := Environment.at?_assignAll henv hlayer
  refine ⟨assignAll vs (.table (Setting.overlayMembers [] ms)), ?_, hsec, ?_⟩
  · rw [tree?_eq h, hf, hvs, ← assignAll_words hms.words]
    rfl
  · intro f
    rw [hat f, effective, Setting.at?_overlay_nothing hms]
    cases env.said f with
    | some v => rfl
    | none => exact Setting.resolve?_overlay_nothing f _

/-- What is reported if all went well. -/
def success (files : FileTree) (path : String) : LoadReport :=
  if files.holds path then .loaded else .silent

/-- **If every field has a value, those are loaded.** -/
theorem loadRaw_of_values {files : FileTree} {path : String} (h : NamesToml files path)
    {env : Environment} (henv : env.Plain) {ms : List (String × Setting)}
    (hf : fileMembers? files path = some ms) (hms : Setting.Tidy ms) {s : Settings}
    (hs : ∀ f : Field, f.resolve? (effective env ms f) = some (f.get s)) (formats : Formats) :
    loadRaw files env path formats = (success files path, s) := by
  obtain ⟨tree, ht, hsec, hat⟩ := resolve?_tree h henv hf hms formats
  have hset : tree.toSettings? = some s := by
    rw [Setting.toSettings?_eq_some_iff hsec]
    intro f
    rw [hat f, hs f]
  simp only [loadRaw, ht, hset]
  rfl

/-- **If a field has no value, the defaults are loaded.** -/
theorem loadRaw_of_bad_value {files : FileTree} {path : String} (h : NamesToml files path)
    {env : Environment} (henv : env.Plain) {ms : List (String × Setting)}
    (hf : fileMembers? files path = some ms) (hms : Setting.Tidy ms) {f : Field}
    (hbad : f.resolve? (effective env ms f) = none) (formats : Formats) :
    loadRaw files env path formats = (.undecodable, {}) := by
  obtain ⟨tree, ht, hsec, hat⟩ := resolve?_tree h henv hf hms formats
  have hset : tree.toSettings? = none := by
    rw [Setting.toSettings?_eq_none_iff hsec]
    exact ⟨f, by rw [hat f, hbad]⟩
  simp only [loadRaw, ht, hset]

end Settings

end CountryLookup
