import CountryLookup.Proofs.Number.Characters
import CountryLookup.Proofs.Settings.Layers
import CountryLookup.Proofs.Settings.Token

/-!
# How texts from the environment are spelled

A setting that holds a text can be set by a variable, and the text of the variable is read before it
is known that a text is wanted. If it is written like a truth value, like an integer of 64 bits or
like a double, it is read as one, and what arrives is that value as it would be printed. So a text
arrives as it is only if it reads as nothing of the kind, or is the very text that would be printed.
Texts from a file and from the variable of the token are not read in this way.

## Main results

* `toText?_valueOf` — what a text of the environment arrives as.
* `load_text_variable` — a text setting that is set by its variable alone.
-/

namespace CountryLookup

open Text

namespace Environment

/-- What a text of the environment arrives as. -/
def respelled (t : String) : String :=
  if lowercase t = "true" then "true"
  else if lowercase t = "false" then "false"
  else match (integer? t).filter (fitsSigned 64), Double.parse? t with
    | some i, _ => signedDecimal i
    | none, some x => x.render
    | none, none => t

/-- **A text that is read and then wanted as a text** arrives as it is spelled after reading. -/
theorem toText?_valueOf (t : String) : (valueOf t).toText? = some (respelled t) := by
  unfold valueOf respelled
  dsimp only
  split
  · rfl
  · split
    · rfl
    · cases (integer? t).filter (fitsSigned 64) with
      | some i => rfl
      | none => cases Double.parse? t <;> rfl

/-- A value that is wanted as a text may also be wanted as one that can be missing. -/
theorem toTextOption?_of_toText? {v : Setting} {t : String} (h : v.toText? = some t) :
    v.toTextOption? = some (some t) := by
  cases v with
  | nothing => cases h
  | _ => exact congrArg (Option.map some) h

theorem toTextOption?_valueOf (t : String) :
    (valueOf t).toTextOption? = some (some (respelled t)) :=
  toTextOption?_of_toText? (toText?_valueOf t)

/-- What a field is set to is among the settings of an environment. -/
theorem get?_settingsOnly (env : Environment) (f : Field) :
    Members.get? f.variableName env.settingsOnly = Members.get? f.variableName env := by
  obtain ⟨k, hk, -⟩ := settingName?_variableName f
  induction env with
  | nil => rfl
  | cons e env ih =>
      obtain ⟨name, bytes⟩ := e
      by_cases hname : name = f.variableName
      · subst hname
        rw [settingsOnly_cons_some (e := (f.variableName, bytes)) hk, Members.get?_cons_self,
          Members.get?_cons_self]
      · rw [Members.get?_cons_of_ne hname, ← ih]
        cases hset : settingName? name with
        | none => rw [settingsOnly_cons_none (e := (name, bytes)) hset]
        | some j =>
            rw [settingsOnly_cons_some (e := (name, bytes)) hset, Members.get?_cons_of_ne hname]

section Sole

variable {env : Environment} {f : Field} {t : String}
  (henv : env.settingsOnly = [(f.variableName, Utf8.encode t)])
include henv

/-- An environment with one setting sets nothing in two ways, and nothing that is unknown. -/
theorem plain_of_sole : env.Plain := by
  refine ⟨?_, ?_, ?_⟩
  · rw [henv]
    exact List.nodup_cons.2 ⟨List.not_mem_nil, List.nodup_nil⟩
  · rw [henv]
    exact fun e he => ⟨f, by rw [List.mem_singleton.1 he]⟩
  · rw [henv]
    exact fun e he => ⟨t, by rw [List.mem_singleton.1 he, Utf8.decode?_encode]⟩

theorem said_of_sole : env.said f = some (valueOf t) := by
  rw [said, text?, ← get?_settingsOnly, henv, Members.get?_cons_self, Option.bind_some,
    Utf8.decode?_encode, Option.map_some]

theorem said_of_sole_of_ne {g : Field} (hg : g ≠ f) : env.said g = none := by
  apply said_of_not_mem
  rw [henv]
  intro hmem
  exact hg (eq_of_variableName (List.mem_singleton.1 hmem))

end Sole

/-- A text that is spelled anew has no white space, and neither has its new spelling. -/
theorem respelled_cases (t : String) :
    respelled t = t ∨
      (NoSpace t.toList ∧ NoSpace (respelled t).toList ∧ (respelled t).toList ≠ []) := by
  have htrue : NoSpace "true".toList := noSpace_of_any (by decide)
  have hfalse : NoSpace "false".toList := noSpace_of_any (by decide)
  unfold respelled
  split
  · next h => exact .inr ⟨noSpace_of_lowercase h htrue, htrue, by decide⟩
  · split
    · next h => exact .inr ⟨noSpace_of_lowercase h hfalse, hfalse, by decide⟩
    · cases hi : (integer? t).filter (fitsSigned 64) with
      | some i =>
          have hread : integer? t = some i := (Option.filter_eq_some_iff.1 hi).1
          exact .inr ⟨noSpace_of_integer? hread, noSpace_signedDecimal i⟩
      | none =>
          cases hx : Double.parse? t with
          | some x => exact .inr ⟨Double.noSpace_of_parse? hx, Double.noSpace_render x⟩
          | none => exact .inl rfl

theorem isBlank_respelled {t : String} (h : isBlank t = false) : isBlank (respelled t) = false := by
  rcases respelled_cases t with heq | ⟨-, hspace, hne⟩
  · rw [heq, h]
  · exact isBlank_of_noSpace hspace hne

/-- Trimming does not hide that a text is spelled anew. -/
theorem trim_respelled_iff (t : String) : trim (respelled t) = trim t ↔ respelled t = t := by
  rcases respelled_cases t with heq | ⟨hspace, hspace', -⟩
  · rw [heq]
    simp
  · rw [trim_of_noSpace hspace, trim_of_noSpace hspace']

end Environment

namespace Field

/-- The settings that hold texts. -/
def isText : Field → Bool
  | externalPath => true
  | baseUrl => true
  | token => true
  | level => true
  | format => true
  | file => true
  | _ => false

/-- The text that a setting holds. -/
def text? (s : Settings) : Field → Option String
  | externalPath => some s.database.externalPath
  | baseUrl => some s.remote.baseUrl
  | token => s.remote.token
  | level => some s.logging.level
  | format => some s.logging.format
  | file => s.logging.file
  | _ => none

/-- What becomes of the text of a setting when all settings are known: the token is trimmed. -/
def settled : Field → String → String
  | token, t => trim t
  | _, t => t

theorem settled_respelled_iff (f : Field) (t : String) :
    f.settled (Environment.respelled t) = f.settled t ↔ Environment.respelled t = t := by
  cases f with
  | token => exact Environment.trim_respelled_iff t
  | _ => exact Iff.rfl

/-- A text converts for every setting that holds one. -/
theorem exists_convert? {f : Field} (hf : f.isText = true) (t : String) :
    ∃ v, f.convert? (Environment.valueOf t) = some v := by
  have htext := Environment.toText?_valueOf t
  have hoption := Environment.toTextOption?_valueOf t
  cases f with
  | externalPath => exact ⟨_, htext⟩
  | baseUrl => exact ⟨_, htext⟩
  | token => exact ⟨_, hoption⟩
  | level => exact ⟨_, htext⟩
  | format => exact ⟨_, htext⟩
  | file => exact ⟨_, hoption⟩
  | enabled => cases hf
  | timeoutSeconds => cases hf
  | maxBackups => cases hf
  | enableRotation => cases hf

/-- What such a setting then holds, before the token is settled. -/
theorem text?_of_convert? {f : Field} (hf : f.isText = true) {t : String} {s : Settings}
    (h : f.convert? (Environment.valueOf t) = some (f.get s)) :
    f.text? s = some (Environment.respelled t) := by
  have htext := Environment.toText?_valueOf t
  have hoption := Environment.toTextOption?_valueOf t
  cases f with
  | externalPath => exact h.symm.trans htext
  | baseUrl => exact h.symm.trans htext
  | token => exact Option.some.inj (h.symm.trans hoption)
  | level => exact h.symm.trans htext
  | format => exact h.symm.trans htext
  | file => exact Option.some.inj (h.symm.trans hoption)
  | enabled => cases hf
  | timeoutSeconds => cases hf
  | maxBackups => cases hf
  | enableRotation => cases hf

/-- What it holds after that. -/
theorem text?_resolveToken {f : Field} {s : Settings} {t : String} (h : f.text? s = some t)
    (ht : f = token → isBlank t = false) (given : Option String) :
    f.text? (s.resolveToken given) = some (f.settled t) := by
  cases f with
  | token =>
      have hblank := ht rfl
      have htoken : s.remote.token = some t := h
      show RemoteSettings.firstToken s.remote.token given = some (trim t)
      rw [htoken, RemoteSettings.firstToken_eq, RemoteSettings.usable?, hblank]
      rfl
  | _ => exact h

end Field

namespace Settings

/-- Without a file the tree of a configuration is what the environment says. -/
theorem at?_tree_of_environment {files : FileTree} {env : Environment} {path : String}
    {formats : Formats} (hfile : files.configuration? path formats = none) (henv : env.Plain) :
    ∃ tree, tree? files env path formats = some tree ∧ tree.Sectioned ∧
      ∀ f : Field, tree.at? f = env.said f := by
  have hempty : (Setting.table []).Sectioned := by
    refine ⟨⟨[], rfl⟩, ?_⟩
    intro f x hx
    cases hx
  obtain ⟨ms, hms, hsectioned, hat⟩ := Environment.at?_assignAll henv hempty
  refine ⟨assignAll ms (.table []), tree?_of_no_file hfile hms, hsectioned, ?_⟩
  intro f
  rw [hat f, show (Setting.table []).at? f = none from rfl, Option.or_none]

/-- **A text setting that is set by its variable alone.** Nothing falls back to the defaults, and all
other settings have theirs, but for a token from the variable of its own. The setting holds the text
as it is spelled after reading, so it holds the given one just if reading does not change it. -/
theorem load_text_variable {files : FileTree} {env : Environment} {path : String}
    {formats : Formats} {f : Field} {t : String} (hf : f.isText = true)
    (hfile : files.configuration? path formats = none)
    (henv : env.settingsOnly = [(f.variableName, Utf8.encode t)])
    (ht : f = .token → isBlank t = false) :
    let loaded := load files env path formats
    loaded.1 = success files path ∧
      f.text? loaded.2 = some (f.settled (Environment.respelled t)) ∧
      (f.text? loaded.2 = some (f.settled t) ↔ Environment.respelled t = t) ∧
      ∀ g : Field, g ≠ f → g ≠ .token → g.get loaded.2 = g.get {} := by
  have hplain : env.Plain := Environment.plain_of_sole henv
  have hsaid : env.said f = some (Environment.valueOf t) := Environment.said_of_sole henv
  have hother : ∀ g, g ≠ f → env.said g = none := fun g hg =>
    Environment.said_of_sole_of_ne henv hg
  obtain ⟨tree, htree, hsectioned, hat⟩ := at?_tree_of_environment hfile hplain
  obtain ⟨v, hv⟩ := Field.exists_convert? hf t
  have hresolve : ∀ g : Field, g.resolve? (tree.at? g) ≠ none := by
    intro g
    rw [hat g]
    by_cases hg : g = f
    · subst hg
      rw [hsaid, Field.resolve?, Setting.convertOr, hv]
      exact Option.some_ne_none v
    · rw [hother g hg]
      exact Option.some_ne_none _
  rcases Field.settings_or_missing fun g => g.resolve? (tree.at? g) with ⟨s, hs⟩ | ⟨g, hg⟩
  · have hraw : loadRaw files env path formats = (success files path, s) := by
      simp only [loadRaw, htree, (Setting.toSettings?_eq_some_iff hsectioned).2 hs]
      rfl
    intro loaded
    have hloaded : loaded = _ := load_eq hraw
    have hconvert : f.convert? (Environment.valueOf t) = some (f.get s) := by
      have h := hs f
      rwa [hat f, hsaid] at h
    have htext : f.text? loaded.2 = some (f.settled (Environment.respelled t)) := by
      rw [hloaded]
      exact Field.text?_resolveToken (Field.text?_of_convert? hf hconvert)
        (fun h => Environment.isBlank_respelled (ht h)) _
    refine ⟨by rw [hloaded], htext, ?_, ?_⟩
    · rw [htext, Option.some.injEq, Field.settled_respelled_iff]
    · intro g hg hgtoken
      have h := hs g
      rw [hat g, hother g hg] at h
      have hget : g.get loaded.2 = g.get s := by
        rw [hloaded]
        cases g <;> first | rfl | exact absurd rfl hgtoken
      rw [hget]
      exact (Option.some.inj h).symm
  · exact absurd hg (hresolve g)

/-- An environment with a token and nothing else. -/
def tokenEnvironment (t : String) : Environment := [("GEOIP__REMOTE__TOKEN", Utf8.encode t)]

/-- A token that reads as an integer loses its sign and its zeros. -/
theorem load_text_variable_signed :
    let s := (load ⟨["work"], []⟩ (tokenEnvironment "+05") "config.toml").2
    s.remote.token = some "5" ∧ s.database.externalPath = "/dashboard/data/ipinfo_lite.mmdb" := by
  have hrespelled : Environment.respelled "+05" = "5" := rfl
  have hfile : (FileTree.mk ["work"] []).configuration? "config.toml" .builtin = none := rfl
  have henv : (tokenEnvironment "+05").settingsOnly =
      [(Field.token.variableName, Utf8.encode "+05")] := rfl
  obtain ⟨-, htoken, -, hdefaults⟩ := load_text_variable rfl hfile henv fun _ => by decide
  rw [hrespelled] at htoken
  exact ⟨htoken, hdefaults .externalPath (by decide) (by decide)⟩

/-- **A token of digits does not arrive as it is written.** -/
theorem token_respelled :
    (load ⟨["work"], []⟩ (tokenEnvironment "007") "config.toml").2.remote.token = some "7" ∧
      (load ⟨["work"], []⟩ (tokenEnvironment "TRUE") "config.toml").2.remote.token =
        some "true" := by
  decide +kernel

end Settings

end CountryLookup
