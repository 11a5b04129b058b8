import CountryLookup.Proofs.Requests
import CountryLookup.Proofs.Settings.Sources
import CountryLookup.Run

/-!
# The token on its way

A token is written down in a configuration, which has two layers, or in a variable of its own. It
counts only if it is more than white space, and only without the white space around it. That is
settled when settings are loaded, and nothing is settled again on the way to the service: the client
takes the token as it is, and the request carries it encoded.

## Main results

* `firstToken_eq` — which token counts.
* `exists_remote_ofSettings` — what the service that settings describe is asked.
* `mem_requests_run` — what a run asks, it asks with the token of its settings.
* `loaded_token_sent` — the token from the layers to the request.
-/

namespace CountryLookup

open Text

namespace RemoteSettings

/-- A token that can be sent: a text that is not blank, without the white space around it. -/
def usable? : Option String → Option String
  | none => none
  | some t => if isBlank t then none else some (trim t)

/-- **The first token that can be sent is the one that counts.** -/
theorem firstToken_eq (a b : Option String) : firstToken a b = (usable? a).or (usable? b) := by
  have husable : ∀ t, usable? t = (t.filter fun t => !isBlank t).map trim := by
    intro t
    cases t with
    | none => rfl
    | some t => cases h : isBlank t <;> simp [usable?, Option.filter, h]
  rw [husable, husable, firstToken]
  cases a.filter fun t => !isBlank t <;> rfl

theorem ne_empty_of_not_blank {t : String} (h : isBlank t = false) : t ≠ "" := by
  rintro rfl
  cases h

/-- A token that was settled is the one that a client sends. -/
theorem given_firstToken (a b : Option String) :
    Client.given (firstToken a b) = firstToken a b := by
  cases h : firstToken a b with
  | none => rfl
  | some t =>
      have hne := ne_empty_of_not_blank (firstToken_some h).1
      simp [Client.given, Option.filter, hne]

end RemoteSettings

namespace Settings

/-- The token that the layers of a configuration give: none if they cannot be read or do not
convert. -/
def mergedToken? (files : FileTree) (env : Environment) (path : String) (formats : Formats) :
    Option String :=
  ((tree? files env path formats).bind Setting.toSettings?).bind (·.remote.token)

/-- The token of loaded settings, before it is settled, is that of the layers. -/
theorem token_loadRaw (files : FileTree) (env : Environment) (path : String) (formats : Formats) :
    (loadRaw files env path formats).2.remote.token = mergedToken? files env path formats := by
  unfold loadRaw mergedToken?
  cases ht : tree? files env path formats with
  | none => rfl
  | some tree =>
      cases hs : tree.toSettings? with
      | none => simp [hs]
      | some s => simp [hs]

end Settings

/-! ## Requests -/

/-- The token in the requests of a client for settings with a plain base. -/
theorem Client.carries_ofSettings {s : RemoteSettings} (hq : '?' ∉ s.baseUrl.toList)
    (hf : '#' ∉ s.baseUrl.toList) (x : Address) :
    Carries ((Client.ofSettings s).url x) (given s.token) :=
  (Client.ofSettings s).carries_url (fun h => hq (mem_base_new h)) (fun h => hf (mem_base_new h)) x

/-- **What the service that settings describe is asked**: its answer is what the network says to the
request of their client. -/
theorem Resolver.exists_remote_ofSettings {s : Settings} (h : s.remote.enabled = true)
    (net : Network) :
    ∃ m, (Resolver.ofSettings s net).remote = some m ∧
      ∀ n x, m.call n x =
        .returns (Client.result (net ((Client.ofSettings s.remote).url x))) := by
  refine ⟨(Client.ofSettings s.remote).remote net, ?_, ?_⟩
  · rw [Resolver.ofSettings, if_pos h]
  · intro n x
    rfl

/-- **What a run asks, it asks with the token of its settings.** -/
theorem mem_requests_run {w : World} {args : List String} {i : CommandLine.Invocation}
    (hi : CommandLine.parse args = .ok i) {q : String} (hq : q ∈ (run w args).requests) :
    ∃ x, q = (Client.ofSettings (Settings.load w.files
      (VariableFile.load w.files w.environment) i.config w.formats).2.remote).url x := by
  simp only [run, hi, runCommand] at hq
  split at hq
  · cases hq
  · obtain ⟨x, -, rfl⟩ := List.mem_map.1 hq
    exact ⟨x, rfl⟩

namespace Settings

/-- **The token from the layers to the request.** The token of loaded settings is that of the layers
if it can be sent, else that of the variable if it can be sent, else there is none; to settle it
again changes nothing, and it is neither blank nor padded. If the service is enabled under a plain
base, it is asked for an address by a request that carries that token, and so does every request of
a run that loads these settings. The format of the file does not matter, nor how it is read. -/
theorem loaded_token_sent (files : FileTree) (env : Environment) (path : String)
    (formats : Formats) :
    let s := (load files env path formats).2
    let v := env.text? tokenVariable
    s.remote.token = (RemoteSettings.usable? (mergedToken? files env path formats)).or
        (RemoteSettings.usable? v) ∧
      s.remote.resolvedToken v = s.remote.token ∧
      (∀ t, s.remote.token = some t → isBlank t = false ∧ trim t = t) ∧
      ('?' ∉ s.remote.baseUrl.toList → '#' ∉ s.remote.baseUrl.toList →
        (s.remote.enabled = true → ∀ net : Network,
          ∃ m, (Resolver.ofSettings s net).remote = some m ∧ ∀ n x, ∃ url,
            m.call n x = .returns (Client.result (net url)) ∧
              Client.Carries url s.remote.token) ∧
        ∀ (w : World) (args : List String) (i : CommandLine.Invocation),
          CommandLine.parse args = .ok i → i.config = path → w.files = files →
          VariableFile.load w.files w.environment = env → w.formats = formats →
          ∀ q ∈ (run w args).requests, Client.Carries q s.remote.token) := by
  intro s v
  have htoken : s.remote.token =
      RemoteSettings.firstToken (mergedToken? files env path formats) v := by
    rw [← token_loadRaw]
    exact load_token files env path formats
  have hgiven : Client.given s.remote.token = s.remote.token := by
    rw [htoken, RemoteSettings.given_firstToken]
  refine ⟨?_, ?_, ?_, ?_⟩
  · rw [htoken, RemoteSettings.firstToken_eq]
  · rw [RemoteSettings.resolvedToken, htoken, RemoteSettings.firstToken_firstToken]
  · intro t ht
    exact RemoteSettings.firstToken_some (htoken.symm.trans ht)
  · intro hq hf
    have hcarries : ∀ x, Client.Carries ((Client.ofSettings s.remote).url x) s.remote.token := by
      intro x
      have h := Client.carries_ofSettings hq hf x
      rwa [hgiven] at h
    constructor
    · intro henabled net
      obtain ⟨m, hm, hcall⟩ := Resolver.exists_remote_ofSettings henabled net
      exact ⟨m, hm, fun n x => ⟨_, hcall n x, hcarries x⟩⟩
    · rintro w args i hi rfl rfl rfl rfl q hmem
      obtain ⟨x, rfl⟩ := mem_requests_run hi hmem
      exact hcarries x

/-! ## An example -/

/-- A configured token of nothing but an ideographic space, and a variable with a padded one. -/
def paddedEnvironment : Environment :=
  [ ("GEOIP__REMOTE__TOKEN", Utf8.encode "\u3000"), ("IPINFO_TOKEN", Utf8.encode " a b\n") ]

/-- A YAML document with a padded token. -/
def paddedText : String := "remote:\n  token: \" abc \"\n"

/-- A working directory with that document. -/
def paddedFiles : FileTree :=
  ⟨["work"], [(["work", "config.yaml"], .regular (Utf8.encode paddedText))]⟩

/-- A reader of YAML, as far as that document goes. -/
def paddedFormats : Formats where
  order := FileFormat.all
  complete := FileFormat.mem_all
  foreign? f s :=
    if f = .yaml ∧ s = paddedText then some [("remote", .table [("token", .text " abc ")])] else none
  cause? _ _ _ := none

theorem settings?_paddedEnvironment :
    paddedEnvironment.settings? = some [("remote.token", .text "\u3000")] := by
  have htoken : Environment.settingName? "GEOIP__REMOTE__TOKEN" = some "remote.token" := rfl
  have hother : Environment.settingName? "IPINFO_TOKEN" = none := rfl
  have hvalue : Environment.valueOf "\u3000" = .text "\u3000" := by
    have hlower : lowercase "\u3000" = "\u3000" := rfl
    rw [Environment.valueOf, hlower]
    rfl
  simp only [paddedEnvironment, Environment.settings?, htoken, hother, Utf8.decode?_encode,
    Option.bind_eq_bind, Option.bind_some, hvalue]
  rfl

theorem tree?_paddedEnvironment :
    tree? ⟨["work"], []⟩ paddedEnvironment "config.toml" .builtin =
      some (.table [("remote", .table [("token", .text "\u3000")])]) := by
  have hfile : (FileTree.mk ["work"] []).configuration? "config.toml" .builtin = none := rfl
  have hsteps : Step.stepsOf "remote.token" = [.name "remote", .name "token"] := rfl
  rw [tree?_of_no_file hfile settings?_paddedEnvironment, assignAll_cons, hsteps]
  rfl

theorem tree?_paddedFiles :
    tree? paddedFiles [] "config.yaml" paddedFormats =
      some (.table [("remote", .table [("token", .text " abc ")])]) := by
  have hfile : paddedFiles.configuration? "config.yaml" paddedFormats =
      some (.foreign .yaml, Utf8.encode paddedText) := rfl
  have hmark : byteOrderMark.isPrefixOf (Utf8.encode paddedText) = false := rfl
  have hread : paddedFormats.members? (.foreign .yaml) paddedText =
      some [("remote", .table [("token", .text " abc ")])] := by
    simp [Formats.members?, paddedFormats]
  have hnothing : Environment.settings? [] = some [] := rfl
  have hsteps : Step.stepsOf "remote" = [.name "remote"] := rfl
  rw [tree?_of_file hfile hmark hread hnothing, assignAll_cons, hsteps]
  rfl

/-- The settings that a tree with a token and nothing else gives. -/
theorem toSettings?_token (t : String) :
    (Setting.table [("remote", .table [("token", .text t)])]).toSettings? =
      some { remote := { token := some t } } := rfl

/-- A configured token that is blank is passed over, and the request carries the other one, trimmed.
A token of a YAML file is trimmed and carried as well. -/
theorem loaded_token_sent_padded :
    (mergedToken? ⟨["work"], []⟩ paddedEnvironment "config.toml" .builtin = some "\u3000" ∧
      (load ⟨["work"], []⟩ paddedEnvironment "config.toml" .builtin).2 =
        { remote := { token := some "a b" } } ∧
      ∃ m, (Resolver.ofSettings { remote := { token := some "a b" } } Network.unreachable).remote =
          some m ∧
        ∀ n x, ∃ url, m.call n x = .returns (Client.result (Network.unreachable url)) ∧
          Client.Carries url (some "a b")) ∧
    mergedToken? paddedFiles [] "config.yaml" paddedFormats = some " abc " ∧
      (load paddedFiles [] "config.yaml" paddedFormats).2 =
        { remote := { token := some "abc" } } ∧
      ∃ m, (Resolver.ofSettings { remote := { token := some "abc" } } Network.unreachable).remote =
          some m ∧
        ∀ n x, ∃ url, m.call n x = .returns (Client.result (Network.unreachable url)) ∧
          Client.Carries url (some "abc") := by
  have hq : '?' ∉ "https://ipinfo.io".toList := by decide
  have hf : '#' ∉ "https://ipinfo.io".toList := by decide
  constructor
  · have hmerged : mergedToken? ⟨["work"], []⟩ paddedEnvironment "config.toml" .builtin =
        some "\u3000" := by
      rw [mergedToken?, tree?_paddedEnvironment, Option.bind_some, toSettings?_token]
      rfl
    have hload : (load ⟨["work"], []⟩ paddedEnvironment "config.toml" .builtin).2 =
        { remote := { token := some "a b" } } := by
      have hget : Members.get? tokenVariable paddedEnvironment =
          some (Utf8.encode " a b\n") := rfl
      have hfirst : RemoteSettings.firstToken (some "\u3000") (some " a b\n") = some "a b" := rfl
      simp only [load, loadRaw, tree?_paddedEnvironment, toSettings?_token, Environment.text?, hget,
        Option.bind_some, Utf8.decode?_encode, Settings.resolveToken, RemoteSettings.resolvedToken,
        hfirst]
    obtain ⟨-, -, -, hsent⟩ :=
      loaded_token_sent ⟨["work"], []⟩ paddedEnvironment "config.toml" .builtin
    rw [hload] at hsent
    exact ⟨hmerged, hload, (hsent hq hf).1 rfl Network.unreachable⟩
  · have hmerged : mergedToken? paddedFiles [] "config.yaml" paddedFormats = some " abc " := by
      rw [mergedToken?, tree?_paddedFiles, Option.bind_some, toSettings?_token]
      rfl
    have hload : (load paddedFiles [] "config.yaml" paddedFormats).2 =
        { remote := { token := some "abc" } } := by
      have hfirst : RemoteSettings.firstToken (some " abc ") none = some "abc" := rfl
      simp only [load, loadRaw, tree?_paddedFiles, toSettings?_token, Environment.text?,
        Members.get?_nil, Option.bind_none, Settings.resolveToken, RemoteSettings.resolvedToken,
        hfirst]
    obtain ⟨-, -, -, hsent⟩ := loaded_token_sent paddedFiles [] "config.yaml" paddedFormats
    rw [hload] at hsent
    exact ⟨hmerged, hload, (hsent hq hf).1 rfl Network.unreachable⟩

end Settings

end CountryLookup
