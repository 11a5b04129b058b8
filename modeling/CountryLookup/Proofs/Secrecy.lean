import CountryLookup.Proofs.Logging.Fates
import CountryLookup.Proofs.Runs
import CountryLookup.Proofs.Settings.RoundTrip
import CountryLookup.Proofs.Settings.Token

/-!
# The token stays in the request

Take two runs whose settings differ in the token only, over files that may hold the token somewhere,
against a service that does not care which token it is. They cannot be told apart but by the query
of their requests: they end alike, they write the same output, and what they write to the error
stream and to their log is the same up to the times in it.

The reason is that the token goes one way only. A resolver knows it as part of a client, and what
the client passes on is the answer; a line of the log says at most whether there is a token.

## Main results

* `Resolver.ofSettings_withToken` — resolvers that differ in the token are the same.
* `run_hides_token` — runs that differ in the token.
-/

namespace CountryLookup

open CommandLine Logging Text

/-! ## Settings that differ in the token -/

/-- The settings with a token. -/
def Settings.withToken (s : Settings) (t : String) : Settings :=
  { s with remote := { s.remote with token := some t } }

theorem CommandLine.Command.settings_withToken (c : Command) (s : Settings) (t : String) :
    c.settings (s.withToken t) = (c.settings s).withToken t := by
  unfold Command.settings
  split <;> rfl

theorem CommandLine.Command.baseUrl_settings (c : Command) (s : Settings) :
    (c.settings s).remote.baseUrl = s.remote.baseUrl := by
  unfold Command.settings
  split <;> rfl

/-- A resolver tells at its start whether there is a token, and not which one. -/
theorem Resolver.startEvents_withToken (s : Settings) (t t' : String) :
    Resolver.startEvents (s.withToken t) = Resolver.startEvents (s.withToken t') := rfl

/-- **Resolvers that differ in the token are the same**, if the service answers alike. -/
theorem Resolver.ofSettings_withToken {s : Settings} {t t' : String} {net net' : Network}
    (h : ∀ x, net ((Client.new s.remote.baseUrl (some t)).url x) =
      net' ((Client.new s.remote.baseUrl (some t')).url x)) :
    Resolver.ofSettings (s.withToken t) net = Resolver.ofSettings (s.withToken t') net' := by
  have hremote : (Client.new s.remote.baseUrl (some t)).remote net =
      (Client.new s.remote.baseUrl (some t')).remote net' := by
    simp only [Client.remote, Client.lookup, h]
  have hofSettings : ∀ (u : String) (n : Network), Resolver.ofSettings (s.withToken u) n =
      ⟨if s.remote.enabled then some ((Client.new s.remote.baseUrl (some u)).remote n) else none,
        ⟨s.database.externalPath, some Bundled.bytes⟩⟩ := fun _ _ => rfl
  rw [hofSettings, hofSettings, hremote]

/-- The request that is made without a token, with the query of a token behind it. -/
def Client.urlWithQuery (base t : String) (x : Address) : String :=
  (Client.new base none).url x ++ ("?token=" ++ Percent.encode t)

/-- A request with a token differs from one without by its query. -/
theorem Client.url_new_some (base : String) {t : String} (h : t ≠ "") :
    (Client.new base (some t)).url = Client.urlWithQuery base t := by
  have hgiven : (some t).filter (· ≠ "") = some t := by simp [h]
  funext x
  simp only [Client.urlWithQuery, Client.url, Client.path, Client.new, hgiven, Option.filter_none,
    String.append_assoc, String.append_empty]

/-! ## Runs that differ in the token -/

/-- Whether loading came to the settings that were written, and not to defaults in their place. -/
def LoadReport.Succeeds (r : LoadReport) : Prop := r = .loaded ∨ r = .silent

/-- The line of a success names no cause. -/
theorem LoadReport.Succeeds.line?_eq {r : LoadReport} (h : r.Succeeds) (path : String)
    (cause cause' : Option String) : r.line? path cause = r.line? path cause' := by
  rcases h with rfl | rfl
  · rfl
  · rfl

/-- Two worlds for a run with settings that differ in the token only. Where the tokens come from is
not said: the variables may differ, and what the files hold. But there are the same files and
directories, the external database is the same, and the service answers alike. The clocks may
differ; only if the log rotates, both runs start on one day. -/
structure World.SameButToken (w w' : World) (config : String) (s : Settings) (t t' : String) :
    Prop where
  loads : (w.loaded config).1.Succeeds
  loads' : (w'.loaded config).1.Succeeds
  settings : w.settings config = s.withToken t
  settings' : w'.settings config = s.withToken t'
  outline : w.files.outline = w'.files.outline
  database : w.externalFile config = w'.externalFile config
  answers : ∀ x, w.network ((Client.new s.remote.baseUrl (some t)).url x) =
    w'.network ((Client.new s.remote.baseUrl (some t')).url x)
  colour : colourForced w.inForce = colourForced w'.inForce
  date : s.logging.rotation?.isSome → w.start.date = w'.start.date

/-- If loading succeeds, its report says whether there is a file at the path. -/
theorem World.report_eq {w : World} {config : String} (h : (w.loaded config).1.Succeeds) :
    (w.loaded config).1 = if w.files.holds config then .loaded else .silent := by
  have hreport : (w.loaded config).1 = (Settings.loadRaw w.files w.inForce config w.formats).1 := rfl
  rw [hreport] at h ⊢
  unfold Settings.loadRaw at h ⊢
  cases htree : Settings.tree? w.files w.inForce config w.formats with
  | none =>
      rw [htree] at h
      rcases h with h | h <;> cases h
  | some tree =>
      rw [htree] at h
      dsimp only at h ⊢
      cases hsettings : tree.toSettings? with
      | none =>
          rw [hsettings] at h
          rcases h with h | h <;> cases h
      | some s => rfl

/-- The requests of a run whose settings have a token: that token is not empty. -/
theorem World.url_settings {w : World} {config : String} {s : Settings} {t : String}
    (h : w.settings config = s.withToken t) :
    (Client.ofSettings (w.settings config).remote).url =
      Client.urlWithQuery s.remote.baseUrl t := by
  have htoken : (w.settings config).remote.token = some t := by rw [h]; rfl
  have hload := Settings.load_token w.files w.inForce config w.formats
  have hblank := (RemoteSettings.firstToken_some (hload.symm.trans htoken)).1
  rw [h]
  exact Client.url_new_some s.remote.baseUrl (RemoteSettings.ne_empty_of_not_blank hblank)

namespace World.SameButToken

variable {w w' : World} {config : String} {s : Settings} {t t' : String}
  (h : w.SameButToken w' config s t t')
include h

/-- The logs are opened alike. -/
theorem opening :
    (w.opening config).told = (w'.opening config).told ∧
      (w.opening config).result = (w'.opening config).result ∧
      SameFates w.clock w'.clock w.files w'.files (w.opening config).files
        (w'.opening config).files := by
  have hlogging : (w.settings config).logging = s.logging := by rw [h.settings]; rfl
  have hlogging' : (w'.settings config).logging = s.logging := by rw [h.settings']; rfl
  rw [World.opening, World.opening, hlogging, hlogging']
  exact (SameFates.start h.outline).ofSettings s.logging h.date

/-- The same is told before anything is looked up. -/
theorem told : w.told config = w'.told config := by
  have hreport : (w.loaded config).1 = (w'.loaded config).1 := by
    rw [report_eq h.loads, report_eq h.loads', FileTree.holds_eq_of_outline h.outline]
  have hline : w.report? config = w'.report? config := by
    rw [World.report?, World.report?, ← hreport]
    exact h.loads.line?_eq config _ _
  rw [World.told, World.told, hline, h.opening.1]

/-- The resolvers are the same. -/
theorem resolver (noRemote : Bool) : w.resolver config noRemote = w'.resolver config noRemote := by
  rw [World.resolver, World.resolver, h.settings, h.settings', Command.settings_withToken,
    Command.settings_withToken]
  apply Resolver.ofSettings_withToken
  intro x
  rw [Command.baseUrl_settings]
  exact h.answers x

/-- The lookups come to the same but for the files. -/
theorem lookups (noRemote json : Bool) (addresses : List String) :
    w.lookups config noRemote json addresses =
      { w'.lookups config noRemote json addresses with files := (w.opening config).files } := by
  rw [lookups_eq, lookups_eq, h.resolver noRemote, h.database, h.colour, h.settings, h.settings',
    Command.settings_withToken, Command.settings_withToken, Resolver.startEvents_withToken]
  rfl

end World.SameButToken

/-- **A run hides its token.** Two runs of one command line whose settings differ in the token only
end alike and write the same output. What they write to the error stream is the same up to the times
in it, and so is what they write to files: every place has the same fate in both. Their requests are
the same, each with the query of the run's token behind it. -/
theorem run_hides_token {w w' : World} {args : List String} {config : String}
    {addresses : List String} {noRemote json : Bool}
    (hparse : parse args = .ok ⟨config, .lookup addresses noRemote json⟩) {s : Settings}
    {t t' : String} (h : w.SameButToken w' config s t t') :
    let o := run w args
    let o' := run w' args
    o.status = o'.status ∧ o.output = o'.output ∧
      SameUpToTime w.clock w'.clock o.errors o'.errors ∧
      SameFates w.clock w'.clock w.files w'.files o.files o'.files ∧
      ∃ xs : List Address,
        o.requests = xs.map (Client.urlWithQuery s.remote.baseUrl t) ∧
        o'.requests = xs.map (Client.urlWithQuery s.remote.baseUrl t') := by
  intro o o'
  obtain ⟨-, hresult, hopened⟩ := h.opening
  cases hlog : (w.opening config).result with
  | error causes =>
      have ho : o = _ := run_of_unopened hparse hlog
      have ho' : o' = _ := run_of_unopened hparse (hresult.symm.trans hlog)
      rw [ho, ho', h.told]
      exact ⟨rfl, rfl, .text _, hopened, [], rfl, rfl⟩
  | ok l =>
      have ho : o = _ := run_of_opened hparse hlog
      have ho' : o' = _ := run_of_opened hparse (hresult.symm.trans hlog)
      have hfiles' : (w'.lookups config noRemote json addresses).files =
          (w'.opening config).files := by
        rw [lookups_eq]
        rfl
      have hlookups := h.lookups noRemote json addresses
      obtain ⟨hlogged, herrors⟩ := sameUpToTime_writeNotices w.clock w'.clock l 0
        (w'.lookups config noRemote json addresses).notices
      rw [ho, ho', World.url_settings h.settings, World.url_settings h.settings', hlookups, hfiles',
        h.told]
      exact ⟨rfl, rfl, (SameUpToTime.text _).append herrors, hopened.writeLog l hlogged, _, rfl, rfl⟩

/-! ## Settings that were saved -/

/-- Whatever settings are saved at a path, the outline is the same. -/
theorem Settings.outline_save {s s' : Settings} {files after after' : FileTree} {path : String}
    (h : s.save files path = .ok after) (h' : s'.save files path = .ok after') :
    after.outline = after'.outline := by
  obtain ⟨ready, hready, hwrite⟩ := Settings.save_eq_ok h
  obtain ⟨ready', hready', hwrite'⟩ := Settings.save_eq_ok h'
  obtain rfl : ready = ready' := Except.ok.inj (hready.symm.trans hready')
  obtain ⟨place, _, hplace, -, rfl⟩ := FileTree.write_eq_ok hwrite
  obtain ⟨place', _, hplace', -, rfl⟩ := FileTree.write_eq_ok hwrite'
  obtain rfl : place = place' := Except.ok.inj (hplace.symm.trans hplace')
  rw [FileTree.outline_put, FileTree.outline_put, Entry.outline, Entry.outline]

/-- What a run loads where settings were saved. -/
theorem World.loaded_of_save {w : World} {s : Settings} {files : FileTree} {path : String}
    (hpath : (Path.fileName? path).bind Path.extension? = some "toml") (hseconds : s.Storable)
    (henv : ∀ e ∈ w.inForce, Environment.settingName? e.1 = none)
    (hsave : s.save files path = .ok w.files) :
    w.loaded path = (.loaded, s.resolveToken (w.inForce.text? tokenVariable)) := by
  rw [World.loaded, Settings.load, Settings.loadRaw_save hpath hseconds henv hsave]

/-! ## An example -/

/-- Settings that log everything, to a file for each day. -/
def tracingSettings : Settings :=
  { logging := { level := "trace", file := some "logs/app.log" } }

theorem storable_tracingSettings (token : String) : (tracingSettings.withToken token).Storable :=
  show (2 : UInt64).toNat < twoTo 63 by decide

/-- A world in which such settings are saved with a token, and in which the service always answers
`US`. -/
def savedWorld (token : String) (env : Environment) (start : Instant) : World where
  files :=
    ((tracingSettings.withToken token).save ⟨["work"], []⟩ "config.toml").toOption.getD ⟨[], []⟩
  environment := env
  network _ := .ok ⟨200, [85, 83, 10]⟩
  start := start
  clock n := ⟨start.micros + n⟩

/-- The settings of such a world can be saved. -/
theorem save_savedWorld {token : String} (env : Environment) (start : Instant)
    (h : ((tracingSettings.withToken token).save ⟨["work"], []⟩ "config.toml").toOption.isSome) :
    (tracingSettings.withToken token).save ⟨["work"], []⟩ "config.toml" =
      .ok (savedWorld token env start).files := by
  cases hs : (tracingSettings.withToken token).save ⟨["work"], []⟩ "config.toml" with
  | error e =>
      rw [hs] at h
      cases h
  | ok after => simp only [savedWorld, hs, Except.toOption, Option.getD_some]

/-- A world with the token in the file. -/
def fileWorld : World := savedWorld "alpha" [] ⟨0⟩

/-- A world with a blank token in the file, and another in a variable. -/
def variableWorld : World := savedWorld " " [("IPINFO_TOKEN", Utf8.encode "b&c")] ⟨3600000000⟩

theorem inForce_fileWorld : fileWorld.inForce = [] := by
  have hnone : VariableFile.content? fileWorld.files = none := rfl
  rw [World.inForce, VariableFile.load, hnone]
  rfl

theorem inForce_variableWorld :
    variableWorld.inForce = [("IPINFO_TOKEN", Utf8.encode "b&c")] := by
  have hnone : VariableFile.content? variableWorld.files = none := rfl
  rw [World.inForce, VariableFile.load, hnone]
  rfl

theorem loaded_fileWorld :
    fileWorld.loaded "config.toml" = (.loaded, tracingSettings.withToken "alpha") := by
  have htoken : (tracingSettings.withToken "alpha").resolveToken
      (Environment.text? [] tokenVariable) = tracingSettings.withToken "alpha" := rfl
  have hload := World.loaded_of_save (w := fileWorld) rfl
    (storable_tracingSettings "alpha") (by rw [inForce_fileWorld]; decide)
    (save_savedWorld [] ⟨0⟩ rfl)
  rwa [inForce_fileWorld, htoken] at hload

theorem loaded_variableWorld :
    variableWorld.loaded "config.toml" = (.loaded, tracingSettings.withToken "b&c") := by
  have htoken : (tracingSettings.withToken " ").resolveToken
      (Environment.text? [("IPINFO_TOKEN", Utf8.encode "b&c")] tokenVariable) =
        tracingSettings.withToken "b&c" := rfl
  have hload := World.loaded_of_save (w := variableWorld) rfl
    (storable_tracingSettings " ") (by rw [inForce_variableWorld]; decide)
    (save_savedWorld _ ⟨3600000000⟩ rfl)
  rwa [inForce_variableWorld, htoken] at hload

/-- The two worlds differ in the token, whose source is not the same either. -/
theorem run_hides_token_sources :
    fileWorld.SameButToken variableWorld "config.toml" tracingSettings "alpha" "b&c" ∧
      (run fileWorld ["lookup", "8.8.8.8"]).output =
        (run variableWorld ["lookup", "8.8.8.8"]).output ∧
      SameFates fileWorld.clock variableWorld.clock fileWorld.files variableWorld.files
        (run fileWorld ["lookup", "8.8.8.8"]).files
        (run variableWorld ["lookup", "8.8.8.8"]).files := by
  have hparse : parse ["lookup", "8.8.8.8"] =
      .ok ⟨"config.toml", .lookup ["8.8.8.8"] false false⟩ := rfl
  have houtline : fileWorld.files.outline = variableWorld.files.outline :=
    Settings.outline_save (save_savedWorld [] ⟨0⟩ rfl)
      (save_savedWorld [("IPINFO_TOKEN", Utf8.encode "b&c")] ⟨3600000000⟩ rfl)
  have hsettings : fileWorld.settings "config.toml" = tracingSettings.withToken "alpha" := by
    rw [World.settings, loaded_fileWorld]
  have hsettings' : variableWorld.settings "config.toml" = tracingSettings.withToken "b&c" := by
    rw [World.settings, loaded_variableWorld]
  have hexternal : fileWorld.externalFile "config.toml" = none := by
    rw [World.externalFile, World.opening, hsettings]
    rfl
  have hexternal' : variableWorld.externalFile "config.toml" = none := by
    rw [World.externalFile, World.opening, hsettings']
    rfl
  have hsame : fileWorld.SameButToken variableWorld "config.toml" tracingSettings "alpha" "b&c" :=
    { loads := .inl (by rw [loaded_fileWorld])
      loads' := .inl (by rw [loaded_variableWorld])
      settings := hsettings
      settings' := hsettings'
      outline := houtline
      database := hexternal.trans hexternal'.symm
      answers := fun _ => rfl
      colour := by
        rw [inForce_fileWorld, inForce_variableWorld]
        rfl
      date := fun _ => rfl }
  obtain ⟨-, houtput, -, hfates, -⟩ := run_hides_token hparse hsame
  exact ⟨hsame, houtput, hfates⟩

end CountryLookup
