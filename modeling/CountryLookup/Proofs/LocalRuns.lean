import CountryLookup.Proofs.CommandLine.Lookups
import CountryLookup.Proofs.Logging.Fates
import CountryLookup.Proofs.Runs

/-!
# Runs that leave the remote service alone

Three kinds of command lines keep away from the remote service: those that show the database in
use, those that write a configuration, and those that look addresses up with the flag for it. What
the settings say about the service does not matter to them, be it that they enable it, or that they
cannot be read and the defaults enable it in their place.

Such a run asks nobody. So whatever the network would answer, the run ends alike and writes the
same, up to the times in what it writes.

## Main results

* `carryOut_of_isLocal` — what the command comes to does not depend on the network.
* `run_of_local` — neither does what the run leaves.
-/

namespace CountryLookup

open CommandLine Logging

/-! ## Commands -/

/-- **Without the remote service the network does not matter.** -/
theorem carryOut_of_isLocal {c : Command} (h : c.isLocal = true) (s : Settings)
    (net net' : Network) (files : FileTree) (colour : Bool) :
    carryOut c s net files colour = carryOut c s net' files colour := by
  cases c with
  | lookup addresses noRemote json =>
      have hremote : noRemote = true := h
      subst hremote
      rfl
  | source => rfl
  | configGen output => rfl

/-- What a command does to the files depends on nothing else. -/
theorem SameFates.carryOut {clock clock' : Nat → Instant} {t t' u u' : FileTree}
    (h : SameFates clock clock' t t' u u') (c : Command) (s s' : Settings) (net net' : Network)
    (colour colour' : Bool) :
    SameFates clock clock' t t' (carryOut c s net u colour).files
      (carryOut c s' net' u' colour').files := by
  have hsource : ∀ (s : Settings) (net : Network) (files : FileTree) (colour : Bool),
      (runSource s net files colour).files = files := by
    intro s net files colour
    simp only [runSource]
    split <;> rfl
  cases c with
  | lookup addresses noRemote json => exact h
  | source =>
      rw [CountryLookup.carryOut, CountryLookup.carryOut, hsource, hsource]
      exact h
  | configGen output =>
      cases output with
      | none => exact h
      | some path =>
          rw [CountryLookup.carryOut, CountryLookup.carryOut, runConfigGen, runConfigGen]
          rcases (h.save {} path).elim with ⟨e, hu, hu'⟩ | ⟨v, v', hu, hu', hv⟩
          · rw [hu, hu']
            exact h
          · rw [hu, hu']
            exact hv

/-- The date matters to a log only if it rotates. -/
theorem Logging.ofSettings_of_date {s : LoggingSettings} {date date' : String}
    (h : s.rotation?.isSome → date = date') (files : FileTree) :
    Logger.ofSettings s date files = Logger.ofSettings s date' files := by
  have hsink : Logger.openSink s date files = Logger.openSink s date' files := by
    unfold Logger.openSink
    cases hfile : s.file.filter (· ≠ "") with
    | none => rfl
    | some file =>
        dsimp only
        by_cases hr : s.enableRotation = true
        · have hsome : s.rotation?.isSome = true := by
            rw [LoggingSettings.rotation?, if_pos hr, hfile]
            rfl
          rw [h hsome]
        · rw [if_neg hr, if_neg hr]
  rw [Logger.ofSettings, Logger.ofSettings, hsink]

/-! ## Runs -/

/-- Two worlds for a run with some arguments that differ in the network, and in their clocks. Only if
the log rotates, both runs start on one day. -/
structure World.SameButNetwork (w w' : World) (args : List String) : Prop where
  files : w.files = w'.files
  environment : w.environment = w'.environment
  formats : w.formats = w'.formats
  date : ∀ i, parse args = .ok i → (w.settings i.config).logging.rotation?.isSome →
    w.start.date = w'.start.date

section Networks

variable {w w' : World} {args : List String} (h : w.SameButNetwork w' args)
include h

theorem World.SameButNetwork.loaded (config : String) : w.loaded config = w'.loaded config := by
  rw [World.loaded, World.loaded, World.inForce, World.inForce, h.files, h.environment, h.formats]

/-- The log is opened alike. -/
theorem World.SameButNetwork.opening {i : Invocation} (hparse : parse args = .ok i) :
    w.opening i.config = w'.opening i.config := by
  have hsettings : w.settings i.config = w'.settings i.config := congrArg Prod.snd (h.loaded _)
  rw [World.opening, World.opening, ofSettings_of_date (h.date i hparse), hsettings, h.files]

theorem World.SameButNetwork.told {i : Invocation} (hparse : parse args = .ok i) :
    w.told i.config = w'.told i.config := by
  have hreport : w.report? i.config = w'.report? i.config := by
    rw [World.report?, World.report?, h.loaded, h.formats, World.inForce, World.inForce, h.files,
      h.environment]
  rw [World.told, World.told, hreport, h.opening hparse]

/-- The command comes to the same. -/
theorem World.SameButNetwork.activity {i : Invocation} (hparse : parse args = .ok i)
    (hlocal : i.command.isLocal = true) : w.activity i = w'.activity i := by
  have hsettings : w.settings i.config = w'.settings i.config := congrArg Prod.snd (h.loaded _)
  have hinForce : w.inForce = w'.inForce := by
    rw [World.inForce, World.inForce, h.files, h.environment]
  rw [World.activity, World.activity, hsettings, h.opening hparse, hinForce]
  exact carryOut_of_isLocal hlocal _ _ _ _ _

end Networks

/-- Whether a command line keeps away from the remote service: if it looks addresses up, it has the
flag, wherever it stands among the arguments. -/
def KeepsLocal (args : List String) : Prop :=
  ∀ config addresses noRemote json,
    parse args = .ok ⟨config, .lookup addresses noRemote json⟩ → HasNoRemote args

/-- The flag may stand anywhere before a double dash. -/
theorem keepsLocal_of_flag {before : List String} (h : "--" ∉ before) (behind : List String) :
    KeepsLocal (before ++ "--no-remote" :: behind) := by
  intro config addresses noRemote json _
  have hbefore : ∀ a ∈ before, decide (a ≠ "--") = true := by
    intro a ha
    exact decide_eq_true fun heq => h (heq ▸ ha)
  rw [HasNoRemote, List.takeWhile_append_of_pos hbefore]
  exact List.mem_append_right _ List.mem_cons_self

/-- The command of such a command line leaves the remote service alone. -/
theorem KeepsLocal.isLocal {args : List String} (h : KeepsLocal args) {i : Invocation}
    (hparse : parse args = .ok i) : i.command.isLocal = true := by
  obtain ⟨config, command⟩ := i
  cases command with
  | lookup addresses noRemote json => exact noRemote_of_parse hparse (h _ _ _ _ hparse)
  | source => rfl
  | configGen output => rfl

/-- **A run that keeps away from the remote service asks nobody, and nothing that the network would
answer shows.** Whatever the files, the variables and the settings, two runs of one such command line
on different networks end alike and write the same output. What they write to the error stream and
to files is the same up to the times in it. -/
theorem run_of_local {w w' : World} {args : List String} (hargs : KeepsLocal args)
    (h : w.SameButNetwork w' args) :
    let o := run w args
    let o' := run w' args
    o.requests = [] ∧ o'.requests = [] ∧ o.status = o'.status ∧ o.output = o'.output ∧
      SameUpToTime w.clock w'.clock o.errors o'.errors ∧
      SameFates w.clock w'.clock w.files w'.files o.files o'.files := by
  intro o o'
  have hstart : SameFates w.clock w'.clock w.files w'.files w.files w'.files :=
    .start (by rw [h.files])
  cases hparse : parse args with
  | error stop =>
      have ho : o = _ := run_of_stop hparse
      have ho' : o' = _ := run_of_stop hparse
      rw [ho, ho']
      exact ⟨rfl, rfl, rfl, rfl, .text _, hstart⟩
  | ok i =>
      have hopening := h.opening hparse
      have hopened : SameFates w.clock w'.clock w.files w'.files (w.opening i.config).files
          (w'.opening i.config).files := by
        have hlogging : (w'.settings i.config).logging = (w.settings i.config).logging := by
          rw [World.settings, World.settings, h.loaded]
        have hfates := (hstart.ofSettings (w.settings i.config).logging (h.date i hparse)).2.2
        rw [World.opening, World.opening, hlogging]
        exact hfates
      cases hlog : (w.opening i.config).result with
      | error causes =>
          have ho : o = _ := run_of_failure hparse hlog
          have ho' : o' = _ := run_of_failure hparse (hopening ▸ hlog)
          rw [ho, ho', h.told hparse]
          exact ⟨rfl, rfl, rfl, rfl, .text _, hopened⟩
      | ok l =>
          have ho : o = _ := run_of_logger hparse hlog
          have ho' : o' = _ := run_of_logger hparse (hopening ▸ hlog)
          have hlocal := hargs.isLocal hparse
          have hasked : (w'.activity i).asked = [] := asked_carryOut hlocal _ _ _ _
          have hactivity := h.activity hparse hlocal
          have hfiles : SameFates w.clock w'.clock w.files w'.files (w.activity i).files
              (w'.activity i).files := hopened.carryOut i.command _ _ _ _ _ _
          obtain ⟨hlogged, herrors⟩ := sameUpToTime_writeNotices w.clock w'.clock l 0
            (w'.activity i).notices
          rw [hactivity] at hfiles
          rw [ho, ho', h.told hparse, hactivity, hasked]
          exact ⟨rfl, rfl, rfl, rfl, (SameUpToTime.text _).append herrors,
            hfiles.writeLog l hlogged⟩

/-- A world on some network in which the settings cannot be read, so that the service is enabled by
default. -/
def unreadableWorld (net : Network) (start : Instant) : World where
  files := ⟨["work"], []⟩
  environment := [("GEOIP__REMOTE__ENABLED", [0xFF]), ("IPINFO_TOKEN", [116])]
  network := net
  start := start
  clock n := ⟨start.micros + n⟩

/-- On a network that answers and on one that does not, with the flag between two addresses. -/
theorem run_of_local_unreadable :
    let w := unreadableWorld (fun _ => .ok ⟨200, [85, 83]⟩) ⟨0⟩
    let w' := unreadableWorld Network.unreachable ⟨3600000000⟩
    let args := ["lookup", "8.8.8.8", "--no-remote", "203.0.113.7"]
    (w.settings "config.toml").remote.enabled = true ∧ KeepsLocal args ∧
      w.SameButNetwork w' args ∧ (run w args).requests = [] ∧
      (run w args).output = (run w' args).output ∧
      SameUpToTime w.clock w'.clock (run w args).errors (run w' args).errors := by
  intro w w' args
  have hbefore : "--" ∉ ["lookup", "8.8.8.8"] := by decide
  have hargs : KeepsLocal args := keepsLocal_of_flag hbefore ["203.0.113.7"]
  have hworlds : w.SameButNetwork w' args := ⟨rfl, rfl, rfl, fun _ _ _ => by decide⟩
  obtain ⟨hrequests, -, -, houtput, herrors, -⟩ := run_of_local hargs hworlds
  exact ⟨by decide, hargs, hworlds, hrequests, houtput, herrors⟩

end CountryLookup
