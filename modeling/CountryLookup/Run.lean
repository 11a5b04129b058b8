import CountryLookup.CommandLine.Help
import CountryLookup.CommandLine.Parser
import CountryLookup.Logging.Instant
import CountryLookup.Logging.Logger
import CountryLookup.Report
import CountryLookup.Resolver.Startup
import CountryLookup.Settings.Load
import CountryLookup.Settings.Save
import CountryLookup.Settings.VariableFile

/-!
# A run of the program

A run depends on the arguments and on the world: the files, the environment, the network, the clock,
and the readers of configurations that come from elsewhere. It leaves an exit status, what it wrote to
the output and to the error stream, the requests that it made, and the files.

The order of things is fixed. The file of variables is read, then the command line. The settings
are loaded and the log is opened, which is told on the error stream, and only then the command is
carried out. What it logs goes to the sink of the log at the end, all of it to the file of the day on
which the run started: a run is taken to end before the file of the next day is due.

## Main results

* `asked_carryOut` — a command asks nobody unless it looks up with the remote service.
-/

namespace CountryLookup

open CommandLine Logging Text

/-- What a run depends on. The clock is asked when the log is opened and for each line of it. -/
structure World where
  files : FileTree
  environment : Environment
  network : Network
  start : Instant
  clock : Nat → Instant
  formats : Formats := .builtin

/-- What a run leaves. -/
structure Outcome where
  status : Nat
  output : String := ""
  errors : String := ""
  requests : List String := []
  files : FileTree

/-- What a command tells: an event for the log, or a text for the error stream. -/
inductive Notice where
  | event (e : Event)
  | text (s : String)
  deriving Repr, DecidableEq

/-- What carrying out a command comes to. -/
structure Activity where
  status : Nat
  output : String := ""
  notices : List Notice := []
  asked : List Address := []
  files : FileTree

/-! ## Commands -/

/-- Whether errors are coloured: no terminal is assumed, so only if it is asked for. -/
def colourForced (env : Environment) : Bool := (env.text? "CLICOLOR_FORCE").any (· ≠ "0")

/-- What stands where the external database is expected. -/
def external (s : Settings) (files : FileTree) : Option Entry :=
  (files.stat s.database.externalPath).toOption

/-- The event that tells the result of a lookup. -/
def lookupEvent (a : Report.Answer) : Event :=
  ⟨.debug, .program, "Lookup " ++ a.1 ++ " -> " ++ CodeResult.debug a.2⟩

/-- Looks texts up one after the other: the answers, each with what it caused to be told, and the
state at the end. -/
def lookupAll (r : Resolver) (file : Option Entry) (st : ResolverState) :
    List String → List (Report.Answer × List Event) × ResolverState
  | [] => ([], st)
  | arg :: args =>
    let (outcome, next) := r.lookupText file arg st
    let (answers, last) := lookupAll r file next args
    (((arg, outcome.contained), next.events.drop st.events.length) :: answers, last)

/-- Looks texts up with a resolver and reports the answers. -/
def reportLookups (r : Resolver) (file : Option Entry) (st : ResolverState) (files : FileTree)
    (colour asJson : Bool) (addresses : List String) : Activity :=
  let (answers, last) := lookupAll r file st addresses
  { status := if answers.any fun a => Report.failed a.1 then 1 else 0
    output := String.join (answers.map fun a => Report.output asJson a.1)
    notices := answers.flatMap fun a =>
      a.2.map .event ++ [.event (lookupEvent a.1), .text (Report.errors asJson colour a.1)]
    asked := last.asked
    files := files }

/-- Looks addresses up with the resolver that settings describe. -/
def runLookup (s : Settings) (net : Network) (files : FileTree) (colour asJson : Bool)
    (addresses : List String) : Activity :=
  let a := reportLookups (Resolver.ofSettings s net) (external s files) {} files colour asJson
    addresses
  { a with notices := (Resolver.startEvents s).map .event ++ a.notices }

/-- Shows the local database in use. -/
def runSource (s : Settings) (net : Network) (files : FileTree) (colour : Bool) : Activity :=
  let (choice, st) := (Resolver.ofSettings s net).database (external s files) {}
  let events := (Resolver.startEvents s ++ st.events).map Notice.event
  match choice with
  | .ok db =>
    { status := 0
      output := db.source.render ++ " [" ++ db.type ++ "]\n"
      notices := events
      files := files }
  | .error e =>
    { status := 1, notices := events ++ [.text (e.coloured colour ++ "\n")], files := files }

/-- Writes a configuration with all defaults, to the output or to a file. -/
def runConfigGen (files : FileTree) : Option String → Activity
  | none => { status := 0, output := Settings.sample, files := files }
  | some path =>
    match ({} : Settings).save files path with
    | .ok files =>
      { status := 0, output := "Sample configuration written to " ++ path ++ "\n", files := files }
    | .error e =>
      { status := 1
        notices := [.text ("Error: failed to write " ++ path ++ ": " ++ e.message ++ "\n")]
        files := files }

/-- The settings without the remote service. -/
def Settings.withoutRemote (s : Settings) : Settings :=
  { s with remote := { s.remote with enabled := false } }

/-- The settings that a command works with. -/
def CommandLine.Command.settings (c : Command) (s : Settings) : Settings :=
  if c.isLocal then s.withoutRemote else s

/-- Carries a command out. -/
def carryOut (c : Command) (s : Settings) (net : Network) (files : FileTree) (colour : Bool) :
    Activity :=
  match c with
  | .lookup addresses _ json => runLookup (c.settings s) net files colour json addresses
  | .source => runSource (c.settings s) net files colour
  | .configGen output => runConfigGen files output

theorem asked_lookupAll {r : Resolver} (hr : r.remote = none) (file : Option Entry)
    (args : List String) (st : ResolverState) :
    (lookupAll r file st args).2.asked = st.asked := by
  induction args generalizing st with
  | nil => rfl
  | cons arg args ih => simp [lookupAll, ih, r.asked_lookupText_of_none hr]

/-- **A command asks nobody unless it looks up with the remote service.** -/
theorem asked_carryOut {c : Command} (h : c.isLocal = true) (s : Settings) (net : Network)
    (files : FileTree) (colour : Bool) : (carryOut c s net files colour).asked = [] := by
  cases c with
  | lookup addresses noRemote json =>
    have hn : noRemote = true := h
    subst hn
    exact asked_lookupAll rfl _ addresses {}
  | source =>
    simp only [carryOut, runSource]
    split <;> rfl
  | configGen output =>
    cases output with
    | none => rfl
    | some path =>
      simp only [carryOut, runConfigGen]
      split <;> rfl

/-! ## The log and the error stream -/

/-- What notices write to the log's file and to the error stream, from the `n`-th line on. -/
def writeNotices (l : Logger) (clock : Nat → Instant) (n : Nat) : List Notice → String × String
  | [] => ("", "")
  | .text s :: rest =>
    let (log, errors) := writeNotices l clock n rest
    (log, s ++ errors)
  | .event e :: rest =>
    if l.filter.enabled e then
      let (log, errors) := writeNotices l clock (n + 1) rest
      let written := line l.format (clock n).stamp e ++ "\n"
      match l.sink with
      | .errorStream => (log, written ++ errors)
      | .file _ => (written ++ log, errors)
    else writeNotices l clock n rest

/-- Writes to the file of a log, if it has one. -/
def writeLog (l : Logger) (log : String) (files : FileTree) : FileTree :=
  match l.sink with
  | .errorStream => files
  | .file path =>
    if log = "" then files else (files.append path (Utf8.encode log)).toOption.getD files

/-- The text of a failure with its causes. -/
def failureText (what : String) (causes : List String) : String :=
  let rows := match causes with
    | [cause] => ["    " ++ cause]
    | causes => causes.zipIdx.map fun (cause, n) => "    " ++ decimal n ++ ": " ++ cause
  "Error: " ++ what ++ "\n\nCaused by:\n" ++ String.join (rows.map (· ++ "\n"))

/-! ## Runs -/

/-- What a command line that leads to no command writes to the output and to the error stream. -/
def stopText : Stop → String × String
  | .help t => (t.helpText, "")
  | .version => (versionLine, "")
  | .nothingGiven => ("", Topic.program.helpText)
  | _ => ("", "error: the arguments make no sense\n\nUsage: " ++ Topic.program.usage ++ "\n")

/-- Lines as a text. -/
def unlines (ls : List String) : String := String.join (ls.map (· ++ "\n"))

/-- Runs a command with loaded settings, after `told` was told. -/
def runCommand (w : World) (env : Environment) (c : Command) (s : Settings) (told : List String) :
    Outcome :=
  let opening := Logger.ofSettings s.logging w.start.date w.files
  let told := unlines (told ++ opening.told)
  match opening.result with
  | .error causes =>
    { status := 1
      errors := told ++ failureText "failed to initialize logging" causes
      files := opening.files }
  | .ok logger =>
    let a := carryOut c s w.network opening.files (colourForced env)
    let (log, errors) := writeNotices logger w.clock 0 a.notices
    { status := a.status
      output := a.output
      errors := told ++ errors
      requests := a.asked.map (Client.ofSettings s.remote).url
      files := writeLog logger log a.files }

/-- Runs the program. -/
def run (w : World) (args : List String) : Outcome :=
  let env := VariableFile.load w.files w.environment
  match parse args with
  | .error stop =>
    { status := stop.status, output := (stopText stop).1, errors := (stopText stop).2
      files := w.files }
  | .ok i =>
    let (report, s) := Settings.load w.files env i.config w.formats
    let cause := w.formats.cause? w.files env i.config
    runCommand w env i.command s (report.line? i.config cause).toList

end CountryLookup
