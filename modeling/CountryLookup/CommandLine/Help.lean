import CountryLookup.CommandLine.Basic

/-!
# Help texts

Help about the program or one of its commands is a sentence, a line on usage, and up to three lists
of names with what they mean. The meanings of a list stand below each other, two blanks behind the
longest name.

## Main results

* `length_padded` — a padded name has the width it was padded to.
-/

namespace CountryLookup.CommandLine

/-- A list in a help text: its heading, and names with meanings. -/
structure HelpList where
  heading : String
  rows : List (String × String)
  deriving Repr, DecidableEq

/-- The width of the names of a list. -/
def HelpList.width (l : HelpList) : Nat := (l.rows.map fun r => r.1.length).foldl max 0

/-- A name padded with blanks. -/
def padded (width : Nat) (s : String) : String :=
  s ++ String.ofList (List.replicate (width - s.length) ' ')

/-- A line of a list. -/
def HelpList.row (l : HelpList) (r : String × String) : String :=
  "  " ++ padded l.width r.1 ++ "  " ++ r.2 ++ "\n"

/-- A list as text. -/
def HelpList.render (l : HelpList) : String :=
  "\n" ++ l.heading ++ ":\n" ++ String.join (l.rows.map l.row)

/-! ## What help says -/

/-- What a command does. -/
def Topic.about : Topic → String
  | program => "Resolve IP addresses to two-letter country codes"
  | lookup => "Resolve one or more IP addresses"
  | source => "Show which local database is active (never queries ipinfo.io)"
  | configGen => "Generate a sample configuration file"
  | help => "Print this message or the help of the given subcommand(s)"

/-- How a command is called. -/
def Topic.usage : Topic → String
  | program => "geoip-lookup [OPTIONS] <COMMAND>"
  | lookup => "geoip-lookup lookup [OPTIONS] <IPS>..."
  | source => "geoip-lookup source [OPTIONS]"
  | configGen => "geoip-lookup config-gen [OPTIONS]"
  | help => "geoip-lookup help [COMMAND]..."

/-- The option that every command has. -/
def configRow : String × String :=
  ("-c, --config <CONFIG>", "Configuration file path [default: config.toml]")

/-- The flag that asks for help. -/
def helpRow : String × String := ("-h, --help", "Print help")

/-- The lists in the help about a command. -/
def Topic.lists : Topic → List HelpList
  | program =>
    [ ⟨"Commands", commands.map fun t => (t.name, t.about)⟩,
      ⟨"Options", [configRow, helpRow, ("-V, --version", "Print version")]⟩ ]
  | lookup =>
    [ ⟨"Arguments", [("<IPS>...", "IP addresses (IPv4 or IPv6)")]⟩,
      ⟨"Options",
        [ configRow,
          ("    --no-remote", "Skip ipinfo.io and use the local database only"),
          ("    --json", "Print one JSON object per address"),
          helpRow ]⟩ ]
  | source => [⟨"Options", [configRow, helpRow]⟩]
  | configGen =>
    [ ⟨"Options",
        [ configRow,
          ("-o, --output <OUTPUT>", "Output path (prints to stdout if omitted)"),
          helpRow ]⟩ ]
  | help => [⟨"Arguments", [("[COMMAND]...", "Print help for the subcommand(s)")]⟩]

/-- The help about a command. -/
def Topic.helpText (t : Topic) : String :=
  t.about ++ "\n\nUsage: " ++ t.usage ++ "\n" ++ String.join (t.lists.map HelpList.render)

/-- The line that names the version. -/
def versionLine : String := "geoip-lookup 0.1.0\n"

/-- A padded name has the width it was padded to. -/
theorem length_padded {width : Nat} {s : String} (h : s.length ≤ width) :
    (padded width s).length = width := by
  simp [padded]
  omega

end CountryLookup.CommandLine
