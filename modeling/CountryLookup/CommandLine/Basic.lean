/-!
# The command line

A command line asks for one of three things: to look addresses up, to say which local database is
in use, or to write a configuration. Beside the command it names the configuration file. Instead
it may ask for help or for the version, and it may be wrong in a number of ways; either ends the
parse.
-/

namespace CountryLookup.CommandLine

/-- What is asked for. -/
inductive Command where
  | lookup (addresses : List String) (noRemote json : Bool)
  | source
  | configGen (output : Option String)
  deriving Repr, DecidableEq

/-- Whether a command leaves the remote service alone. -/
def Command.isLocal : Command → Bool
  | lookup _ noRemote _ => noRemote
  | source => true
  | configGen _ => true

/-- A command and the configuration file for it. -/
structure Invocation where
  config : String
  command : Command
  deriving Repr, DecidableEq

/-- What help is given about. -/
inductive Topic where
  | program | lookup | source | configGen | help
  deriving Repr, DecidableEq

/-- The name of a command as it is typed. -/
def Topic.name : Topic → String
  | program => "geoip-lookup"
  | lookup => "lookup"
  | source => "source"
  | configGen => "config-gen"
  | help => "help"

/-- The commands. -/
def Topic.commands : List Topic := [lookup, source, configGen, help]

/-- The command of a name. -/
def Topic.ofName? (s : String) : Option Topic := commands.find? fun t => t.name = s

/-- Why a command line leads to no command. -/
inductive Stop where
  | help (t : Topic)
  | version
  | nothingGiven
  | missingCommand
  | unknownCommand
  | unknownArgument
  | missingAddress
  | missingValue
  | unexpectedValue
  | repeated
  deriving Repr, DecidableEq

/-- The exit status: asking for help or for the version is no error. -/
def Stop.status : Stop → Nat
  | help _ => 0
  | version => 0
  | _ => 2

end CountryLookup.CommandLine
