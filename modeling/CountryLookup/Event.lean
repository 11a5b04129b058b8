/-!
# Log events

What the program does is told as events: a level, the part of the program that speaks, and a
message. Operations answer with the events they caused; whether and how an event is written is
decided elsewhere.
-/

namespace CountryLookup

/-- How important an event is, the most important first. -/
inductive Level where
  | error | warn | info | debug | trace
  deriving Repr, DecidableEq

namespace Level

/-- The rank of a level: the more verbose, the higher. -/
def rank : Level → Nat
  | error => 1
  | warn => 2
  | info => 3
  | debug => 4
  | trace => 5

/-- The name of a level in log lines. -/
def name : Level → String
  | error => "ERROR"
  | warn => "WARN"
  | info => "INFO"
  | debug => "DEBUG"
  | trace => "TRACE"

end Level

/-- The part of the program that an event comes from. -/
inductive Speaker where
  | database | resolver | remote | program
  deriving Repr, DecidableEq

/-- The name by which filters and log lines know a part of the program. -/
def Speaker.name : Speaker → String
  | database => "geoip_resolver::services::geoip::maxmind"
  | resolver => "geoip_resolver::services::geoip::provider"
  | remote => "geoip_resolver::services::geoip::external_api"
  | program => "geoip_lookup"

/-- Something that happened. -/
structure Event where
  level : Level
  speaker : Speaker
  message : String
  deriving Repr, DecidableEq

/-- The event with its level in front, as a list of events is shown. -/
def Event.render (e : Event) : String := e.level.name ++ " " ++ e.message

end CountryLookup
