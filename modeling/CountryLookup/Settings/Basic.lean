import CountryLookup.Text.Space

/-!
# Settings

What a user can set: where the external database lies, whether and how the remote service is
asked, and what is logged where. Every setting has a default, so a program without any
configuration runs.

The token of the remote service may come from the configuration or from a variable of its own;
the first that is not blank counts, without the white space around it.

## Main results

* `firstToken_some` — a token that is sent is not blank and has no white space around it.
* `firstToken_firstToken` — a resolved token is resolved.
-/

namespace CountryLookup

open Text

/-- Where the local database is. -/
structure DatabaseSettings where
  externalPath : String := "/dashboard/data/ipinfo_lite.mmdb"
  deriving Repr, DecidableEq

/-- Whether and how the remote service is asked. -/
structure RemoteSettings where
  enabled : Bool := true
  baseUrl : String := "https://ipinfo.io"
  timeoutSeconds : UInt64 := 2
  token : Option String := none
  deriving Repr, DecidableEq

/-- What is logged, how and where. -/
structure LoggingSettings where
  level : String := "info"
  format : String := "text"
  file : Option String := none
  maxBackups : UInt32 := 5
  enableRotation : Bool := true
  deriving Repr, DecidableEq

/-- All settings. -/
structure Settings where
  database : DatabaseSettings := {}
  remote : RemoteSettings := {}
  logging : LoggingSettings := {}
  deriving Repr, DecidableEq

/-- The variable that holds a token if the configuration has none. -/
def tokenVariable : String := "IPINFO_TOKEN"

namespace RemoteSettings

/-- The first of two tokens that is not blank, without white space around it. -/
def firstToken (a b : Option String) : Option String :=
  ((a.filter fun t => !isBlank t).or (b.filter fun t => !isBlank t)).map trim

/-- The token that is sent: the configured one, else the given one. -/
def resolvedToken (s : RemoteSettings) (given : Option String) : Option String :=
  firstToken s.token given

/-- A token that is sent is not blank and has no white space around it. -/
theorem firstToken_some {a b : Option String} {t : String} (h : firstToken a b = some t) :
    isBlank t = false ∧ trim t = t := by
  obtain ⟨u, hu, rfl⟩ := Option.map_eq_some_iff.1 h
  rw [trim_trim, isBlank_trim]
  rcases Option.or_eq_some_iff.1 hu with hu | ⟨_, hu⟩ <;> simp_all [Option.filter_eq_some_iff]

/-- **A resolved token is resolved.** -/
theorem firstToken_firstToken (a b : Option String) :
    firstToken (firstToken a b) b = firstToken a b := by
  cases h : firstToken a b with
  | some t =>
    obtain ⟨hb, ht⟩ := firstToken_some h
    have hf : (some t).filter (fun u => !isBlank u) = some t := by simp [hb]
    rw [firstToken, hf, Option.some_or, Option.map_some, ht]
  | none =>
    have h' := Option.map_eq_none_iff.1 h
    simp [firstToken, (Option.or_eq_none_iff.1 h').2]

end RemoteSettings

/-- The settings with their token resolved. -/
def Settings.resolveToken (s : Settings) (given : Option String) : Settings :=
  { s with remote := { s.remote with token := s.remote.resolvedToken given } }

end CountryLookup
