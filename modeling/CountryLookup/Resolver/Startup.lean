import CountryLookup.Bundled
import CountryLookup.Resolver
import CountryLookup.Settings.Basic

/-!
# A resolver for given settings

The settings say whether there is a remote tier and where the external database lies; behind both
stands the bundled database.

## Main results

* `ofSettings_remote` — there is a remote tier exactly if the settings enable it.
-/

namespace CountryLookup

/-- The client that remote settings describe. -/
def Client.ofSettings (s : RemoteSettings) : Client := Client.new s.baseUrl s.token

namespace Resolver

/-- The resolver that settings describe, over a network. -/
def ofSettings (s : Settings) (net : Network) : Resolver where
  remote := if s.remote.enabled then some ((Client.ofSettings s.remote).remote net) else none
  selector := ⟨s.database.externalPath, some Bundled.bytes⟩

/-- What is told when a resolver starts. -/
def startEvents (s : Settings) : List Event :=
  let tier :=
    if s.remote.enabled then
      if s.remote.token.isNone then
        [event .debug "No ipinfo token configured, remote lookups are unauthenticated"]
      else []
    else [event .debug "Remote lookup disabled"]
  let name := if s.remote.enabled then Client.name else "disabled"
  tier ++ [event .info ("Initialized (remote: " ++ name ++ ", external database: "
    ++ s.database.externalPath ++ ")")]

/-- The remote tier is what the settings enable. -/
theorem ofSettings_remote (s : Settings) (net : Network) :
    (ofSettings s net).remote.isSome = s.remote.enabled := by
  unfold ofSettings
  cases s.remote.enabled <;> rfl

end Resolver

end CountryLookup
