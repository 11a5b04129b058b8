import CountryLookup.Number.Power
import CountryLookup.Number.Shortest
import CountryLookup.Settings.Basic
import CountryLookup.Settings.Tree
import CountryLookup.Text.Lowercase

/-!
# From a tree to settings

The fields of the settings take their values from a tree by conversions that are generous: a
truth value may come from a number or from one of a few words, a whole number from a truth value,
from a number with a fraction or from a text, and a text from any plain value. A table gives its
fields by name and a list gives them in order. A field that is missing has its default, and one
that is there and does not convert spoils everything.

## Main results

* `settings_empty` — an empty tree gives the defaults.
-/

namespace CountryLookup.Setting

open Text

/-! ## Plain values -/

/-- The words for true and for false, in any case. -/
def wordTruth? (s : String) : Option Bool :=
  let w := lowercase s
  if w = "true" ∨ w = "on" ∨ w = "yes" then some true
  else if w = "false" ∨ w = "off" ∨ w = "no" then some false
  else none

/-- A value as a truth value. -/
def toTruth? : Setting → Option Bool
  | truth b => some b
  | integer i => some (i ≠ 0)
  | real x => some x.isNonzero
  | text "1" => some true
  | text "0" => some false
  | text s => wordTruth? s
  | _ => none

/-- A value as a whole number of 64 bits, of either sign if it is an integer. -/
def toWhole? : Setting → Option Int
  | truth b => some (if b then 1 else 0)
  | integer i => some i
  | real x => some (x.toNatClamped (twoTo 64 - 1))
  | text s =>
    match wordTruth? s with
    | some b => some (if b then 1 else 0)
    | none => (natural? s).map Int.ofNat
  | _ => none

/-- A value as a number of so many bits. -/
def toNat? (bits : Nat) (v : Setting) : Option Nat :=
  match v.toWhole? with
  | some i => if 0 ≤ i ∧ i.toNat < twoTo bits then some i.toNat else none
  | none => none

/-- A value as a text. -/
def toText? : Setting → Option String
  | truth b => some (if b then "true" else "false")
  | integer i => some (signedDecimal i)
  | real x => some x.render
  | text s => some s
  | _ => none

/-- A value as a text that may be absent. -/
def toTextOption? : Setting → Option (Option String)
  | nothing => some none
  | v => v.toText?.map some

/-! ## Fields -/

/-- What a value says about a field: a table by the name of the field, a list by its position.
`none` if it is neither. -/
def field? (v : Setting) (name : String) (position : Nat) : Option (Option Setting) :=
  match v with
  | table ms => some (Members.get? name ms)
  | list xs => some xs[position]?
  | _ => none

/-- A field of a value, converted; the default if it is missing. -/
def fieldOr {α : Type} (v : Setting) (name : String) (position : Nat) (default : α)
    (convert : Setting → Option α) : Option α :=
  match v.field? name position with
  | none => none
  | some none => some default
  | some (some x) => convert x

/-- A value as database settings. -/
def toDatabase? (v : Setting) : Option DatabaseSettings := do
  let d : DatabaseSettings := {}
  let externalPath ← v.fieldOr "external_path" 0 d.externalPath toText?
  return { externalPath }

/-- A value as remote settings. -/
def toRemote? (v : Setting) : Option RemoteSettings := do
  let d : RemoteSettings := {}
  let enabled ← v.fieldOr "enabled" 0 d.enabled toTruth?
  let baseUrl ← v.fieldOr "base_url" 1 d.baseUrl toText?
  let timeoutSeconds ← v.fieldOr "timeout_secs" 2 d.timeoutSeconds.toNat (toNat? 64)
  let token ← v.fieldOr "token" 3 d.token toTextOption?
  return { enabled, baseUrl, timeoutSeconds := UInt64.ofNat timeoutSeconds, token }

/-- A value as logging settings. -/
def toLogging? (v : Setting) : Option LoggingSettings := do
  let d : LoggingSettings := {}
  let level ← v.fieldOr "level" 0 d.level toText?
  let format ← v.fieldOr "format" 1 d.format toText?
  let file ← v.fieldOr "file" 2 d.file toTextOption?
  let maxBackups ← v.fieldOr "max_backups" 3 d.maxBackups.toNat (toNat? 32)
  let enableRotation ← v.fieldOr "enable_rotation" 4 d.enableRotation toTruth?
  return { level, format, file, maxBackups := UInt32.ofNat maxBackups, enableRotation }

/-- A value as all settings. -/
def toSettings? (v : Setting) : Option Settings := do
  let d : Settings := {}
  let database ← v.fieldOr "database" 0 d.database toDatabase?
  let remote ← v.fieldOr "remote" 1 d.remote toRemote?
  let logging ← v.fieldOr "logging" 2 d.logging toLogging?
  return { database, remote, logging }

/-- **An empty tree gives the defaults.** -/
theorem settings_empty : toSettings? (table []) = some {} := rfl

end CountryLookup.Setting
