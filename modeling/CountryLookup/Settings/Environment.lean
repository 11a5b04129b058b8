import CountryLookup.Number.Power
import CountryLookup.Number.Reader
import CountryLookup.Settings.Steps
import CountryLookup.Text.Fields
import CountryLookup.Text.Lowercase
import CountryLookup.Text.Utf8

/-!
# Settings from the environment

A variable whose name starts with `geoip__`, in any case, is a setting: the rest of the name, with
a point for each double underscore, is its place. The value is read as a truth value, an integer
or a number if it is written like one, and is a text otherwise.

## Main results

* `settings?_of_none` — variables of other names are no settings.
-/

namespace CountryLookup

open Text

/-- The variables of the environment: names with their values as bytes. -/
abbrev Environment := List (String × List UInt8)

namespace Environment

/-- The text of a variable, if it is set and is UTF-8. -/
def text? (env : Environment) (name : String) : Option String :=
  (Members.get? name env).bind Utf8.decode?

/-- One variable of a block: what stands before and behind the first equals sign. A name that is not
UTF-8 names nothing that matters here. -/
def ofField? (bs : List UInt8) : Option (String × List UInt8) :=
  match bs.dropWhile (· ≠ 61) with
  | [] => none
  | _ :: value => (Utf8.decode? (bs.takeWhile (· ≠ 61))).map fun name => (name, value)

/-- The variables of a block, in which each has a zero byte behind it. -/
def ofBlock (bs : List UInt8) : Environment := (fields 0 bs).filterMap ofField?

/-- What the name of a setting starts with. -/
def mark : List Char := ['g', 'e', 'o', 'i', 'p', '_', '_']

/-- A point for each double underscore. -/
def pointed : List Char → List Char
  | '_' :: '_' :: cs => '.' :: pointed cs
  | c :: cs => c :: pointed cs
  | [] => []

/-- The setting that a variable names, if it names one. -/
def settingName? (name : String) : Option String :=
  let cs := (lowercase name).toList
  if mark.isPrefixOf cs then some (String.ofList (pointed (cs.drop mark.length))) else none

/-- The value that a text stands for. -/
def valueOf (s : String) : Setting :=
  let w := lowercase s
  if w = "true" then .truth true
  else if w = "false" then .truth false
  else match (integer? s).filter (fitsSigned 64), Double.parse? s with
    | some i, _ => .integer i
    | none, some x => .real x
    | none, none => .text s

/-- The settings in an environment, in order; `none` if one of them is no text. -/
def settings? : Environment → Option (List (String × Setting))
  | [] => some []
  | (name, bytes) :: env =>
    match settingName? name with
    | none => settings? env
    | some k => do
      let s ← Utf8.decode? bytes
      let ms ← settings? env
      return (k, valueOf s) :: ms

/-- Variables of other names are no settings. -/
theorem settings?_of_none {env : Environment} (h : ∀ e ∈ env, settingName? e.1 = none) :
    settings? env = some [] := by
  induction env with
  | nil => rfl
  | cons e env ih =>
    obtain ⟨name, bytes⟩ := e
    rw [settings?, h (name, bytes) (by simp)]
    exact ih fun e he => h e (by simp [he])

end Environment

end CountryLookup
