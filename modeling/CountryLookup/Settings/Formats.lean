import CountryLookup.Files.Tree
import CountryLookup.Settings.Environment
import CountryLookup.Settings.Json
import CountryLookup.Toml.Reader

/-!
# Formats of configurations

A configuration file is a document in one of six formats, and its extension tells in which. TOML and
JSON are read here. The readers of the other four come from elsewhere, and so does the order in which
extensions are tried where a path has none, and the words for what went wrong. All of this is one
value, of which nothing is known but that no format is left out of the order.

## Main results

* `ofExtension?_eq_some_iff` — the format that an extension tells.
* `mem_tried` — every extension of every format is tried.
-/

namespace CountryLookup

/-- The formats whose readers come from elsewhere. -/
inductive ForeignFormat where
  | yaml | ini | ron | json5
  deriving Repr, DecidableEq

/-- The formats of configuration files. -/
inductive FileFormat where
  | toml | json
  | foreign (f : ForeignFormat)
  deriving Repr, DecidableEq

namespace FileFormat

/-- The extensions of a format, in the order in which they are tried. -/
def extensions : FileFormat → List String
  | toml => ["toml"]
  | json => ["json"]
  | foreign .yaml => ["yaml", "yml"]
  | foreign .ini => ["ini"]
  | foreign .ron => ["ron"]
  | foreign .json5 => ["json5"]

/-- All formats. -/
def all : List FileFormat :=
  [toml, json, foreign .yaml, foreign .ini, foreign .ron, foreign .json5]

theorem mem_all (f : FileFormat) : f ∈ all := by
  cases f with
  | toml => decide
  | json => decide
  | foreign f => cases f <;> decide

/-- The format that an extension tells. -/
def ofExtension? (s : String) : Option FileFormat := all.find? fun f => s ∈ f.extensions

/-- No two formats share an extension. -/
theorem eq_of_mem_extensions {f g : FileFormat} {s : String} (hf : s ∈ f.extensions)
    (hg : s ∈ g.extensions) : f = g := by
  have hdistinct : ∀ f ∈ all, ∀ s ∈ f.extensions, ∀ g ∈ all, s ∈ g.extensions → f = g := by decide
  exact hdistinct f (mem_all f) s hf g (mem_all g) hg

/-- **The format that an extension tells.** -/
theorem ofExtension?_eq_some_iff {s : String} {f : FileFormat} :
    ofExtension? s = some f ↔ s ∈ f.extensions := by
  constructor
  · intro h
    simpa using List.find?_some h
  · intro h
    cases hfound : ofExtension? s with
    | none =>
      have hnot := List.find?_eq_none.1 hfound f (mem_all f)
      exact absurd (decide_eq_true h) hnot
    | some g =>
      have hg : s ∈ g.extensions := by simpa using List.find?_some hfound
      rw [eq_of_mem_extensions h hg]

end FileFormat

/-- What reading a configuration leaves open. -/
structure Formats where
  /-- The formats in the order in which their extensions are tried. -/
  order : List FileFormat
  /-- No format is left out. -/
  complete : ∀ f, f ∈ order
  /-- The members of a document in a format from elsewhere; `none` if it cannot be read. -/
  foreign? : ForeignFormat → String → Option (List (String × Setting))
  /-- Why the configuration for a path cannot be loaded, if there are words for it. -/
  cause? : FileTree → Environment → String → Option String

namespace Formats

/-- The formats as far as they are known here: documents of the others cannot be read. -/
def builtin : Formats where
  order := FileFormat.all
  complete := FileFormat.mem_all
  foreign? _ _ := none
  cause? _ _ _ := none

/-- Reads the members of a document. -/
def members? (formats : Formats) : FileFormat → String → Option (List (String × Setting))
  | .toml, s => Toml.parse? s
  | .json, s => Setting.membersOfJson? s
  | .foreign f, s => formats.foreign? f s

/-- The extensions and their formats, in the order in which they are tried. -/
def tried (formats : Formats) : List (FileFormat × String) :=
  formats.order.flatMap fun f => f.extensions.map (f, ·)

/-- **Every extension of every format is tried.** -/
theorem mem_tried {formats : Formats} {f : FileFormat} {extension : String} :
    (f, extension) ∈ formats.tried ↔ extension ∈ f.extensions := by
  simp only [tried, List.mem_flatMap, List.mem_map, Prod.mk.injEq]
  constructor
  · rintro ⟨g, -, s, hs, rfl, rfl⟩
    exact hs
  · intro h
    exact ⟨f, formats.complete f, extension, h, rfl, rfl⟩

end Formats

end CountryLookup
