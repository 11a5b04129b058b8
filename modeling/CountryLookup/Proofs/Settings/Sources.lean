import CountryLookup.Proofs.Text.Utf8
import CountryLookup.Settings.Load

/-!
# The file of a configuration

A path leads to the file of a configuration in one of two ways. A file that stands at the path is used
if the extension of its name is that of a format. If no file stands there, the first file beside the
path is used, which is the path with an extension behind it. The extensions of all formats are tried
for that, in an order of which only this much is known. So which file is used may depend on the order,
but not whether one is.

## Main results

* `configuration?_eq_some_iff` — the file that is used.
* `exists_uses_iff` — whether a file is used.
* `configurationText_encode` — the text of a file that is UTF-8.
* `tree?_of_file`, `tree?_of_no_file` — the tree with a file and without one.
-/

namespace CountryLookup

open Text

namespace FileTree

variable {t : FileTree} {path : String} {formats : Formats}

/-! ## Files at a path and beside it -/

theorem content?_eq_some_iff {p : String} {bytes : List UInt8} :
    t.content? p = some bytes ↔ t.read p = .ok bytes := by
  rw [content?]
  cases t.read p <;> simp [Except.toOption]

theorem content?_eq_none_iff {p : String} :
    t.content? p = none ↔ ∀ bs, t.read p ≠ .ok bs := by
  rw [content?]
  cases t.read p <;> simp [Except.toOption]

/-- A file beside a path: at the path with an extension behind it. -/
def Beside (t : FileTree) (path extension : String) (bytes : List UInt8) : Prop :=
  ∃ q, Path.extended? (t.absolute path) ("." ++ extension) = some q ∧ t.read q = .ok bytes

/-- There is a file beside a path, with an extension of some format. -/
def AnyBeside (t : FileTree) (path : String) : Prop :=
  ∃ (f : FileFormat) (extension : String) (bytes : List UInt8),
    extension ∈ f.extensions ∧ t.Beside path extension bytes

theorem beside?_eq_some_iff {extension : String} {bytes : List UInt8} :
    t.beside? path extension = some bytes ↔ t.Beside path extension bytes := by
  simp only [beside?, Option.bind_eq_some_iff, content?_eq_some_iff, Beside]

theorem beside?_eq_none_iff {extension : String} :
    t.beside? path extension = none ↔ ∀ bs, ¬ t.Beside path extension bs := by
  simp only [Option.eq_none_iff_forall_ne_some, ne_eq, beside?_eq_some_iff]

/-- The name of a path tells a format. -/
def Tells (path : String) (f : FileFormat) : Prop :=
  ∃ name extension, Path.fileName? path = some name ∧ Path.extension? name = some extension ∧
    extension ∈ f.extensions

/-! ## The file that is used -/

/-- The file that is used for a path: the one at the path if its name tells the format, and if no
file is there, the first one beside it. -/
inductive Uses (t : FileTree) (path : String) (formats : Formats) :
    FileFormat → List UInt8 → Prop where
  | named {f : FileFormat} {bytes : List UInt8} (h : t.read path = .ok bytes)
    (hname : Tells path f) : Uses t path formats f bytes
  | beside {f : FileFormat} {extension : String} {bytes : List UInt8}
    {earlier later : List (FileFormat × String)} (hno : ∀ bs, t.read path ≠ .ok bs)
    (htried : formats.tried = earlier ++ (f, extension) :: later)
    (hfirst : ∀ e ∈ earlier, ∀ bs, ¬ t.Beside path e.2 bs)
    (h : t.Beside path extension bytes) : Uses t path formats f bytes

theorem configuration?_of_file {bytes : List UInt8} (h : t.read path = .ok bytes)
    {f : FileFormat} {bs : List UInt8} :
    t.configuration? path formats = some (f, bs) ↔ Tells path f ∧ bs = bytes := by
  rw [configuration?, content?_eq_some_iff.2 h]
  simp only [Option.bind_eq_bind, Option.bind_eq_some_iff, FileFormat.ofExtension?_eq_some_iff,
    Option.pure_def, Option.some.injEq, Prod.mk.injEq, Tells]
  constructor
  · rintro ⟨name, hname, extension, hextension, g, hg, rfl, rfl⟩
    exact ⟨⟨name, extension, hname, hextension, hg⟩, rfl⟩
  · rintro ⟨⟨name, extension, hname, hextension, hf⟩, rfl⟩
    exact ⟨name, hname, extension, hextension, f, hf, rfl, rfl⟩

theorem configuration?_of_no_file (h : ∀ bs, t.read path ≠ .ok bs) :
    t.configuration? path formats =
      formats.tried.findSome? fun e => (t.beside? path e.2).map (e.1, ·) := by
  rw [configuration?, content?_eq_none_iff.2 h]

/-- **The file that is used.** -/
theorem configuration?_eq_some_iff {f : FileFormat} {bytes : List UInt8} :
    t.configuration? path formats = some (f, bytes) ↔ t.Uses path formats f bytes := by
  cases hread : t.content? path with
  | some content =>
      have hfile := content?_eq_some_iff.1 hread
      rw [configuration?_of_file hfile]
      constructor
      · rintro ⟨htells, rfl⟩
        exact .named hfile htells
      · rintro (⟨h, htells⟩ | ⟨hno, -⟩)
        · exact ⟨htells, Except.ok.inj (h.symm.trans hfile)⟩
        · exact absurd hfile (hno content)
  | none =>
      have hno := content?_eq_none_iff.1 hread
      rw [configuration?_of_no_file hno, List.findSome?_eq_some_iff]
      constructor
      · rintro ⟨earlier, ⟨g, extension⟩, later, htried, hfound, hfirst⟩
        obtain ⟨bs, hbs, heq⟩ := Option.map_eq_some_iff.1 hfound
        cases heq
        refine .beside hno htried ?_ (beside?_eq_some_iff.1 hbs)
        intro e he
        exact beside?_eq_none_iff.1 (Option.map_eq_none_iff.1 (hfirst e he))
      · rintro (⟨h, -⟩ | ⟨-, htried, hfirst, h⟩)
        · exact absurd h (hno bytes)
        · refine ⟨_, _, _, htried, ?_, ?_⟩
          · rw [beside?_eq_some_iff.2 h, Option.map_some]
          · intro e he
            rw [beside?_eq_none_iff.2 (hfirst e he), Option.map_none]

/-- **Whether a file is used** if none is at the path: if one is beside it, in whatever order the
extensions are tried. -/
theorem exists_uses_iff (hno : ∀ bs, t.read path ≠ .ok bs) :
    (∃ f bytes, t.Uses path formats f bytes) ↔ t.AnyBeside path := by
  constructor
  · rintro ⟨f, bytes, ⟨h, -⟩ | ⟨-, htried, -, h⟩⟩
    · exact absurd h (hno bytes)
    · have hmem := htried ▸ List.mem_append_right _ List.mem_cons_self
      exact ⟨f, _, bytes, Formats.mem_tried.1 hmem, h⟩
  · rintro ⟨f, extension, bytes, hmem, h⟩
    have hfound : (t.configuration? path formats).isSome = true := by
      rw [configuration?_of_no_file hno, List.findSome?_isSome_iff]
      refine ⟨(f, extension), Formats.mem_tried.2 hmem, ?_⟩
      rw [beside?_eq_some_iff.2 h]
      rfl
    obtain ⟨⟨g, bs⟩, hg⟩ := Option.isSome_iff_exists.1 hfound
    exact ⟨g, bs, configuration?_eq_some_iff.1 hg⟩

end FileTree

/-- The text of a file that is UTF-8, without a mark of the byte order. -/
theorem configurationText_encode {s : String}
    (h : byteOrderMark.isPrefixOf (Utf8.encode s) = false) :
    configurationText (Utf8.encode s) = s := by
  rw [configurationText, h, if_neg Bool.false_ne_true, Utf8.decodeWith_encode]

namespace Settings

variable {files : FileTree} {env : Environment} {path : String} {formats : Formats}
  {vs : List (String × Setting)}

/-! ## What the tree is built from -/

/-- The tree of a file that is read, and of an environment. -/
theorem tree?_of_file {f : FileFormat} {s : String} {ms : List (String × Setting)}
    (hfile : files.configuration? path formats = some (f, Utf8.encode s))
    (hmark : byteOrderMark.isPrefixOf (Utf8.encode s) = false)
    (hread : formats.members? f s = some ms) (henv : env.settings? = some vs) :
    tree? files env path formats = some (assignAll vs (assignAll ms (.table []))) := by
  simp only [tree?, hfile, configurationText_encode hmark, hread, henv, Option.bind_eq_bind,
    Option.bind_some, Option.pure_def]

/-- The tree of an environment alone. -/
theorem tree?_of_no_file (hfile : files.configuration? path formats = none)
    (henv : env.settings? = some vs) :
    tree? files env path formats = some (assignAll vs (.table [])) := by
  rw [tree?, hfile, henv]
  rfl

end Settings

end CountryLookup
