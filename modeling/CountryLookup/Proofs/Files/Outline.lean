import CountryLookup.Proofs.Files

/-!
# Outlines

The outline of a tree is the tree with what its files hold left out: which directories and files
there are, where, and in which order. Where a path leads, whether something stands there and whether
it is a directory follow from the outline alone, and a change of the tree changes the outline in the
same way. So two trees of one outline cannot be told apart but by reading a file.

## Main results

* `get?_outline`, `outline_put`, `outline_erase` — places and changes of an outline.
* `locate_outline` — a path leads to the same place.
* `stat_outline` — what stands there is the same but for what it holds.
-/

namespace CountryLookup

/-- An entry without what it holds. -/
def Entry.outline : Entry → Entry
  | .directory => .directory
  | .regular _ => .regular []

namespace FileTree

/-- A tree without what its files hold. -/
def outline (t : FileTree) : FileTree :=
  { t with entries := t.entries.map fun e => (e.1, e.2.outline) }

/-! ## Places and changes -/

@[simp] theorem home_outline (t : FileTree) : t.outline.home = t.home := rfl

theorem get?_outline (t : FileTree) (p : Place) :
    t.outline.get? p = (t.get? p).map Entry.outline := by
  unfold get?
  rw [home_outline]
  by_cases hp : p.isPrefixOf t.home = true
  · rw [if_pos hp, if_pos hp]
    rfl
  · rw [if_neg hp, if_neg hp, outline, List.find?_map, Option.map_map, Option.map_map]
    rfl

theorem outline_erase (t : FileTree) (p : Place) : (t.erase p).outline = t.outline.erase p := by
  simp only [outline, erase, List.filter_map]
  rfl

theorem outline_put (t : FileTree) (p : Place) (e : Entry) :
    (t.put p e).outline = t.outline.put p e.outline := by
  have herase := congrArg entries (outline_erase t p)
  simp only [outline, put, List.map_append, List.map_cons, List.map_nil] at herase ⊢
  rw [herase]

/-- The files of a directory have their names and their order in an outline too. -/
theorem names_filesIn_outline (t : FileTree) (dir : Place) :
    (t.outline.filesIn dir).map (·.1) = (t.filesIn dir).map (·.1) := by
  simp only [filesIn, outline, List.filterMap_map, List.map_filterMap]
  congr 1
  funext ⟨p, e⟩
  cases hname : p.getLast? with
  | none => simp [hname]
  | some name =>
      cases e with
      | directory => simp [hname, Entry.outline]
      | regular content =>
          by_cases hp : p = dir ++ [name]
          · simp [Entry.outline, hp]
          · simp [hname, Entry.outline, hp]

/-! ## Paths -/

theorem walk_outline (t : FileTree) (here : Place) (names : List String) :
    t.outline.walk here names = t.walk here names := by
  induction names generalizing here with
  | nil => rfl
  | cons name names ih =>
      rw [walk, walk, get?_outline]
      cases t.get? here with
      | none => rfl
      | some e =>
          cases e with
          | directory => simp only [Option.map_some, Entry.outline, ih]
          | regular content => rfl

/-- **A path leads to the same place.** -/
theorem locate_outline (t : FileTree) (p : String) : t.outline.locate p = t.locate p := by
  simp only [locate, walk_outline, home_outline]

/-- **What stands at the end of a path is the same but for what it holds.** -/
theorem stat_outline (t : FileTree) (p : String) :
    t.outline.stat p = (t.stat p).map Entry.outline := by
  simp only [stat, locate_outline, bind, Except.bind]
  cases t.locate p with
  | error e => rfl
  | ok place =>
      dsimp only
      rw [get?_outline]
      cases t.get? place <;> rfl

theorem holds_outline (t : FileTree) (p : String) : t.outline.holds p = t.holds p := by
  rw [holds, holds, stat_outline]
  cases t.stat p <;> rfl

theorem isDirectory_outline (t : FileTree) (p : String) :
    t.outline.isDirectory p = t.isDirectory p := by
  rw [isDirectory, isDirectory, stat_outline]
  cases t.stat p with
  | error e => rfl
  | ok e => cases e <;> rfl

/-- A file is written at the same place. -/
theorem locateFile_outline (t : FileTree) (p : String) :
    t.outline.locateFile p = (t.locateFile p).map fun f => (f.1, []) := by
  unfold locateFile
  generalize (if Path.withoutEndSlashes p = "" then p else Path.withoutEndSlashes p) = q
  simp only [locate_outline, bind, Except.bind]
  cases t.locate q with
  | error e => rfl
  | ok place =>
      dsimp only
      rw [get?_outline]
      cases t.get? place with
      | none =>
          by_cases hq : q = p
          · simp [hq, Except.map]
          · simp [hq, Except.map]
      | some e =>
          cases e with
          | directory => rfl
          | regular content =>
              by_cases hq : q = p
              · simp [hq, Except.map, Entry.outline]
              · simp [hq, Except.map, Entry.outline]

/-! ## Two trees of one outline -/

section Twins

variable {u u' : FileTree} (h : u.outline = u'.outline)
include h

theorem home_eq_of_outline : u.home = u'.home := by
  rw [← home_outline, h, home_outline]

theorem locate_eq_of_outline (p : String) : u.locate p = u'.locate p := by
  rw [← locate_outline, h, locate_outline]

theorem holds_eq_of_outline (p : String) : u.holds p = u'.holds p := by
  rw [← holds_outline, h, holds_outline]

theorem isDirectory_eq_of_outline (p : String) : u.isDirectory p = u'.isDirectory p := by
  rw [← isDirectory_outline, h, isDirectory_outline]

/-- At a place there is nothing in both trees, or a directory, or a file. -/
theorem get?_cases_of_outline (p : Place) :
    (u.get? p = none ∧ u'.get? p = none) ∨
      (u.get? p = some .directory ∧ u'.get? p = some .directory) ∨
      ∃ c c', u.get? p = some (.regular c) ∧ u'.get? p = some (.regular c') := by
  have hp : (u.get? p).map Entry.outline = (u'.get? p).map Entry.outline := by
    rw [← get?_outline, h, get?_outline]
  cases hu : u.get? p with
  | none =>
      cases hu' : u'.get? p with
      | none => exact .inl ⟨rfl, rfl⟩
      | some e' =>
          rw [hu, hu'] at hp
          cases hp
  | some e =>
      cases hu' : u'.get? p with
      | none =>
          rw [hu, hu'] at hp
          cases hp
      | some e' =>
          rw [hu, hu'] at hp
          have he : e.outline = e'.outline := Option.some.inj hp
          cases e with
          | directory =>
              cases e' with
              | directory => exact .inr (.inl ⟨rfl, rfl⟩)
              | regular c' => cases he
          | regular c =>
              cases e' with
              | directory => cases he
              | regular c' => exact .inr (.inr ⟨c, c', rfl, rfl⟩)

end Twins

end FileTree

end CountryLookup
