import CountryLookup.Proofs.Files
import CountryLookup.Settings.Save

/-!
# What changes to a tree keep

A tree is changed by making directories and by writing files. Nothing is ever removed in this way:
a directory stays one, so a path that leads to a place leads there ever after, and a file stays a
file. Its content changes only if one of the paths that were written leads to it. The paths are
named and not the places, since what is known of a run are the paths that it writes.

## Main results

* `Extends.trans` — changes one after the other are a change.
* `Extends.locate` — a path leads where it led before.
* `extends_createDirectories`, `extends_write`, `extends_append`, `extends_save` — the changes.
-/

namespace CountryLookup.FileTree

/-- A file stands at a place. -/
def IsFile (t : FileTree) (q : Place) : Prop := ∃ c, t.get? q = some (.regular c)

/-- A tree that came of another one by making directories and by writing files at the ends of some
paths. -/
structure Extends (paths : List String) (t u : FileTree) : Prop where
  home : u.home = t.home
  directories : ∀ q, t.get? q = some .directory → u.get? q = some .directory
  files : ∀ q, t.IsFile q → u.IsFile q
  kept : ∀ q, (∀ p ∈ paths, u.locate p ≠ .ok q) →
    ∀ c, u.get? q = some (.regular c) ↔ t.get? q = some (.regular c)
  ends : ∀ p ∈ paths, ∃ q, u.locate p = .ok q ∧ u.IsFile q

variable {t u v : FileTree} {ps qs : List String}

/-! ## Ways through a tree -/

/-- A way through directories stays one. -/
theorem walk_of_directories (h : ∀ q, t.get? q = some .directory → u.get? q = some .directory)
    (names : List String) {start q : Place} (hq : t.walk start names = .ok q) :
    u.walk start names = .ok q := by
  induction names generalizing start with
  | nil => exact hq
  | cons name names ih =>
      rw [walk] at hq ⊢
      cases hg : t.get? start with
      | none =>
          rw [hg] at hq
          cases hq
      | some e =>
          cases e with
          | regular c =>
              rw [hg] at hq
              cases hq
          | directory =>
              rw [hg] at hq
              rw [h start hg]
              dsimp only at hq ⊢
              by_cases hstay : (!Path.isTelling name) = true
              · rw [if_pos hstay] at hq ⊢
                exact ih hq
              rw [if_neg hstay] at hq ⊢
              by_cases hup : name = ".."
              · rw [if_pos hup] at hq ⊢
                exact ih hq
              rw [if_neg hup] at hq ⊢
              by_cases hlong : 255 < name.utf8ByteSize
              · rw [if_pos hlong] at hq
                cases hq
              rw [if_neg hlong] at hq ⊢
              exact ih hq

/-- **A path leads where it led before.** -/
theorem Extends.locate (h : Extends ps t u) {p : String} {q : Place} (hq : t.locate p = .ok q) :
    u.locate p = .ok q := by
  obtain ⟨hwalk, hfollows⟩ := walk_of_locate hq
  rw [hfollows, h.home]
  exact walk_of_directories h.directories _ hwalk

/-! ## Changes -/

theorem Extends.refl (t : FileTree) : Extends [] t t :=
  ⟨rfl, fun _ h => h, fun _ h => h, fun _ _ _ => Iff.rfl, fun _ h => absurd h List.not_mem_nil⟩

/-- It does not matter how often a path is named, and in which order. -/
theorem Extends.of_mem_iff (h : Extends ps t u) (hmem : ∀ p, p ∈ qs ↔ p ∈ ps) :
    Extends qs t u where
  home := h.home
  directories := h.directories
  files := h.files
  kept q hq := h.kept q fun p hp => hq p ((hmem p).2 hp)
  ends p hp := h.ends p ((hmem p).1 hp)

/-- **Changes one after the other are a change.** -/
theorem Extends.trans (h : Extends ps t u) (h' : Extends qs u v) : Extends (ps ++ qs) t v where
  home := h'.home.trans h.home
  directories q hq := h'.directories q (h.directories q hq)
  files q hq := h'.files q (h.files q hq)
  kept q hq c := by
    have hps : ∀ p ∈ ps, u.locate p ≠ .ok q := fun p hp hu =>
      hq p (List.mem_append_left qs hp) (h'.locate hu)
    have hqs : ∀ p ∈ qs, v.locate p ≠ .ok q := fun p hp => hq p (List.mem_append_right ps hp)
    rw [h'.kept q hqs, h.kept q hps]
  ends p hp := by
    rcases List.mem_append.1 hp with hp | hp
    · obtain ⟨q, hq, hfile⟩ := h.ends p hp
      exact ⟨q, h'.locate hq, h'.files q hfile⟩
    · exact h'.ends p hp

/-- What stands at a place after a change there and elsewhere. -/
theorem get?_put_cases {place : Place} (hdir : t.get? place ≠ some .directory) (e : Entry)
    (q : Place) :
    (q = place ∧ (t.put place e).get? q = some e) ∨
      (q ≠ place ∧ (t.put place e).get? q = t.get? q) := by
  rw [get?_put]
  by_cases heq : q = place
  · subst heq
    exact .inl ⟨rfl, if_pos ⟨rfl, not_prefix_of_get? hdir⟩⟩
  · exact .inr ⟨heq, if_neg fun h => heq h.1⟩

/-- A new directory. -/
theorem extends_put_directory {place : Place} (hnew : t.get? place = none) :
    Extends [] t (t.put place .directory) := by
  have hdir : t.get? place ≠ some .directory := by simp [hnew]
  have hput := get?_put_cases hdir .directory
  refine ⟨rfl, ?_, ?_, ?_, fun _ h => absurd h List.not_mem_nil⟩
  · intro q hq
    rcases hput q with ⟨-, hget⟩ | ⟨-, hget⟩
    · exact hget
    · exact hget.trans hq
  · rintro q ⟨c, hq⟩
    rcases hput q with ⟨rfl, -⟩ | ⟨-, hget⟩
    · rw [hnew] at hq
      cases hq
    · exact ⟨c, hget.trans hq⟩
  · intro q _ c
    rcases hput q with ⟨rfl, hget⟩ | ⟨-, hget⟩
    · simp [hget, hnew]
    · rw [hget]

/-- A new content of a file, or a new file. -/
theorem extends_put_regular {p : String} {place : Place} {old content : List UInt8}
    (hplace : t.locate p = .ok place)
    (hold : t.get? place = none ∨ t.get? place = some (.regular old)) :
    Extends [p] t (t.put place (.regular content)) := by
  have hlocate : (t.put place (.regular content)).locate p = .ok place :=
    locate_put_regular hplace hold
  have hdir : t.get? place ≠ some .directory := by
    rcases hold with h | h <;> simp [h]
  have hput := get?_put_cases hdir (.regular content)
  refine ⟨rfl, ?_, ?_, ?_, ?_⟩
  · intro q hq
    rcases hput q with ⟨rfl, -⟩ | ⟨-, hget⟩
    · exact absurd hq hdir
    · exact hget.trans hq
  · rintro q ⟨c, hq⟩
    rcases hput q with ⟨-, hget⟩ | ⟨-, hget⟩
    · exact ⟨content, hget⟩
    · exact ⟨c, hget.trans hq⟩
  · intro q hq c
    rcases hput q with ⟨rfl, -⟩ | ⟨-, hget⟩
    · exact absurd hlocate (hq p List.mem_cons_self)
    · rw [hget]
  · intro p' hp'
    obtain rfl := List.mem_singleton.1 hp'
    exact ⟨place, hlocate, content, get?_put_self hold⟩

/-! ## Directories -/

theorem extends_createDirectory {p : String} (h : t.createDirectory p = .ok u) :
    Extends [] t u := by
  unfold createDirectory at h
  generalize (if Path.withoutEndSlashes p = "" then p else Path.withoutEndSlashes p) = q at h
  dsimp only [bind, Except.bind] at h
  cases hl : t.locate q with
  | error e =>
      rw [hl] at h
      cases h
  | ok place =>
      rw [hl] at h
      dsimp only at h
      cases hg : t.get? place with
      | some e =>
          rw [hg] at h
          cases h
      | none =>
          rw [hg] at h
          cases h
          exact extends_put_directory hg

theorem extends_ensureDirectory {p : String} (h : t.ensureDirectory p = .ok u) :
    Extends [] t u := by
  rw [ensureDirectory] at h
  cases hmade : t.createDirectory p with
  | ok v =>
      rw [hmade] at h
      cases h
      exact extends_createDirectory hmade
  | error e =>
      rw [hmade] at h
      dsimp only at h
      by_cases hdir : t.isDirectory p = true
      · rw [if_pos hdir] at h
        cases h
        exact .refl t
      · rw [if_neg hdir] at h
        cases h

theorem extends_createDirectoriesWith {fuel : Nat} {p : String}
    (h : t.createDirectoriesWith fuel p = .ok u) : Extends [] t u := by
  induction fuel generalizing p u with
  | zero =>
      rw [createDirectoriesWith] at h
      by_cases hp : p = ""
      · rw [if_pos hp] at h
        cases h
        exact .refl t
      · rw [if_neg hp] at h
        exact extends_ensureDirectory h
  | succ fuel ih =>
      rw [createDirectoriesWith] at h
      by_cases hp : p = ""
      · rw [if_pos hp] at h
        cases h
        exact .refl t
      · rw [if_neg hp] at h
        cases hensured : t.ensureDirectory p with
        | ok v =>
            rw [hensured] at h
            cases h
            exact extends_ensureDirectory hensured
        | error e =>
            rw [hensured] at h
            cases e with
            | notFound =>
                dsimp only at h
                cases hparent : Path.parent? p with
                | none =>
                    rw [hparent] at h
                    cases h
                | some parent =>
                    rw [hparent] at h
                    dsimp only at h
                    cases habove : t.createDirectoriesWith fuel parent with
                    | error e =>
                        rw [habove] at h
                        cases h
                    | ok v =>
                        rw [habove] at h
                        exact (ih habove).trans (extends_ensureDirectory h)
            | _ => cases h

/-- **Making directories.** -/
theorem extends_createDirectories {p : String} (h : t.createDirectories p = .ok u) :
    Extends [] t u :=
  extends_createDirectoriesWith h

/-! ## Files -/

/-- **Writing a file.** -/
theorem extends_write {p : String} {content : List UInt8} (h : t.write p content = .ok u) :
    Extends [p] t u := by
  obtain ⟨place, old, hplace, hold, rfl⟩ := write_eq_ok h
  exact extends_put_regular hplace hold

/-- **Writing at the end of a file.** -/
theorem extends_append {p : String} {content : List UInt8} (h : t.append p content = .ok u) :
    Extends [p] t u := by
  unfold append at h
  cases hl : t.locateFile p with
  | error e =>
      rw [hl] at h
      cases h
  | ok found =>
      obtain ⟨place, old⟩ := found
      obtain ⟨hplace, hold⟩ := locateFile_eq_ok hl
      rw [hl] at h
      cases h
      exact extends_put_regular hplace (hold.imp_left And.left)

/-- **Saving settings.** -/
theorem extends_save {s : Settings} {p : String} (h : s.save t p = .ok u) :
    Extends [p] t u := by
  obtain ⟨ready, hready, hwrite⟩ := Settings.save_eq_ok h
  have hprepared : Extends [] t ready := by
    unfold Settings.prepare at hready
    split at hready
    · split at hready
      · cases hready
        exact .refl t
      · exact extends_createDirectories hready
    · cases hready
      exact .refl t
  exact hprepared.trans (extends_write hwrite)

end CountryLookup.FileTree
