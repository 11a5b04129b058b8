import CountryLookup.Files.Tree

/-!
# Writing and reading files

A file that could be written can be read. The place that a path leads to is the same before and
after, since writing changes nothing on the way to it, and what stands there after is what was
written.

## Main results

* `write_eq_ok` — where writing succeeds, and what it changes.
* `read_write` — what was written is read.
* `walk_of_locate` — a path that leads somewhere is followed by its names in every tree.
-/

namespace CountryLookup.FileTree

/-- No directory that leads to the working directory can be written to. -/
theorem not_prefix_of_get? {t : FileTree} {p : Place} (h : t.get? p ≠ some .directory) :
    p.isPrefixOf t.home = false := by
  rw [Bool.eq_false_iff]
  intro hp
  apply h
  rw [get?, if_pos hp]

/-- The old content of an entry that is to be written to: that of a file, and nothing if there is
none. -/
def Holds (e : Option Entry) (old : List UInt8) : Prop :=
  (e = none ∧ old = []) ∨ e = some (.regular old)

/-- What stands at a place where a file can be written. -/
theorem locateFile_eq_ok {t : FileTree} {p : String} {place : Place} {old : List UInt8}
    (h : t.locateFile p = .ok (place, old)) :
    t.locate p = .ok place ∧ Holds (t.get? place) old := by
  unfold locateFile at h
  dsimp only [bind, Except.bind] at h
  generalize hq : (if Path.withoutEndSlashes p = "" then p else Path.withoutEndSlashes p) = q at h
  cases hl : t.locate q with
  | error e =>
      rw [hl] at h
      cases h
  | ok place' =>
      rw [hl] at h
      dsimp only at h
      cases hg : t.get? place' with
      | none =>
          rw [hg] at h
          dsimp only at h
          split at h
          · next e =>
              cases h
              rw [← e]
              exact ⟨hl, .inl ⟨hg, rfl⟩⟩
          · cases h
      | some entry =>
          rw [hg] at h
          cases entry with
          | directory => cases h
          | regular content =>
              dsimp only at h
              split at h
              · next e =>
                  cases h
                  rw [← e]
                  exact ⟨hl, .inr hg⟩
              · cases h

/-- **Where writing succeeds, and what it changes.** -/
theorem write_eq_ok {t after : FileTree} {p : String} {content : List UInt8}
    (h : t.write p content = .ok after) :
    ∃ place old, t.locate p = .ok place ∧
      (t.get? place = none ∨ t.get? place = some (.regular old)) ∧
      after = t.put place (.regular content) := by
  unfold write at h
  cases hl : t.locateFile p with
  | error e =>
      rw [hl] at h
      cases h
  | ok found =>
      obtain ⟨place, old⟩ := found
      rw [hl] at h
      obtain ⟨hloc, hget⟩ := locateFile_eq_ok hl
      cases h
      exact ⟨place, old, hloc, hget.imp_left And.left, rfl⟩

/-- A path is refused for what it is, or followed name by name: if it leads somewhere in one tree,
then in every tree it leads where its names do. -/
theorem walk_of_locate {t : FileTree} {p : String} {place : Place} (h : t.locate p = .ok place) :
    t.walk (if Path.isAbsolute p then [] else t.home) (Path.names p) = .ok place ∧
      ∀ u : FileTree,
        u.locate p = u.walk (if Path.isAbsolute p then [] else u.home) (Path.names p) := by
  unfold locate at h ⊢
  by_cases hz : p.toList.contains '\x00' = true
  · rw [if_pos hz] at h
    cases h
  by_cases he : p = ""
  · rw [if_neg hz, if_pos he] at h
    cases h
  by_cases hl : 4096 ≤ p.utf8ByteSize
  · rw [if_neg hz, if_neg he, if_pos hl] at h
    cases h
  rw [if_neg hz, if_neg he, if_neg hl] at h
  refine ⟨h, fun u => ?_⟩
  rw [if_neg hz, if_neg he, if_neg hl]

/-- Writing at the end of a path changes no way that leads there. -/
theorem locate_put_regular {t : FileTree} {p : String} {place : Place} {old content : List UInt8}
    (h : t.locate p = .ok place)
    (hp : t.get? place = none ∨ t.get? place = some (.regular old)) :
    (t.put place (.regular content)).locate p = .ok place := by
  obtain ⟨hwalk, hfollows⟩ := walk_of_locate h
  rw [hfollows]
  exact walk_put_regular _ old content hwalk hp

theorem get?_put_self {t : FileTree} {place : Place} {old content : List UInt8}
    (hp : t.get? place = none ∨ t.get? place = some (.regular old)) :
    (t.put place (.regular content)).get? place = some (.regular content) := by
  have hne : t.get? place ≠ some .directory := by
    intro hd
    rcases hp with h | h
    · rw [h] at hd
      cases hd
    · rw [h] at hd
      cases hd
  rw [get?_put, if_pos ⟨rfl, not_prefix_of_get? hne⟩]

theorem stat_write {t after : FileTree} {p : String} {content : List UInt8}
    (h : t.write p content = .ok after) : after.stat p = .ok (.regular content) := by
  obtain ⟨place, old, hloc, hget, rfl⟩ := write_eq_ok h
  simp only [stat, locate_put_regular hloc hget, bind, Except.bind, get?_put_self hget]

/-- **What was written is read.** -/
theorem read_write {t after : FileTree} {p : String} {content : List UInt8}
    (h : t.write p content = .ok after) : after.read p = .ok content := by
  simp only [read, stat_write h, bind, Except.bind]

/-- A path leads to what was written there. -/
theorem holds_write {t after : FileTree} {p : String} {content : List UInt8}
    (h : t.write p content = .ok after) : after.holds p = true := by
  rw [holds, stat_write h]

end CountryLookup.FileTree
