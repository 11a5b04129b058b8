import Mathlib.Data.List.Perm.Subperm
import CountryLookup.Proofs.Files.Ways
import CountryLookup.Proofs.Logging.Losses

/-!
# How many logs are kept

A rotating log is to keep a bounded number of files. It does if its path names a directory: pruning
leaves one file less than allowed among those that count, every log of a day counts, and the log of
the day is the only file that is created after that. A path that is a single name lies in the
working directory, but the directory it names is the empty path, which leads nowhere. So nothing is
pruned there: the log is opened all the same, one line on the error stream tells of it, and the logs
of all days stay.

## Main results

* `Rotation.length_le_of_kept` — what pruning leaves among the files that count.
* `Logger.retention` — the files that opening a rotating log leaves, for both kinds of paths.
* `Logger.not_atMost_of_single_name` — a log that is to be the only one of its name, and is not.
-/

namespace CountryLookup

open Logging FileTree Text

namespace Logging.Rotation

variable {r : Rotation} {file name date : String}

/-- A name that a file of the log has on some day. -/
def IsLog (r : Rotation) (name : String) : Prop :=
  ∃ date, isDate date = true ∧ name = r.fileName date

/-- A directory holds at most so many logs: any that differ in their names are no more. -/
def AtMost (r : Rotation) (most : Nat) (place : Place) (files : FileTree) : Prop :=
  ∀ names : List String, names.Nodup →
    (∀ name ∈ names, r.IsLog name ∧ files.IsFile (place ++ [name])) → names.length ≤ most

/-! ## Names of logs -/

theorem toList_fileName (r : Rotation) (date : String) :
    ∃ front, (r.fileName date).toList = r.stem.toList ++ front ++ ['.', 'l', 'o', 'g'] ∧
      ∀ c ∈ front, c = '.' ∨ c ∈ date.toList := by
  unfold fileName
  by_cases hstem : r.stem = ""
  · refine ⟨date.toList, ?_, fun c hc => .inr hc⟩
    rw [if_pos hstem, hstem, String.toList_append]
    rfl
  · refine ⟨'.' :: date.toList, ?_, fun c hc => ?_⟩
    · simp [if_neg hstem, String.toList_append]
    · exact (List.mem_cons.1 hc).imp_right id

/-- The logs of all days count. -/
theorem counts_fileName (r : Rotation) (date : String) : r.counts (r.fileName date) = true := by
  obtain ⟨front, hname, -⟩ := r.toList_fileName date
  rw [counts, hname, Bool.and_eq_true, List.isPrefixOf_iff_prefix, List.isSuffixOf_iff_suffix]
  constructor
  · rw [List.append_assoc]
    exact List.prefix_append _ _
  · exact ⟨r.stem.toList ++ front ++ ['.'], by simp⟩

/-- The file of a day is a name that goes one down. -/
theorem isProper_fileName (r : Rotation) (date : String) : Path.IsProper (r.fileName date) := by
  obtain ⟨front, hname, -⟩ := r.toList_fileName date
  have hlong : 4 ≤ (r.fileName date).toList.length := by
    rw [hname, List.length_append]
    exact Nat.le_add_left 4 _
  have hne : ∀ s : String, s.toList.length < 4 → r.fileName date ≠ s := by
    rintro s hs rfl
    exact absurd hlong (Nat.not_le.2 hs)
  have hempty := hne "" (by decide)
  have hdot := hne "." (by decide)
  exact ⟨by simp [Path.isTelling, hempty, hdot], hne ".." (by decide)⟩

/-- Dropping endings leaves characters of the name. -/
theorem mem_of_mem_dropEndings {c : Char} {cs : List Char} (h : c ∈ dropEndings cs) : c ∈ cs := by
  fun_induction dropEndings cs with
  | case1 cs ih => simp [ih h]
  | case2 => exact h

theorem isDigit_or_dash {c : Char} (hdate : isDate date = true) (hc : c ∈ date.toList) :
    c.isDigit = true ∨ c = '-' := by
  unfold isDate at hdate
  split at hdate
  · next y₁ y₂ y₃ y₄ m₁ m₂ d₁ d₂ hchars =>
      by_cases hdash : c = '-'
      · exact .inr hdash
      · have hmem : c ∈ [y₁, y₂, y₃, y₄, m₁, m₂, d₁, d₂] := by
          simpa [hchars, hdash] using hc
        exact .inl (List.all_eq_true.1 hdate c hmem)
  · cases hdate

/-- There is no slash in the name of a log. -/
theorem slash_not_mem_fileName (hname : Path.fileName? file = some name)
    (hdate : isDate date = true) : '/' ∉ ((ofPath file).fileName date).toList := by
  have hstem : '/' ∉ (ofPath file).stem.toList := by
    intro h
    obtain ⟨ps, hparts, -⟩ := Path.parts_of_fileName? hname
    have hslash : '/' ∉ name.toList := Path.not_mem_of_mem_names
      (Path.mem_names_of_mem_parts (hparts ▸ List.mem_append_right ps List.mem_cons_self))
    simp only [ofPath, hname, Option.getD_some, String.toList_ofList, List.mem_reverse] at h
    exact hslash (List.mem_reverse.1 (mem_of_mem_dropEndings h))
  have hdigits : '/' ∉ date.toList := fun h => by
    rcases isDigit_or_dash hdate h with h | h <;> revert h <;> decide
  obtain ⟨front, hfile, hfront⟩ := (ofPath file).toList_fileName date
  rw [hfile, List.mem_append, List.mem_append]
  rintro ((h | h) | h)
  · exact hstem h
  · rcases hfront _ h with h | h
    · cases h
    · exact hdigits h
  · revert h
    decide

/-! ## Directories of logs -/

/-- The directory is the folder of the configured path, unless it is the empty path. -/
theorem directory_ofPath (hdir : Path.parent? file ≠ some "") :
    (ofPath file).directory = Path.folder file := by
  unfold ofPath Path.folder
  cases hparent : Path.parent? file with
  | none => rfl
  | some dir =>
      rw [hparent] at hdir
      split
      · next h => exact absurd h hdir
      · next h => cases h; rfl
      · next h => cases h

/-- The log of a day has its place in the folder of the configured path. -/
theorem leads_path (hname : Path.fileName? file = some name) (hdate : isDate date = true)
    (home : Place) :
    Path.leads home ((ofPath file).path date) =
      Path.leads home (Path.folder file) ++ [(ofPath file).fileName date] := by
  have hslash := slash_not_mem_fileName hname hdate
  have hproper := isProper_fileName (ofPath file) date
  by_cases hdir : Path.parent? file = some ""
  · have hempty : (ofPath file).directory = "" := by simp [ofPath, hdir]
    have hhome : Path.folder file = "." := by simp [Path.folder, hdir]
    rw [path, Path.child, if_pos hempty, hhome, Path.leads_dot]
    exact Path.leads_of_isProper hslash hproper home
  · have hfolder : (ofPath file).directory ≠ "" := directory_ofPath hdir ▸ Path.folder_ne_empty file
    rw [path, ← directory_ofPath hdir]
    exact Path.leads_child hfolder hslash hproper home

/-! ## What pruning leaves -/

variable {files : FileTree} {place : Place} {most : Nat}

theorem mem_counted {c : List UInt8} (hfile : files.get? (place ++ [name]) = some (.regular c))
    (hcounts : r.counts name = true) : name ∈ r.counted files place := by
  refine List.mem_filter.2 ⟨List.mem_map.2 ⟨(name, c), ?_, rfl⟩, hcounts⟩
  unfold FileTree.get? at hfile
  split at hfile
  · cases hfile
  · obtain ⟨⟨q, e⟩, hfound, he⟩ := Option.map_eq_some_iff.1 hfile
    obtain rfl : e = .regular c := he
    obtain rfl : q = place ++ [name] := by simpa using List.find?_some hfound
    refine List.mem_filterMap.2 ⟨_, List.mem_of_find?_eq_some hfound, ?_⟩
    simp

/-- **What pruning leaves among the files that count**: one less than allowed. -/
theorem length_le_of_kept (hmost : 1 ≤ most) (counted : List String) {names : List String}
    (hnodup : names.Nodup)
    (hkept : ∀ name ∈ names, name ∈ counted ∧ name ∉ surplus most counted) :
    names.length ≤ most - 1 := by
  have hrest : names ⊆ counted.drop (surplus most counted).length := by
    intro name hname
    obtain ⟨hcounted, hsurplus⟩ := hkept name hname
    have htake : surplus most counted = counted.take (surplus most counted).length := by
      unfold surplus
      split
      · rfl
      · rw [List.length_take, List.take_eq_take_iff]
        omega
    rw [htake] at hsurplus
    rw [← List.take_append_drop (surplus most counted).length counted] at hcounted
    exact (List.mem_append.1 hcounted).resolve_left hsurplus
  calc names.length ≤ (counted.drop (surplus most counted).length).length :=
        (List.subperm_of_subset hnodup hrest).length_le
    _ = counted.length - (surplus most counted).length := List.length_drop
    _ ≤ most - 1 := Nat.le_sub_one_of_lt (length_surplus counted hmost)

/-- The empty path names no directory, so nothing is pruned there. -/
theorem place?_of_empty (hdir : r.directory = "") (files : FileTree) :
    r.place? files = .error .notFound := by
  rw [place?, hdir]
  rfl

theorem place?_of_directory (hplace : files.locate r.directory = .ok place)
    (hget : files.get? place = some .directory) : r.place? files = .ok place := by
  rw [place?, hplace]
  dsimp only [bind, Except.bind]
  rw [hget]

/-- **A directory with what pruning leaves and the log of a day** holds at most so many logs. -/
theorem atMost_of_pruned {after : FileTree} (hmost : 1 ≤ most) (hfound : r.place? files = .ok place)
    (hafter : ∀ q, after.IsFile q ↔
      q = place ++ [r.fileName date] ∨ files.IsFile q ∧ q ∉ r.surplusPlaces most files) :
    r.AtMost most place after := by
  have hsurplus : r.surplusPlaces most files =
      (surplus most (r.counted files place)).map fun name => place ++ [name] := by
    rw [surplusPlaces, hfound]
  intro names hnodup hlogs
  -- the log of the day aside, all of them were there and have not been deleted
  have hold : (names.erase (r.fileName date)).length ≤ most - 1 := by
    refine length_le_of_kept hmost (r.counted files place) (hnodup.erase _) fun name hmem => ?_
    obtain ⟨hother, hmem⟩ := hnodup.mem_erase_iff.1 hmem
    obtain ⟨⟨day, -, rfl⟩, hthere⟩ := hlogs name hmem
    obtain heq | ⟨⟨c, hc⟩, hkept⟩ := (hafter _).1 hthere
    · exact absurd (List.singleton_inj.1 (List.append_cancel_left heq)) hother
    · rw [hsurplus] at hkept
      exact ⟨mem_counted hc (r.counts_fileName day), fun h => hkept (List.mem_map.2 ⟨_, h, rfl⟩)⟩
  have herase : names.length ≤ (names.erase (r.fileName date)).length + 1 := by
    rw [List.length_erase]
    split <;> omega
  omega

theorem home_prune (r : Rotation) (most : Nat) (files : FileTree) :
    (r.prune most files).1.home = files.home := by
  unfold prune
  cases r.place? files with
  | error e => rfl
  | ok place =>
      dsimp only [deleteAll]
      induction surplus most (r.counted files place) generalizing files with
      | nil => rfl
      | cons name names ih => exact (ih _).trans (home_erase files _)

end Logging.Rotation

/-! ## Opening a log -/

namespace Logging.Logger

variable {s : LoggingSettings} {file name date : String} {files : FileTree} {place : Place}
  {l : Logger}

theorem rotation?_of_file (hfile : s.file = some file) (hname : Path.fileName? file = some name)
    (hrotates : s.enableRotation = true) : s.rotation? = some (Rotation.ofPath file) := by
  have hne : file ≠ "" := by
    rintro rfl
    cases hname
  rw [LoggingSettings.rotation?, if_pos hrotates, hfile, Option.filter_some,
    if_pos (by simpa using hne)]
  rfl

/-- What opening a rotating log tells first, and where the log is written. -/
theorem ofSettings_of_rotation {r : Rotation} (hr : s.rotation? = some r)
    (hopened : (ofSettings s date files).result = .ok l) :
    l.sink = .file (r.path date) ∧
      (ofSettings s date files).told =
        (r.prune s.maxBackups.toNat files).2 ++ (Filter.parse s.level).2 := by
  unfold LoggingSettings.rotation? at hr
  split at hr
  · next hrotates =>
      obtain ⟨file, hfile, rfl⟩ := Option.map_eq_some_iff.1 hr
      unfold ofSettings openSink at hopened ⊢
      simp only [hfile, if_pos hrotates] at hopened ⊢
      cases hcreate : (Rotation.ofPath file).create date
          ((Rotation.ofPath file).prune s.maxBackups.toNat files).1 with
      | error e =>
          rw [hcreate] at hopened
          cases hopened
      | ok opened =>
          rw [hcreate] at hopened
          cases hopened
          exact ⟨rfl, rfl⟩
  · cases hr

/-- **The files that opening a rotating log leaves**: those that pruning does not delete, and the
log of the day. -/
theorem isFile_ofSettings_iff (hfile : s.file = some file)
    (hname : Path.fileName? file = some name) (hrotates : s.enableRotation = true)
    (hdate : isDate date = true) (hplace : files.locate (Path.folder file) = .ok place)
    (hopened : (ofSettings s date files).result = .ok l) (q : Place) :
    (ofSettings s date files).files.IsFile q ↔
      q = place ++ [(Rotation.ofPath file).fileName date] ∨
        files.IsFile q ∧ q ∉ (Rotation.ofPath file).surplusPlaces s.maxBackups.toNat files := by
  have hr := rotation?_of_file hfile hname hrotates
  have hsink := (ofSettings_of_rotation hr hopened).1
  have hextends := extends_ofSettings s date files
  rw [Opening.written, hopened, LoggingSettings.pruned, hr] at hextends
  dsimp only at hextends
  rw [hsink, Sink.paths] at hextends
  have hhome : (ofSettings s date files).files.home = files.home :=
    hextends.home.trans (Rotation.home_prune _ _ _)
  have hpath : ∀ q,
      (ofSettings s date files).files.locate ((Rotation.ofPath file).path date) = .ok q →
        q = place ++ [(Rotation.ofPath file).fileName date] := by
    intro q hq
    rw [eq_leads_of_locate hq, hhome, Rotation.leads_path hname hdate, eq_leads_of_locate hplace]
  obtain ⟨today, htoday, hwritten⟩ := hextends.ends _ List.mem_cons_self
  obtain rfl := hpath today htoday
  by_cases hq : q = place ++ [(Rotation.ofPath file).fileName date]
  · exact iff_of_true (hq ▸ hwritten) (.inl hq)
  · have hkept : ∀ c, _ := hextends.kept q fun p hp hlocate =>
      hq (hpath q (List.mem_singleton.1 hp ▸ hlocate))
    constructor
    · rintro ⟨c, hc⟩
      obtain ⟨hbefore, hsurplus⟩ := (Rotation.get?_prune_regular _ _ _ q c).1 ((hkept c).1 hc)
      exact .inr ⟨⟨c, hbefore⟩, hsurplus⟩
    · rintro (h | ⟨⟨c, hc⟩, hsurplus⟩)
      · exact absurd h hq
      · exact ⟨c, (hkept c).2 ((Rotation.get?_prune_regular _ _ _ q c).2 ⟨hc, hsurplus⟩)⟩

/-- **How many logs are kept.** In the directory that the path of a rotating log leads into, opening
the log leaves at most as many logs as are allowed, if the path names that directory. If the path is
a single name, it deletes no file: all logs are left, and the first line that is told says that the
directory could not be read. The log of the day is there in both cases. -/
theorem retention (hfile : s.file = some file) (hname : Path.fileName? file = some name)
    (hrotates : s.enableRotation = true) (hmost : 1 ≤ s.maxBackups.toNat)
    (hdate : isDate date = true) (hplace : files.locate (Path.folder file) = .ok place)
    (hdir : files.get? place = some .directory)
    (hopened : (ofSettings s date files).result = .ok l) :
    let r := Rotation.ofPath file
    let opening := ofSettings s date files
    Path.leads files.home file = place ++ [name] ∧
      opening.files.IsFile (place ++ [r.fileName date]) ∧
      (Path.parent? file ≠ some "" → r.AtMost s.maxBackups.toNat place opening.files) ∧
      (Path.parent? file = some "" →
        (∀ q, opening.files.IsFile q ↔ q = place ++ [r.fileName date] ∨ files.IsFile q) ∧
          opening.told.head? = some
            "Error reading the log directory/files: No such file or directory (os error 2)") := by
  intro r opening
  have hafter := isFile_ofSettings_iff hfile hname hrotates hdate hplace hopened
  have hlies : Path.leads files.home file = place ++ [name] := by
    rw [Path.leads_folder hname, eq_leads_of_locate hplace]
  refine ⟨hlies, (hafter _).2 (.inl rfl), fun hparent => ?_, fun hparent => ?_⟩
  · have hfound : r.place? files = .ok place :=
      Rotation.place?_of_directory (Rotation.directory_ofPath hparent ▸ hplace) hdir
    exact Rotation.atMost_of_pruned hmost hfound hafter
  · have hmissing : r.place? files = .error .notFound :=
      Rotation.place?_of_empty (by simp [r, Rotation.ofPath, hparent]) files
    constructor
    · intro q
      rw [hafter q, Rotation.surplusPlaces, hmissing]
      simp [r]
    · have htold := (ofSettings_of_rotation (rotation?_of_file hfile hname hrotates) hopened).2
      rw [show opening.told = _ from htold, Rotation.prune, hmissing]
      rfl

/-- A working directory with logs of three days, once in a directory of their own and once not. -/
def threeDays : FileTree :=
  ⟨["work"],
    [ (["work", "logs"], .directory),
      (["work", "logs", "app.2024-05-03.log"], .regular [97]),
      (["work", "logs", "app.2024-05-04.log"], .regular [98]),
      (["work", "logs", "app.2024-05-05.log"], .regular [99]),
      (["work", "app.2024-05-03.log"], .regular [97]),
      (["work", "app.2024-05-04.log"], .regular [98]),
      (["work", "app.2024-05-05.log"], .regular [99])]⟩

/-- A log in a directory of its own, and one whose path is a single name. -/
theorem retention_threeDays :
    let nested : LoggingSettings := { file := some "logs/app.log.log", maxBackups := 2 }
    let single : LoggingSettings := { file := some "app.log", maxBackups := 1 }
    let after s := (ofSettings s "2024-05-06" threeDays).files
    ((Rotation.ofPath "logs/app.log.log").AtMost 2 ["work", "logs"] (after nested) ∧
        (after nested).IsFile ["work", "logs", "app.2024-05-06.log"]) ∧
      (after single).IsFile ["work", "app.2024-05-03.log"] := by
  intro nested single after
  have hdate : isDate "2024-05-06" = true := by decide
  constructor
  · have hname : Path.fileName? "logs/app.log.log" = some "app.log.log" := rfl
    have hplace : threeDays.locate (Path.folder "logs/app.log.log") = .ok ["work", "logs"] := rfl
    have hopened : (ofSettings nested "2024-05-06" threeDays).result =
        .ok ⟨(Filter.parse "info").1, .words, .file "logs/app.2024-05-06.log"⟩ := rfl
    have hnested := retention (s := nested) rfl hname rfl (by decide) hdate hplace
      rfl hopened
    have htoday : (Rotation.ofPath "logs/app.log.log").fileName "2024-05-06" =
        "app.2024-05-06.log" := rfl
    refine ⟨hnested.2.2.1 (by decide), ?_⟩
    rw [← htoday]
    exact hnested.2.1
  · have hname : Path.fileName? "app.log" = some "app.log" := rfl
    have hplace : threeDays.locate (Path.folder "app.log") = .ok ["work"] := rfl
    have hopened : (ofSettings single "2024-05-06" threeDays).result =
        .ok ⟨(Filter.parse "info").1, .words, .file "app.2024-05-06.log"⟩ := rfl
    have hsingle := retention (s := single) rfl hname rfl (by decide) hdate hplace
      rfl hopened
    exact ((hsingle.2.2.2 rfl).1 _).2 (.inr ⟨[97], rfl⟩)

/-- **A log that is to be the only one of its name, and is not.** The logs of the days before are
left where the path is a single name. -/
theorem not_atMost_of_single_name :
    let s : LoggingSettings := { file := some "app.log", maxBackups := 1 }
    let opening := ofSettings s "2024-05-06" threeDays
    Path.fileName? "app.log" = some "app.log" ∧ s.enableRotation = true ∧
      opening.result.toOption.isSome = true ∧ threeDays.locate "." = .ok ["work"] ∧
      ¬ (Rotation.ofPath "app.log").AtMost s.maxBackups.toNat ["work"] opening.files := by
  intro s opening
  refine ⟨rfl, rfl, rfl, rfl, fun h => ?_⟩
  have hlogs := h ["app.2024-05-05.log", "app.2024-05-06.log"] (by decide) fun name hname => by
    rcases List.mem_cons.1 hname with rfl | hname
    · exact ⟨⟨"2024-05-05", by decide, rfl⟩, [99], rfl⟩
    · obtain rfl := List.mem_singleton.1 hname
      exact ⟨⟨"2024-05-06", by decide, rfl⟩, [], rfl⟩
  exact absurd hlogs (by decide)

end Logging.Logger

end CountryLookup
