import CountryLookup.Proofs.Files.Outline
import CountryLookup.Proofs.Logging.Times
import CountryLookup.Proofs.Text.Utf8
import CountryLookup.Run.Paths

/-!
# What two runs make of their files

Two runs start from trees of one outline, open the same log and write the same to it up to time.
What they hold in their files may differ, but they do the same to them. At each place both leave
what was there, or remove it, or make a directory, or write a new file, or write at the end of the
file that was there; and what they write is the same up to time. So the log tells them apart only if
its old content does.

## Main results

* `SameFates.append` — writing at the end of a file.
* `SameFates.save` — saving settings.
* `SameFates.ofSettings` — opening a log.
* `SameFates.writeLog` — what a run writes to its log.
-/

namespace CountryLookup

open Logging Text

/-! ## Results of two runs -/

/-- The same failure twice, or two results that are related. -/
inductive Both {ε α β : Type} (R : α → β → Prop) : Except ε α → Except ε β → Prop
  | error (e : ε) : Both R (.error e) (.error e)
  | ok {a : α} {b : β} (h : R a b) : Both R (.ok a) (.ok b)

namespace Both

variable {ε α β : Type} {R : α → β → Prop} {x : Except ε α} {y : Except ε β}

/-- What two related results are. -/
theorem elim (h : Both R x y) :
    (∃ e, x = .error e ∧ y = .error e) ∨ ∃ a b, x = .ok a ∧ y = .ok b ∧ R a b := by
  cases h with
  | error e => exact .inl ⟨e, rfl, rfl⟩
  | ok h => exact .inr ⟨_, _, rfl, rfl, h⟩

theorem mapError {ε' : Type} (h : Both R x y) (f : ε → ε') :
    Both R (x.mapError f) (y.mapError f) := by
  cases h with
  | error e => exact .error (f e)
  | ok h => exact .ok h

/-- Results with one image are related by having it. -/
theorem of_map_eq {γ : Type} {f : α → γ} {g : β → γ} (h : x.map f = y.map g) :
    Both (fun a b => f a = g b) x y := by
  cases x with
  | error e =>
      cases y with
      | error e' =>
          cases h
          exact .error e
      | ok b => cases h
  | ok a =>
      cases y with
      | error e' => cases h
      | ok b => exact .ok (Except.ok.inj h)

end Both

/-! ## Places -/

/-- What became of a place in two runs, in which it first was `was` and `was'`: nothing; it was
removed; a directory was made; a file was written; or something was written at the end of the file
that it was. -/
inductive SameFate (clock clock' : Nat → Instant) (was was' : Option Entry) :
    Option Entry → Option Entry → Prop
  | kept : SameFate clock clock' was was' was was'
  | gone : SameFate clock clock' was was' none none
  | directory : SameFate clock clock' was was' (some .directory) (some .directory)
  | written {a a' : String} (h : SameUpToTime clock clock' a a') :
      SameFate clock clock' was was' (some (.regular (Utf8.encode a)))
        (some (.regular (Utf8.encode a')))
  | extended {c c' : List UInt8} {a a' : String} (hc : was = some (.regular c))
      (hc' : was' = some (.regular c')) (h : SameUpToTime clock clock' a a') :
      SameFate clock clock' was was' (some (.regular (c ++ Utf8.encode a)))
        (some (.regular (c' ++ Utf8.encode a')))

variable {clock clock' : Nat → Instant}

/-- With one clock, what was the same is the same. -/
theorem SameFate.eq {was e e' : Option Entry} (h : SameFate clock clock was was e e') : e = e' := by
  cases h with
  | kept => rfl
  | gone => rfl
  | directory => rfl
  | written ha => rw [ha.eq]
  | extended hc hc' ha =>
      cases hc.symm.trans hc'
      rw [ha.eq]

/-- Writing at the end of a file, which is made if need be. -/
theorem SameFate.append {was was' e e' : Option Entry} (h : SameFate clock clock' was was' e e')
    (he : e = none ↔ e' = none) {old old' : List UInt8} (ho : FileTree.Holds e old)
    (ho' : FileTree.Holds e' old') {a a' : String} (ha : SameUpToTime clock clock' a a') :
    SameFate clock clock' was was' (some (.regular (old ++ Utf8.encode a)))
      (some (.regular (old' ++ Utf8.encode a'))) := by
  rcases ho with ⟨hn, rfl⟩ | hr
  · rcases ho' with ⟨-, rfl⟩ | hr'
    · exact .written ha
    · rw [he.1 hn] at hr'
      cases hr'
  · rcases ho' with ⟨hn', -⟩ | hr'
    · rw [he.2 hn'] at hr
      cases hr
    · subst hr hr'
      cases h with
      | kept => exact .extended rfl rfl ha
      | written hb =>
          rw [← Utf8.encode_append, ← Utf8.encode_append]
          exact .written (hb.append ha)
      | extended hc hc' hb =>
          rw [List.append_assoc, List.append_assoc, ← Utf8.encode_append, ← Utf8.encode_append]
          exact .extended hc hc' (hb.append ha)

/-! ## Trees -/

/-- **The invariant.** Two runs that started from `t` and `t'` have come to trees of one outline,
and every place had the same fate in both. -/
structure SameFates (clock clock' : Nat → Instant) (t t' u u' : FileTree) : Prop where
  outline : u.outline = u'.outline
  place : ∀ p, SameFate clock clock' (t.get? p) (t'.get? p) (u.get? p) (u'.get? p)

namespace SameFates

theorem start {t t' : FileTree} (h : t.outline = t'.outline) : SameFates clock clock' t t' t t' :=
  ⟨h, fun _ => .kept⟩

variable {t t' u u' : FileTree} (h : SameFates clock clock' t t' u u')
include h

theorem home : u.home = u'.home := FileTree.home_eq_of_outline h.outline

theorem isNone (p : Place) : u.get? p = none ↔ u'.get? p = none := by
  rcases FileTree.get?_cases_of_outline h.outline p with
    ⟨hu, hu'⟩ | ⟨hu, hu'⟩ | ⟨c, c', hu, hu'⟩
  all_goals simp [hu, hu']

theorem erase (p : Place) : SameFates clock clock' t t' (u.erase p) (u'.erase p) := by
  constructor
  · rw [FileTree.outline_erase, FileTree.outline_erase, h.outline]
  · intro q
    rw [FileTree.get?_erase, FileTree.get?_erase, h.home]
    split
    · exact .gone
    · exact h.place q

theorem put {p : Place} {e e' : Entry} (he : e.outline = e'.outline)
    (hf : SameFate clock clock' (t.get? p) (t'.get? p) (some e) (some e')) :
    SameFates clock clock' t t' (u.put p e) (u'.put p e') := by
  constructor
  · rw [FileTree.outline_put, FileTree.outline_put, h.outline, he]
  · intro q
    rw [FileTree.get?_put, FileTree.get?_put, h.home]
    split
    · next hq => exact hq.1 ▸ hf
    · exact h.place q

/-! ## Files and directories -/

/-- A file is found at the same place, or for the same reason not. -/
theorem locateFile (p : String) :
    Both (fun f f' => f.1 = f'.1) (u.locateFile p) (u'.locateFile p) := by
  have hfound : (u.locateFile p).map (fun f => (f.1, ([] : List UInt8))) =
      (u'.locateFile p).map fun f => (f.1, []) := by
    rw [← FileTree.locateFile_outline, h.outline, FileTree.locateFile_outline]
  rcases (Both.of_map_eq hfound).elim with ⟨e, hu, hu'⟩ | ⟨f, f', hu, hu', hf⟩
  · rw [hu, hu']
    exact .error e
  · rw [hu, hu']
    exact .ok (Prod.mk.inj hf).1

/-- **Writing at the end of a file.** -/
theorem append (p : String) {a a' : String} (ha : SameUpToTime clock clock' a a') :
    Both (SameFates clock clock' t t') (u.append p (Utf8.encode a))
      (u'.append p (Utf8.encode a')) := by
  rw [FileTree.append, FileTree.append]
  rcases (h.locateFile p).elim with ⟨e, hu, hu'⟩ | ⟨⟨place, old⟩, ⟨_, old'⟩, hu, hu', rfl⟩
  · rw [hu, hu']
    exact .error e
  · have hold := (FileTree.locateFile_eq_ok hu).2
    have hold' := (FileTree.locateFile_eq_ok hu').2
    rw [hu, hu']
    exact .ok (h.put rfl ((h.place place).append (h.isNone place) hold hold' ha))

/-- Creating a file that may exist already. -/
theorem touch (p : String) :
    Both (SameFates clock clock' t t') (u.append p []) (u'.append p []) := by
  have hnothing := h.append p (SameUpToTime.text "")
  rwa [show Utf8.encode "" = [] from rfl] at hnothing

/-- Writing a file. -/
theorem write (p : String) {a a' : String} (ha : SameUpToTime clock clock' a a') :
    Both (SameFates clock clock' t t') (u.write p (Utf8.encode a))
      (u'.write p (Utf8.encode a')) := by
  rw [FileTree.write, FileTree.write]
  rcases (h.locateFile p).elim with ⟨e, hu, hu'⟩ | ⟨⟨place, old⟩, ⟨_, old'⟩, hu, hu', rfl⟩
  · rw [hu, hu']
    exact .error e
  · rw [hu, hu']
    exact .ok (h.put rfl (.written ha))

theorem createDirectory (p : String) :
    Both (SameFates clock clock' t t') (u.createDirectory p) (u'.createDirectory p) := by
  unfold FileTree.createDirectory
  generalize (if Path.withoutEndSlashes p = "" then p else Path.withoutEndSlashes p) = q
  dsimp only
  rw [FileTree.locate_eq_of_outline h.outline q]
  cases u'.locate q with
  | error e => exact .error e
  | ok place =>
      dsimp only [bind, Except.bind]
      rcases FileTree.get?_cases_of_outline h.outline place with
        ⟨hu, hu'⟩ | ⟨hu, hu'⟩ | ⟨c, c', hu, hu'⟩
      all_goals rw [hu, hu']
      · exact .ok (h.put rfl .directory)
      · exact .error _
      · exact .error _

theorem ensureDirectory (p : String) :
    Both (SameFates clock clock' t t') (u.ensureDirectory p) (u'.ensureDirectory p) := by
  unfold FileTree.ensureDirectory
  rcases (h.createDirectory p).elim with ⟨e, hu, hu'⟩ | ⟨v, v', hu, hu', hv⟩
  · rw [hu, hu']
    dsimp only
    rw [FileTree.isDirectory_eq_of_outline h.outline p]
    split
    · exact .ok h
    · exact .error e
  · rw [hu, hu']
    exact .ok hv

theorem createDirectoriesWith (fuel : Nat) (p : String) :
    Both (SameFates clock clock' t t') (u.createDirectoriesWith fuel p)
      (u'.createDirectoriesWith fuel p) := by
  induction fuel generalizing p with
  | zero =>
      unfold FileTree.createDirectoriesWith
      by_cases hp : p = ""
      · rw [if_pos hp, if_pos hp]
        exact .ok h
      · rw [if_neg hp, if_neg hp]
        exact h.ensureDirectory p
  | succ fuel ih =>
      unfold FileTree.createDirectoriesWith
      by_cases hp : p = ""
      · rw [if_pos hp, if_pos hp]
        exact .ok h
      · rw [if_neg hp, if_neg hp]
        rcases (h.ensureDirectory p).elim with ⟨e, hu, hu'⟩ | ⟨v, v', hu, hu', hv⟩
        · rw [hu, hu']
          cases e with
          | notFound =>
              dsimp only
              cases Path.parent? p with
              | none => exact .error FileError.notFound
              | some parent =>
                  dsimp only
                  rcases (ih parent).elim with ⟨e, hw, hw'⟩ | ⟨w, w', hw, hw', hfates⟩
                  · rw [hw, hw']
                    exact .error e
                  · rw [hw, hw']
                    exact hfates.ensureDirectory p
          | _ => exact .error _
        · rw [hu, hu']
          exact .ok hv

theorem createDirectories (p : String) :
    Both (SameFates clock clock' t t') (u.createDirectories p) (u'.createDirectories p) :=
  h.createDirectoriesWith p.length p

/-- **Saving settings.** -/
theorem save (s : Settings) (p : String) :
    Both (SameFates clock clock' t t') (s.save u p) (s.save u' p) := by
  have hprepare : Both (SameFates clock clock' t t') (Settings.prepare u p)
      (Settings.prepare u' p) := by
    unfold Settings.prepare
    cases Path.parent? p with
    | none => exact .ok h
    | some parent =>
        dsimp only
        rw [FileTree.holds_eq_of_outline h.outline parent]
        split
        · exact .ok h
        · exact h.createDirectories parent
  rw [Settings.save, Settings.save]
  rcases hprepare.elim with ⟨e, hu, hu'⟩ | ⟨v, v', hu, hu', hv⟩
  · rw [hu, hu']
    dsimp only [bind, Except.bind]
    exact .error e
  · rw [hu, hu']
    dsimp only [bind, Except.bind]
    exact hv.write p (.text s.render)

/-! ## Opening a log -/

theorem deleteAll (place : Place) (names : List String) :
    SameFates clock clock' t t' (Rotation.deleteAll place names u)
      (Rotation.deleteAll place names u') := by
  induction names generalizing u u' with
  | nil => exact h
  | cons name names ih => exact ih (h.erase (place ++ [name]))

/-- The surplus of old files is the same. -/
theorem prune (r : Rotation) (most : Nat) :
    SameFates clock clock' t t' (r.prune most u).1 (r.prune most u').1 ∧
      (r.prune most u).2 = (r.prune most u').2 := by
  have hplace : r.place? u = r.place? u' := by
    rw [Rotation.place?, Rotation.place?, FileTree.locate_eq_of_outline h.outline r.directory]
    cases u'.locate r.directory with
    | error e => rfl
    | ok place =>
        dsimp only [bind, Except.bind]
        rcases FileTree.get?_cases_of_outline h.outline place with
          ⟨hu, hu'⟩ | ⟨hu, hu'⟩ | ⟨c, c', hu, hu'⟩
        all_goals rw [hu, hu']
  have hcounted : ∀ place, r.counted u place = r.counted u' place := by
    intro place
    rw [Rotation.counted, Rotation.counted, ← FileTree.names_filesIn_outline, h.outline,
      FileTree.names_filesIn_outline]
  rw [Rotation.prune, Rotation.prune, hplace]
  cases r.place? u' with
  | error e => exact ⟨h, rfl⟩
  | ok place =>
      dsimp only
      rw [hcounted]
      exact ⟨h.deleteAll place _, rfl⟩

/-- Creating the file of a day. -/
theorem create (r : Rotation) (date : String) :
    Both (SameFates clock clock' t t') (r.create date u) (r.create date u') := by
  unfold Rotation.create
  rcases (h.touch (r.path date)).elim with ⟨e, hu, hu'⟩ | ⟨v, v', hu, hu', hv⟩
  · rw [hu, hu']
    dsimp only
    rcases (h.createDirectories ((Path.parent? (r.path date)).getD "")).elim with
      ⟨e, hw, hw'⟩ | ⟨w, w', hw, hw', hfates⟩
    · rw [hw, hw']
      exact .error _
    · rw [hw, hw']
      exact (hfates.touch (r.path date)).mapError _
  · rw [hu, hu']
    exact .ok hv

/-- Opening the sink of a log tells the same and gives the same. The date is asked for a rotating
log only. -/
theorem openSink (s : LoggingSettings) {date date' : String}
    (hdate : s.rotation?.isSome → date = date') :
    (Logger.openSink s date u).told = (Logger.openSink s date' u').told ∧
      (Logger.openSink s date u).result = (Logger.openSink s date' u').result ∧
      SameFates clock clock' t t' (Logger.openSink s date u).files
        (Logger.openSink s date' u').files := by
  unfold Logger.openSink
  cases hfile : s.file.filter (· ≠ "") with
  | none => exact ⟨rfl, rfl, h⟩
  | some file =>
      dsimp only
      by_cases hr : s.enableRotation = true
      · have hsome : s.rotation?.isSome = true := by
          rw [LoggingSettings.rotation?, if_pos hr, hfile]
          rfl
        obtain rfl := hdate hsome
        obtain ⟨hfates, htold⟩ := h.prune (Rotation.ofPath file) s.maxBackups.toNat
        rw [if_pos hr, if_pos hr, htold]
        rcases (hfates.create (Rotation.ofPath file) date).elim with
          ⟨e, hu, hu'⟩ | ⟨v, v', hu, hu', hv⟩
        · rw [hu, hu']
          exact ⟨rfl, rfl, hfates⟩
        · rw [hu, hu']
          exact ⟨rfl, rfl, hv⟩
      · rw [if_neg hr, if_neg hr]
        rcases (h.touch file).elim with ⟨e, hu, hu'⟩ | ⟨v, v', hu, hu', hv⟩
        · rw [hu, hu']
          exact ⟨rfl, rfl, h⟩
        · rw [hu, hu']
          exact ⟨rfl, rfl, hv⟩

/-- **Opening a log** tells the same, gives the same logger or the same failure, and does the same
to the files. -/
theorem ofSettings (s : LoggingSettings) {date date' : String}
    (hdate : s.rotation?.isSome → date = date') :
    (Logger.ofSettings s date u).told = (Logger.ofSettings s date' u').told ∧
      (Logger.ofSettings s date u).result = (Logger.ofSettings s date' u').result ∧
      SameFates clock clock' t t' (Logger.ofSettings s date u).files
        (Logger.ofSettings s date' u').files := by
  obtain ⟨htold, hresult, hfates⟩ := h.openSink s hdate
  rw [Logger.ofSettings, Logger.ofSettings, htold, hresult]
  cases (Logger.openSink s date' u').result with
  | error causes => exact ⟨rfl, rfl, hfates⟩
  | ok sink => exact ⟨rfl, rfl, hfates⟩

/-- **What a run writes to its log.** -/
theorem writeLog (l : Logger) {log log' : String} (hlog : SameUpToTime clock clock' log log') :
    SameFates clock clock' t t' (writeLog l log u) (writeLog l log' u') := by
  rw [CountryLookup.writeLog, CountryLookup.writeLog]
  cases l.sink with
  | errorStream => exact h
  | file path =>
      dsimp only
      by_cases hempty : log = ""
      · rw [if_pos hempty, if_pos (hlog.eq_empty_iff.1 hempty)]
        exact h
      · rw [if_neg hempty, if_neg fun e => hempty (hlog.eq_empty_iff.2 e)]
        rcases (h.append path hlog).elim with ⟨e, hu, hu'⟩ | ⟨v, v', hu, hu', hv⟩
        · rw [hu, hu']
          exact h
        · rw [hu, hu']
          exact hv

end SameFates

end CountryLookup
