import CountryLookup.Selector

/-!
# What a choice of the local database is determined by

The external file counts if it is a regular file that opens, the embedded database if it is there
and opens. The two conditions are said here about the bytes alone, and the choice is then one of
three: the external database, else the embedded one, else the failure to have any.

## Main results

* `choose_cases` — the three outcomes of a choice, and that the external file spares the load.
* `OpensExternal.unique`, `OpensEmbedded.unique` — the bytes determine the database.
-/

namespace CountryLookup.Selector

/-- The external file opens, and as this database. -/
def OpensExternal (s : Selector) (file : Option Entry) (db : LocalDatabase) : Prop :=
  ∃ content, file = some (.regular content) ∧
    LocalDatabase.ofBytes (.external s.path) content.toArray = .ok db

/-- The embedded database is there and opens, and as this database. -/
def OpensEmbedded (s : Selector) (db : LocalDatabase) : Prop :=
  ∃ bytes, s.embedded = some bytes ∧ LocalDatabase.ofBytes .embedded bytes = .ok db

theorem source_of_ofBytes {source : DatabaseSource} {file : Database.Bytes} {db : LocalDatabase}
    (h : LocalDatabase.ofBytes source file = .ok db) : db.source = source := by
  unfold LocalDatabase.ofBytes at h
  split at h
  · cases h
  · rename_i start hstart
    cases hm : Database.Metadata.read (file.extract start file.size) with
    | error e => rw [hm] at h; cases h
    | ok m =>
        rw [hm] at h
        simp only [bind, Except.bind] at h
        split at h
        · rw [← Except.ok.inj h]
        · cases h

theorem tryExternal_eq_some_iff (s : Selector) {file : Option Entry} {db : LocalDatabase} :
    (s.tryExternal file).1 = some db ↔ s.OpensExternal file db := by
  unfold tryExternal OpensExternal
  match file with
  | none => simp
  | some .directory => simp
  | some (.regular content) =>
      cases ho : LocalDatabase.ofBytes (.external s.path) content.toArray <;> simp [ho]

theorem openEmbedded_eq_ok_iff (s : Selector) {db : LocalDatabase} :
    s.openEmbedded.1 = .ok db ↔ s.OpensEmbedded db := by
  unfold openEmbedded OpensEmbedded
  cases hb : s.embedded with
  | none => simp
  | some bytes =>
      cases ho : LocalDatabase.ofBytes .embedded bytes <;> simp [ho]

/-- A failure to open the embedded database is the failure to have any. -/
theorem kind_of_openEmbedded_error (s : Selector) {e : LookupError}
    (h : s.openEmbedded.1 = .error e) : e.kind = .databaseInitFailed := by
  unfold openEmbedded at h
  split at h
  · rw [← Except.error.inj h]
  · split at h
    · cases h
    · rw [← Except.error.inj h]

theorem choose_of_external (s : Selector) {file : Option Entry} {db : LocalDatabase} {e : Event}
    (h : s.tryExternal file = (some db, e)) : s.choose file = (.ok db, false, [e]) := by
  rw [choose, h]

theorem choose_of_no_external (s : Selector) {file : Option Entry} {e : Event}
    (h : s.tryExternal file = (none, e)) :
    s.choose file = (s.openEmbedded.1, true, [e, s.openEmbedded.2]) := by
  rw [choose, h]

/-- **The three outcomes of a choice.** The external file if it opens, else the embedded database
if it opens, else the failure to have any. -/
theorem choose_cases (s : Selector) (file : Option Entry) :
    (∃ db, s.OpensExternal file db ∧ (s.choose file).1 = .ok db ∧ (s.choose file).2.1 = false) ∨
    (∃ db, (∀ d, ¬ s.OpensExternal file d) ∧ s.OpensEmbedded db ∧ (s.choose file).1 = .ok db) ∨
    (∃ m, (∀ d, ¬ s.OpensExternal file d) ∧ (∀ d, ¬ s.OpensEmbedded d) ∧
      (s.choose file).1 = .error ⟨.databaseInitFailed, m⟩) := by
  rcases he : s.tryExternal file with ⟨db?, e⟩
  cases db? with
  | some db =>
      refine .inl ⟨db, s.tryExternal_eq_some_iff.1 (by rw [he]), ?_, ?_⟩
      · rw [s.choose_of_external he]
      · rw [s.choose_of_external he]
  | none =>
      have hno : ∀ d, ¬ s.OpensExternal file d := by
        intro d hd
        have hd' := s.tryExternal_eq_some_iff.2 hd
        rw [he] at hd'
        cases hd'
      have hc : (s.choose file).1 = s.openEmbedded.1 := by rw [s.choose_of_no_external he]
      cases ho : s.openEmbedded.1 with
      | ok db => exact .inr (.inl ⟨db, hno, s.openEmbedded_eq_ok_iff.1 ho, hc.trans ho⟩)
      | error err =>
          obtain ⟨kind, m⟩ := err
          have hk : kind = .databaseInitFailed := s.kind_of_openEmbedded_error ho
          subst hk
          refine .inr (.inr ⟨m, hno, ?_, hc.trans ho⟩)
          intro d hd
          rw [s.openEmbedded_eq_ok_iff.2 hd] at ho
          cases ho

theorem OpensExternal.source {s : Selector} {file : Option Entry} {db : LocalDatabase}
    (h : s.OpensExternal file db) : db.source = .external s.path := by
  obtain ⟨content, -, ho⟩ := h
  exact source_of_ofBytes ho

theorem OpensEmbedded.source {s : Selector} {db : LocalDatabase} (h : s.OpensEmbedded db) :
    db.source = .embedded := by
  obtain ⟨bytes, -, ho⟩ := h
  exact source_of_ofBytes ho

theorem OpensExternal.unique {s : Selector} {file : Option Entry} {d d' : LocalDatabase}
    (h : s.OpensExternal file d) (h' : s.OpensExternal file d') : d = d' :=
  Option.some.inj ((s.tryExternal_eq_some_iff.2 h).symm.trans (s.tryExternal_eq_some_iff.2 h'))

theorem OpensEmbedded.unique {s : Selector} {d d' : LocalDatabase} (h : s.OpensEmbedded d)
    (h' : s.OpensEmbedded d') : d = d' :=
  Except.ok.inj ((s.openEmbedded_eq_ok_iff.2 h).symm.trans (s.openEmbedded_eq_ok_iff.2 h'))

end CountryLookup.Selector
