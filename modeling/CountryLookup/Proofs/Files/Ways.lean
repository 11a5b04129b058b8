import CountryLookup.Proofs.Files

/-!
# Where a path leads

Whether a path can be followed depends on the directories of a tree. Where it leads, if it can, does
not: each name that says something goes one down, two dots go one up, and nothing else is asked. So
two trees with one working directory never disagree on the place of a path, and a name in a
directory has its place right below that of the directory.

## Main results

* `eq_leads_of_locate` — a path that can be followed leads where its names say.
* `leads_child` — a name in a directory.
* `leads_folder` — a file and the directory that its path names.
-/

namespace CountryLookup

namespace Path

open Text

/-- A name that goes one down: it says something and is not two dots. -/
def IsProper (name : String) : Prop := isTelling name = true ∧ name ≠ ".."

/-- Where a name leads from a place. -/
def step (here : Place) (name : String) : Place :=
  if !isTelling name then here else if name = ".." then here.dropLast else here ++ [name]

/-- Where a path leads from a working directory. -/
def leads (home : Place) (p : String) : Place :=
  (names p).foldl step (if isAbsolute p then [] else home)

theorem step_of_isProper {name : String} (h : IsProper name) (here : Place) :
    step here name = here ++ [name] := by
  rw [step, h.1, if_neg (by decide), if_neg h.2]

/-- What stands between two slashes is one name. -/
theorem names_of_not_mem {name : String} (h : '/' ∉ name.toList) : names name = [name] := by
  rw [names, fields_of_not_mem h, List.map_singleton, String.ofList_toList]

theorem not_mem_of_mem_names {p name : String} (h : name ∈ names p) : '/' ∉ name.toList := by
  obtain ⟨f, hf, rfl⟩ := List.mem_map.1 h
  rw [String.toList_ofList]
  exact not_mem_of_mem_fields hf

theorem names_slash (a b : String) : names (a ++ "/" ++ b) = names a ++ names b := by
  have hchars : (a ++ "/" ++ b).toList = a.toList ++ '/' :: b.toList := by
    simp [String.toList_append]
  rw [names, hchars, fields_append, List.map_append, ← names, ← names]

/-- The names of a path in a directory. -/
theorem names_child {dir name : String} (hdir : dir ≠ "") (hname : '/' ∉ name.toList) :
    names (child dir name) = names dir ++ [name] := by
  rw [child, if_neg hdir, names_slash, names_of_not_mem hname]

/-- Names between slashes are read back. -/
theorem names_intercalate {ps : List String} (hne : ps ≠ [])
    (hps : ∀ name ∈ ps, '/' ∉ name.toList) : names (String.intercalate "/" ps) = ps := by
  induction ps with
  | nil => exact absurd rfl hne
  | cons p ps ih =>
      have hp : names p = [p] := names_of_not_mem (hps p List.mem_cons_self)
      cases ps with
      | nil => rw [String.intercalate_singleton, hp]
      | cons q qs =>
          have hrest := ih (List.cons_ne_nil q qs) fun name hname =>
            hps name (List.mem_cons_of_mem p hname)
          rw [String.intercalate_cons_cons, names_slash, hp, hrest, List.singleton_append]

/-- A path starts at the root just if its first name is empty. -/
theorem isAbsolute_iff {p : String} (hp : p ≠ "") :
    isAbsolute p = true ↔ (names p).head? = some "" := by
  obtain ⟨c, cs, hcs⟩ := List.exists_cons_of_ne_nil fun e => hp (String.toList_inj.1 e)
  rw [isAbsolute, names, hcs, fields, beq_iff_eq, List.head?_cons]
  by_cases hc : c = '/'
  · rw [if_pos hc, hc]
    exact iff_of_true rfl rfl
  · have hroot : some c ≠ some '/' := fun e => hc (Option.some.inj e)
    have hfirst : ∀ f : List Char, some (String.ofList (c :: f)) ≠ some "" := by
      intro f e
      have hchars := congrArg String.toList (Option.some.inj e)
      rw [String.toList_ofList] at hchars
      cases hchars
    rw [if_neg hc]
    cases fields '/' cs with
    | nil => exact iff_of_false hroot (hfirst [])
    | cons f fs => exact iff_of_false hroot (hfirst f)

/-- **A name in a directory** has its place right below that of the directory. -/
theorem leads_child {dir name : String} (hdir : dir ≠ "") (hslash : '/' ∉ name.toList)
    (hname : IsProper name) (home : Place) :
    leads home (child dir name) = leads home dir ++ [name] := by
  have habsolute : isAbsolute (child dir name) = isAbsolute dir := by
    have hne : dir.toList ≠ [] := fun e => hdir (String.toList_inj.1 e)
    have hhead : (child dir name).toList.head? = dir.toList.head? := by
      obtain ⟨c, cs, hcs⟩ := List.exists_cons_of_ne_nil hne
      rw [child, if_neg hdir, String.toList_append, String.toList_append, hcs]
      rfl
    rw [isAbsolute, isAbsolute, hhead]
  rw [leads, leads, habsolute, names_child hdir hslash, List.foldl_append, List.foldl_cons,
    List.foldl_nil, step_of_isProper hname]

/-- A single name has its place right below the working directory. -/
theorem leads_of_isProper {name : String} (hslash : '/' ∉ name.toList) (hname : IsProper name)
    (home : Place) : leads home name = home ++ [name] := by
  have hrelative : isAbsolute name = false := by
    rw [isAbsolute, beq_eq_false_iff_ne]
    intro h
    exact hslash (List.mem_of_mem_head? h)
  rw [leads, hrelative, if_neg (by decide), names_of_not_mem hslash, List.foldl_cons,
    List.foldl_nil, step_of_isProper hname]

theorem leads_dot (home : Place) : leads home "." = home := rfl

/-! ## Folders -/

/-- The path of the directory that a file lies in. For a single name it is the working directory. -/
def folder (p : String) : String :=
  match parent? p with
  | some "" => "."
  | some dir => dir
  | none => "."

theorem folder_ne_empty (p : String) : folder p ≠ "" := by
  unfold folder
  split
  · decide
  · next dir hne _ => exact fun h => hne (by simp_all)
  · decide

/-- Names that say nothing lead nowhere. -/
theorem foldl_step_filter (ns : List String) (here : Place) :
    (ns.filter isTelling).foldl step here = ns.foldl step here := by
  induction ns generalizing here with
  | nil => rfl
  | cons name ns ih =>
      by_cases hname : isTelling name = true
      · rw [List.filter_cons_of_pos hname, List.foldl_cons, List.foldl_cons, ih]
      · have hstay : step here name = here := by simp [step, hname]
        rw [List.filter_cons_of_neg hname, ih, List.foldl_cons, hstay]

/-- The parts of a path lead where its names do. -/
theorem leads_eq_parts {p : String} (hp : p ≠ "") (home : Place) :
    leads home p =
      (parts p).foldl step (if (parts p).head? = some "" then [] else home) := by
  simp only [leads, isAbsolute_iff hp, parts, if_neg hp]
  cases names p with
  | nil => rfl
  | cons first rest =>
      dsimp only
      rw [List.foldl_cons, List.foldl_cons, foldl_step_filter]
      rfl

theorem mem_names_of_mem_parts {p name : String} (h : name ∈ parts p) : name ∈ names p := by
  unfold parts at h
  split at h
  · cases h
  · cases hnames : names p with
    | nil =>
        rw [hnames] at h
        cases h
    | cons first rest =>
        rw [hnames] at h
        rcases List.mem_cons.1 h with rfl | h
        · exact List.mem_cons_self
        · exact List.mem_cons_of_mem first (List.mem_filter.1 h).1

/-- The file name of a path is its last part. -/
theorem parts_of_fileName? {p name : String} (h : fileName? p = some name) :
    ∃ ps, parts p = ps ++ [name] ∧ IsProper name := by
  unfold fileName? at h
  cases hlast : (parts p).getLast? with
  | none =>
      rw [hlast] at h
      cases h
  | some last =>
      rw [hlast] at h
      dsimp only at h
      split at h
      · next hproper =>
          cases h
          obtain ⟨ps, hps⟩ := List.getLast?_eq_some_iff.1 hlast
          simp only [Bool.and_eq_true, decide_eq_true_eq] at hproper
          exact ⟨ps, hps, hproper⟩
      · cases h

/-- A path that is made of parts is not empty, and leads where its parts do. -/
theorem leads_ofParts {ps : List String} (hne : ps ≠ []) (hps : ∀ name ∈ ps, '/' ∉ name.toList)
    (home : Place) :
    ofParts ps ≠ "" ∧
      leads home (ofParts ps) = ps.foldl step (if ps.head? = some "" then [] else home) := by
  by_cases hroot : ps = [""]
  · subst hroot
    exact ⟨by decide, rfl⟩
  · have hpath : ofParts ps = String.intercalate "/" ps := by
      unfold ofParts
      split
      · exact absurd rfl hroot
      · rfl
    have hnames : names (ofParts ps) = ps := hpath ▸ names_intercalate hne hps
    have hsome : ofParts ps ≠ "" := by
      intro h
      rw [h] at hnames
      exact hroot hnames.symm
    refine ⟨hsome, ?_⟩
    simp only [leads, isAbsolute_iff hsome, hnames]

/-- **A file lies right below its folder.** -/
theorem leads_folder {p name : String} (h : fileName? p = some name) (home : Place) :
    leads home p = leads home (folder p) ++ [name] := by
  obtain ⟨ps, hparts, hname⟩ := parts_of_fileName? h
  have hp : p ≠ "" := by
    rintro rfl
    cases h
  have hnonempty : name ≠ "" := by
    rintro rfl
    exact absurd hname.1 (by decide)
  have hparent : parent? p = some (ofParts ps) := by
    unfold parent?
    rw [hparts]
    split
    · next he => simp at he
    · next he =>
        have hlast := congrArg List.getLast? he
        rw [List.getLast?_concat] at hlast
        exact absurd (Option.some.inj hlast) hnonempty
    · rw [List.dropLast_concat]
  rw [leads_eq_parts hp, hparts, List.foldl_append, List.foldl_cons, List.foldl_nil,
    step_of_isProper hname]
  congr 1
  by_cases hps : ps = []
  · subst hps
    have hfolder : folder p = "." := by
      rw [folder, hparent]
      rfl
    rw [hfolder, leads_dot]
    simp [hnonempty]
  · have hslash : ∀ part ∈ ps, '/' ∉ part.toList := fun part hpart =>
      not_mem_of_mem_names (mem_names_of_mem_parts (hparts ▸ List.mem_append_left _ hpart))
    obtain ⟨hsome, hleads⟩ := leads_ofParts hps hslash home
    have hfolder : folder p = ofParts ps := by
      rw [folder, hparent]
      split
      · next he => exact absurd (Option.some.inj he) hsome
      · next he => exact (Option.some.inj he).symm
      · next he => cases he
    have hhead : (ps ++ [name]).head? = ps.head? := by
      obtain ⟨part, rest, rfl⟩ := List.exists_cons_of_ne_nil hps
      rfl
    rw [hfolder, hleads, hhead]

end Path

namespace FileTree

/-- Names that can be followed lead where they say. -/
theorem eq_foldl_of_walk {t : FileTree} {here q : Place} {names : List String}
    (h : t.walk here names = .ok q) : q = names.foldl Path.step here := by
  induction names generalizing here with
  | nil => cases h; rfl
  | cons name names ih =>
      rw [walk] at h
      rw [List.foldl_cons, Path.step]
      cases hget : t.get? here with
      | none =>
          rw [hget] at h
          cases h
      | some e =>
          rw [hget] at h
          cases e with
          | regular c => cases h
          | directory =>
              dsimp only at h
              by_cases hstay : (!Path.isTelling name) = true
              · rw [if_pos hstay] at h ⊢
                exact ih h
              rw [if_neg hstay] at h ⊢
              by_cases hup : name = ".."
              · rw [if_pos hup] at h ⊢
                exact ih h
              rw [if_neg hup] at h ⊢
              by_cases hlong : 255 < name.utf8ByteSize
              · rw [if_pos hlong] at h
                cases h
              · rw [if_neg hlong] at h
                exact ih h

/-- **A path that can be followed leads where its names say.** -/
theorem eq_leads_of_locate {t : FileTree} {p : String} {q : Place} (h : t.locate p = .ok q) :
    q = Path.leads t.home p :=
  eq_foldl_of_walk (walk_of_locate h).1

end FileTree

end CountryLookup
