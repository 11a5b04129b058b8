import CountryLookup.Proofs.Settings.Members
import CountryLookup.Proofs.Toml.Words

/-!
# Reading documents back

A written document is a sequence of lines, and each line either is blank or says one statement,
whatever comes behind it. `Spells` is that relation; the reader follows it line by line. The
statements of a written document open one table after the other and assign each of its names once,
so carrying them out makes the tables that were written.

## Main results

* `readStatements_of_spells` — lines are read as the statements that they spell.
* `spells_writeTables` — what the printer writes spells the tables and their rows.
* `ofStatements_tables` — tables of different names come about as they are stated.
* `parse?_writeTables` — written tables are read back.
-/

namespace CountryLookup.Toml

open Text

/-! ## Lines -/

/-- The characters with which a statement starts: those of names, and an opening bracket. -/
def isStart (c : Char) : Bool := isNameChar c || c == '['

/-- The line `l` says the statement `s`, whatever follows it. -/
structure Says (l : List Char) (s : Statement) : Prop where
  start : ∃ c cs, l = c :: cs ∧ isStart c = true
  read : ∀ rest, readStatement (l ++ '\n' :: rest) = some (s, '\n' :: rest)

/-- Lines that spell statements, with blank lines anywhere. -/
inductive Spells : List Char → List Statement → Prop where
  | nil : Spells [] []
  | blank {cs : List Char} {ss : List Statement} : Spells cs ss → Spells ('\n' :: cs) ss
  | line {l cs : List Char} {s : Statement} {ss : List Statement} :
      Says l s → Spells cs ss → Spells (l ++ '\n' :: cs) (s :: ss)

theorem ne_of_isStart {c : Char} (h : isStart c = true) :
    c ≠ '\n' ∧ c ≠ '\r' ∧ c ≠ '#' ∧ c ≠ '\uFEFF' ∧ isGap c = false := by
  refine ⟨?_, ?_, ?_, ?_, ?_⟩
  · rintro rfl
    exact absurd h (by decide)
  · rintro rfl
    exact absurd h (by decide)
  · rintro rfl
    exact absurd h (by decide)
  · rintro rfl
    exact absurd h (by decide)
  · rw [isGap, Bool.or_eq_false_iff, beq_eq_false_iff_ne, beq_eq_false_iff_ne]
    constructor
    · rintro rfl
      exact absurd h (by decide)
    · rintro rfl
      exact absurd h (by decide)

/-- Nothing is skipped in front of a statement. -/
theorem skipLines_start {c : Char} (h : isStart c = true) (cs : List Char) :
    skipLines false (c :: cs) = some (c :: cs) := by
  obtain ⟨hn, hr, hc, _, hg⟩ := ne_of_isStart h
  rw [skipLines]
  · have hc' : (c == '#') = false := beq_eq_false_iff_ne.2 hc
    rw [if_neg Bool.false_ne_true, hg, hc']
    rfl
  · exact hn
  · intro _ e
    exact absurd e hr

theorem endLine_newline (cs : List Char) : endLine ('\n' :: cs) = some cs := rfl

/-- Lines that spell statements come off in front, whatever follows them. -/
theorem readStatements_append {front : List Char} {ss : List Statement} (h : Spells front ss)
    (fuel : Nat) (rest : List Char) :
    readStatements (fuel + ss.length) (front ++ rest) =
      (readStatements fuel rest).map (ss ++ ·) := by
  induction h with
  | nil =>
      show readStatements fuel rest = _
      cases readStatements fuel rest with
      | none => rfl
      | some ts => rfl
  | @blank cs ss _ ih =>
      rw [← ih, List.cons_append]
      cases hfuel : fuel + ss.length with
      | zero => rfl
      | succ n => rw [readStatements, readStatements, skipLines]
  | @line l cs s ss hs _ ih =>
      obtain ⟨c, w, rfl, hc⟩ := hs.start
      have hread := hs.read (cs ++ rest)
      rw [List.cons_append] at hread
      rw [List.length_cons, ← Nat.add_assoc, List.append_assoc]
      simp only [List.cons_append, readStatements, skipLines_start hc, bind, Option.bind, hread,
        endLine_newline, ih, pure]
      cases readStatements fuel rest with
      | none => rfl
      | some ts => rfl

/-- There are no more statements than characters. -/
theorem length_le_of_spells {cs : List Char} {ss : List Statement} (h : Spells cs ss) :
    ss.length ≤ cs.length := by
  induction h with
  | nil => exact Nat.le_refl 0
  | blank _ ih => exact Nat.le_succ_of_le ih
  | line _ _ ih =>
      rw [List.length_append, List.length_cons, List.length_cons]
      omega

/-- **Lines are read as the statements that they spell.** -/
theorem readStatements_of_spells {cs : List Char} {ss : List Statement} (h : Spells cs ss)
    {fuel : Nat} (hf : cs.length < fuel) : readStatements fuel cs = some ss := by
  have hlength := length_le_of_spells h
  obtain ⟨more, rfl⟩ : ∃ more, fuel = more + 1 + ss.length := ⟨fuel - ss.length - 1, by omega⟩
  have hread := readStatements_append h (more + 1) []
  rw [List.append_nil] at hread
  rw [hread]
  show some (ss ++ []) = some ss
  rw [List.append_nil]

/-- A statement is not taken for a mark of the byte order. -/
theorem dropMark_of_isStart {c : Char} (h : isStart c = true) (cs : List Char) :
    dropMark (c :: cs) = c :: cs := by
  rw [dropMark]
  intro _ e
  exact (ne_of_isStart h).2.2.2.1 (List.cons.inj e).1

/-- A document that is spelled has no mark of the byte order in front of it. -/
theorem dropMark_of_spells {cs : List Char} {ss : List Statement} (h : Spells cs ss) :
    dropMark cs = cs := by
  cases h with
  | nil => rfl
  | blank _ => rfl
  | line hs _ =>
      obtain ⟨c, w, he, hc⟩ := hs.start
      rw [he, List.cons_append, dropMark_of_isStart hc]

/-! ## Names -/

/-- Names that are written without quotes. -/
structure IsName (k : String) : Prop where
  some : k.toList ≠ []
  plain : k.toList.all isNameChar = true

instance (k : String) : Decidable (IsName k) :=
  decidable_of_iff (k.toList ≠ [] ∧ k.toList.all isNameChar = true)
    ⟨fun h => ⟨h.1, h.2⟩, fun h => ⟨h.some, h.plain⟩⟩

theorem IsName.cons {k : String} (h : IsName k) :
    ∃ c cs, k.toList = c :: cs ∧ isNameChar c = true := by
  cases hk : k.toList with
  | nil => exact absurd hk h.some
  | cons c cs =>
      have hp := h.plain
      rw [hk, List.all_cons, Bool.and_eq_true] at hp
      exact ⟨c, cs, rfl, hp.1⟩

theorem isGap_of_isNameChar {c : Char} (h : isNameChar c = true) : isGap c = false :=
  (ne_of_isStart (show isStart c = true by rw [isStart, h, Bool.true_or])).2.2.2.2

theorem readName_plain {k : String} (h : IsName k) {x : Char} (hx : isNameChar x = false)
    (rest : List Char) : readName (k.toList ++ x :: rest) = some (k.toList, x :: rest) := by
  obtain ⟨c, cs, he, hc⟩ := h.cons
  have hq : c ≠ '"' := by
    rintro rfl
    exact absurd hc (by decide)
  have ha : c ≠ '\'' := by
    rintro rfl
    exact absurd hc (by decide)
  have ht := takeWhile_run h.plain hx rest
  have hd := dropWhile_run h.plain hx rest
  rw [he, List.cons_append] at ht hd ⊢
  rw [readName, ht, hd]
  · intro _ e
    exact hq (List.cons.inj e).1
  · intro _ e
    exact hq (List.cons.inj e).1
  · intro _ e
    exact ha (List.cons.inj e).1
  · intro _ e
    exact ha (List.cons.inj e).1

/-- A name is a path of one name if neither white space nor a point follows it. -/
theorem readPath_single {k : String} (h : IsName k) {x y : Char} (hx : isNameChar x = false)
    (hy : y ≠ '.') {rest rest' : List Char} (hrest : (x :: rest).dropWhile isGap = y :: rest')
    (fuel : Nat) : readPath (fuel + 1) (k.toList ++ x :: rest) = some ([k], y :: rest') := by
  obtain ⟨c, cs, he, hc⟩ := h.cons
  have hgap : (k.toList ++ x :: rest).dropWhile isGap = k.toList ++ x :: rest := by
    rw [he, List.cons_append, List.dropWhile_cons_of_neg]
    rw [isGap_of_isNameChar hc]
    exact Bool.false_ne_true
  rw [readPath, hgap, readName_plain h hx]
  simp only [bind, Option.bind, hrest, pure]
  split
  · next e => exact absurd (List.cons.inj e).1 hy
  · rw [String.ofList_toList]

/-! ## Statements -/

/-- A header says that its table is opened. -/
theorem says_header {k : String} (h : IsName k) :
    Says ('[' :: k.toList ++ [']']) (.table [k]) := by
  refine ⟨⟨'[', _, rfl, by decide⟩, ?_⟩
  intro rest
  obtain ⟨c, cs, he, hc⟩ := h.cons
  have hb : c ≠ '[' := by
    rintro rfl
    exact absurd hc (by decide)
  have hp : readPath (maxDepth + 1) (k.toList ++ ']' :: '\n' :: rest) =
      some ([k], ']' :: '\n' :: rest) :=
    readPath_single h (by decide) (by decide) rfl maxDepth
  have hw : '[' :: k.toList ++ [']'] ++ '\n' :: rest =
      '[' :: (k.toList ++ ']' :: '\n' :: rest) := by simp
  rw [hw, readStatement, readHeader]
  · rw [hp]
    rfl
  · intro _ e
    rw [he, List.cons_append] at e
    exact hb (List.cons.inj e).1

/-- What a line with an equals sign says depends on how the value behind it is read. -/
theorem readStatement_assignment {k : String} (h : IsName k) {c : Char} {cs : List Char}
    (hc : isGap c = false) (rest : List Char) :
    readStatement (k.toList ++ [' ', '=', ' '] ++ c :: cs ++ '\n' :: rest) =
      (readValue maxDepth (c :: cs ++ '\n' :: rest)).map
        fun r => (.assignment [k] r.1, r.2) := by
  obtain ⟨d, ds, he, hd⟩ := h.cons
  have hb : d ≠ '[' := by
    rintro rfl
    exact absurd hd (by decide)
  have hp : readPath (maxDepth + 1) (k.toList ++ ' ' :: '=' :: ' ' :: (c :: cs ++ '\n' :: rest)) =
      some ([k], '=' :: ' ' :: (c :: cs ++ '\n' :: rest)) :=
    readPath_single h (by decide) (by decide) rfl maxDepth
  have hgap : (' ' :: (c :: cs ++ '\n' :: rest)).dropWhile isGap = c :: cs ++ '\n' :: rest := by
    rw [List.dropWhile_cons_of_pos (by decide), List.cons_append,
      List.dropWhile_cons_of_neg (by rw [hc]; exact Bool.false_ne_true)]
  have ha : readAssignment (readValue maxDepth)
      (k.toList ++ ' ' :: '=' :: ' ' :: (c :: cs ++ '\n' :: rest)) =
        (readValue maxDepth (c :: cs ++ '\n' :: rest)).map fun r => (([k], r.1), r.2) := by
    simp only [readAssignment, hp, bind, Option.bind, hgap, pure]
    cases readValue maxDepth (c :: cs ++ '\n' :: rest) with
    | none => rfl
    | some r => rfl
  have hl : k.toList ++ [' ', '=', ' '] ++ c :: cs ++ '\n' :: rest =
      k.toList ++ ' ' :: '=' :: ' ' :: (c :: cs ++ '\n' :: rest) := by simp
  rw [hl]
  rw [he, List.cons_append] at ha ⊢
  rw [readStatement, ha]
  · cases readValue maxDepth (c :: cs ++ '\n' :: rest) with
    | none => rfl
    | some r => rfl
  · intro _ e
    exact hb (List.cons.inj e).1

/-- A line with an equals sign says that a value is assigned. -/
theorem says_assignment {k : String} (h : IsName k) {w : List Char} {v : Setting}
    (hw : Reads w v) :
    Says (k.toList ++ [' ', '=', ' '] ++ w) (.assignment [k] v) := by
  obtain ⟨d, ds, he, hd⟩ := h.cons
  refine ⟨⟨d, ds ++ [' ', '=', ' '] ++ w, by rw [he]; rfl, by rw [isStart, hd, Bool.true_or]⟩, ?_⟩
  intro rest
  obtain ⟨c, cs, rfl⟩ := List.exists_cons_of_ne_nil hw.some
  rw [readStatement_assignment h (hw.start c rfl), hw.read]
  rfl

/-! ## Tables -/

/-- Fields as they are written, and the members that they are read as. A field that is not written
is no member. -/
inductive Rows : List (String × Option (List Char)) → List (String × Setting) → Prop where
  | nil : Rows [] []
  | absent (k : String) {fs : List (String × Option (List Char))} {ms : List (String × Setting)} :
      Rows fs ms → Rows ((k, none) :: fs) ms
  | row {k : String} {w : List Char} {v : Setting} {fs : List (String × Option (List Char))}
      {ms : List (String × Setting)} :
      IsName k → Reads w v → Rows fs ms → Rows ((k, some w) :: fs) ((k, v) :: ms)

/-- Tables as they are written, and the tables that they are read as. -/
inductive Tables : List (String × List (String × Option (List Char))) →
    List (String × List (String × Setting)) → Prop where
  | nil : Tables [] []
  | cons {k : String} {fs : List (String × Option (List Char))} {ms : List (String × Setting)}
      {ts : List (String × List (String × Option (List Char)))}
      {us : List (String × List (String × Setting))} :
      IsName k → Rows fs ms → Tables ts us → Tables ((k, fs) :: ts) ((k, ms) :: us)

/-- The statements of a table: its header, and an assignment for each member. -/
def statementsOf (t : String × List (String × Setting)) : List Statement :=
  .table [t.1] :: t.2.map fun m => .assignment [m.1] m.2

theorem spells_rows {fs : List (String × Option (List Char))} {ms : List (String × Setting)}
    (h : Rows fs ms) {cs : List Char} {ss : List Statement} (hcs : Spells cs ss) :
    Spells ((fs.flatMap fun f => (f.2.map (writeLine f.1)).getD []) ++ cs)
      ((ms.map fun m => .assignment [m.1] m.2) ++ ss) := by
  induction h with
  | nil => exact hcs
  | absent k _ ih => exact ih
  | @row k w v fs ms hk hw _ ih =>
      have hline := Spells.line (says_assignment hk hw) ih
      rw [List.flatMap_cons, List.map_cons, List.cons_append]
      simpa [writeLine] using hline

theorem spells_writeTable {k : String} {fs : List (String × Option (List Char))}
    {ms : List (String × Setting)} (hk : IsName k) (h : Rows fs ms) {cs : List Char}
    {ss : List Statement} (hcs : Spells cs ss) :
    Spells (writeTable k fs ++ cs) (statementsOf (k, ms) ++ ss) := by
  have hline := Spells.line (says_header hk) (spells_rows h hcs)
  simpa [writeTable, statementsOf] using hline

/-- **Written tables spell their headers and rows.** -/
theorem spells_writeTables {ts : List (String × List (String × Option (List Char)))}
    {us : List (String × List (String × Setting))} (h : Tables ts us) :
    Spells (writeTables (ts.map fun t => writeTable t.1 t.2)) (us.flatMap statementsOf) := by
  induction h with
  | nil => exact .nil
  | @cons k fs ms ts us hk hr hts ih =>
      cases hts with
      | nil => simpa [writeTables] using spells_writeTable hk hr .nil
      | cons hk' hr' hts' =>
          have h := spells_writeTable hk hr (.blank ih)
          rw [List.flatMap_cons]
          simpa [writeTables] using h

/-! ## Carrying statements out -/

/-- Members whose values are settled. -/
def settled (ms : List (String × Setting)) : List (String × Node) :=
  ms.map fun m => (m.1, .closed m.2)

/-- Tables that headers have opened, one after the other. -/
def opened (us : List (String × List (String × Setting))) : List (String × Node) :=
  us.map fun u => (u.1, .table .declared (settled u.2))

theorem closeMembers_settled (ms : List (String × Setting)) : closeMembers (settled ms) = ms := by
  induction ms with
  | nil => rfl
  | cons m ms ih =>
      rw [settled, List.map_cons, closeMembers, Node.close]
      exact congrArg (m :: ·) ih

theorem closeMembers_opened (us : List (String × List (String × Setting))) :
    closeMembers (opened us) = us.map fun u => (u.1, .table u.2) := by
  induction us with
  | nil => rfl
  | cons u us ih =>
      rw [opened, List.map_cons, closeMembers, Node.close, closeMembers_settled, List.map_cons]
      exact congrArg (_ :: ·) ih

theorem names_settled (ms : List (String × Setting)) :
    Members.names (settled ms) = Members.names ms := by
  rw [Members.names, settled, List.map_map]
  rfl

theorem names_opened (us : List (String × List (String × Setting))) :
    Members.names (opened us) = us.map (·.1) := by
  rw [Members.names, opened, List.map_map]
  rfl

/-- The draft after some tables are closed off and another has some of its members. -/
def underWay (done : List (String × Node)) (k : String) (ms : List (String × Setting)) : Draft :=
  ⟨done ++ [(k, .table .declared (settled ms))], [k]⟩

/-- One more member comes last in the open table. -/
theorem step_assignment {done : List (String × Node)} {k : String} (hk : k ∉ Members.names done)
    {ms : List (String × Setting)} {j : String} (hj : j ∉ Members.names ms) (v : Setting) :
    (underWay done k ms).step (.assignment [j] v) = some (underWay done k (ms ++ [(j, v)])) := by
  have hj' : j ∉ Members.names (settled ms) := by
    rw [names_settled]
    exact hj
  have ha : assign v [j] (settled ms) = some (settled (ms ++ [(j, v)])) := by
    rw [assign, Members.get?_eq_none_iff.2 hj', if_neg (by simp), Members.put_of_not_mem hj']
    simp [settled]
  have hw : within (assign v [j]) [k] (done ++ [(k, .table .declared (settled ms))]) =
      some (done ++ [(k, .table .declared (settled (ms ++ [(j, v)])))]) := by
    rw [within, Members.get?_concat_self hk]
    dsimp only
    rw [within, ha, Option.map_some, Members.put_concat_self hk]
  rw [underWay, Draft.step, hw]
  rfl

theorem foldlM_assignments {done : List (String × Node)} {k : String}
    (hk : k ∉ Members.names done) (ms more : List (String × Setting))
    (hd : (Members.names (ms ++ more)).Nodup) :
    (more.map fun m => Statement.assignment [m.1] m.2).foldlM Draft.step (underWay done k ms) =
      some (underWay done k (ms ++ more)) := by
  induction more generalizing ms with
  | nil => rw [List.append_nil]; rfl
  | cons m more ih =>
      have hm : m.1 ∉ Members.names ms := by
        rw [Members.names_append, List.nodup_append] at hd
        intro h
        exact hd.2.2 _ h _ (by rw [Members.names_cons]; exact List.mem_cons_self) rfl
      have happ : ms ++ m :: more = ms ++ [m] ++ more := by simp
      rw [List.map_cons, List.foldlM_cons, step_assignment hk hm]
      rw [happ] at hd ⊢
      exact ih (ms ++ [m]) hd

/-- A table of a new name comes last, with all of its members. -/
theorem foldlM_statementsOf {d : Draft} {t : String × List (String × Setting)}
    (hk : t.1 ∉ Members.names d.members) (hd : (Members.names t.2).Nodup) :
    (statementsOf t).foldlM Draft.step d = some (underWay d.members t.1 t.2) := by
  have hs : d.step (.table [t.1]) = some (underWay d.members t.1 []) := by
    have hw : within (openTable t.1) [] d.members =
        some (d.members ++ [(t.1, .table .declared [])]) := by
      rw [within, openTable, Members.get?_eq_none_iff.2 hk, Members.put_of_not_mem hk]
    show (do
      let ms ← within (openTable t.1) [] d.members
      return Draft.mk ms [t.1]) = _
    rw [hw]
    rfl
  rw [statementsOf, List.foldlM_cons, hs]
  exact foldlM_assignments hk [] t.2 hd

theorem foldlM_tables (us : List (String × List (String × Setting))) (d : Draft)
    (done : List (String × List (String × Setting))) (hm : d.members = opened done)
    (hn : ((done ++ us).map (·.1)).Nodup) (hd : ∀ u ∈ us, (Members.names u.2).Nodup) :
    ((us.flatMap statementsOf).foldlM Draft.step d).map (fun d => closeMembers d.members) =
      some ((done ++ us).map fun u => (u.1, .table u.2)) := by
  induction us generalizing d done with
  | nil =>
      rw [List.append_nil, List.flatMap_nil, List.foldlM_nil]
      show some (closeMembers d.members) = _
      rw [hm, closeMembers_opened]
  | cons u us ih =>
      have hu : u.1 ∉ Members.names d.members := by
        rw [hm, names_opened]
        rw [List.map_append, List.nodup_append] at hn
        intro h
        exact hn.2.2 _ h _ (by rw [List.map_cons]; exact List.mem_cons_self) rfl
      have happ : done ++ u :: us = done ++ [u] ++ us := by simp
      rw [List.flatMap_cons, List.foldlM_append,
        foldlM_statementsOf hu (hd u List.mem_cons_self)]
      rw [happ] at hn ⊢
      apply ih (underWay d.members u.1 u.2) (done ++ [u])
      · rw [underWay, hm]
        simp [opened]
      · exact hn
      · intro x hx
        exact hd x (List.mem_cons_of_mem u hx)

/-- **Tables of different names come about as they are stated.** -/
theorem ofStatements_tables {us : List (String × List (String × Setting))}
    (hn : (us.map (·.1)).Nodup) (hd : ∀ u ∈ us, (Members.names u.2).Nodup) :
    ofStatements (us.flatMap statementsOf) = some (us.map fun u => (u.1, .table u.2)) :=
  foldlM_tables us {} [] rfl hn hd

/-- **Written tables are read back.** -/
theorem parse?_writeTables {ts : List (String × List (String × Option (List Char)))}
    {us : List (String × List (String × Setting))} (h : Tables ts us)
    (hn : (us.map (·.1)).Nodup) (hd : ∀ u ∈ us, (Members.names u.2).Nodup) :
    parse? (String.ofList (writeTables (ts.map fun t => writeTable t.1 t.2))) =
      some (us.map fun u => (u.1, .table u.2)) := by
  have hs := spells_writeTables h
  have hread := readStatements_of_spells hs (Nat.lt_succ_self _)
  simp only [parse?, String.toList_ofList, dropMark_of_spells hs, bind, Option.bind]
  rw [hread]
  exact ofStatements_tables hn hd

end CountryLookup.Toml
