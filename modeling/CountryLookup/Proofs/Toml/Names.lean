import CountryLookup.Proofs.Settings.Members
import CountryLookup.Toml.Reader

/-!
# Names in documents

No name occurs twice at the top of a document, nor in one of the tables there. Whether a name is
new is asked whenever it is set; the rest is that every change to a draft keeps what the changed
tables were before, however deep they lie.

## Main results

* `assign_eq_put` — an assignment sets one name.
* `within_sound`, `step_sound` — no statement makes a name occur twice.
* `parse?_distinct` — so no name does in what is read.
-/

namespace CountryLookup.Toml

open Text

/-! ## Drafts -/

/-- If a value is a table, no name occurs twice in it. -/
def Distinct (v : Setting) : Prop := ∀ ms, v = .table ms → (Members.names ms).Nodup

/-- No name occurs twice in any table of a node. -/
inductive Node.Sound : Node → Prop where
  | closed {v : Setting} : Distinct v → Node.Sound (.closed v)
  | table {o : Origin} {ms : List (String × Node)} :
      (Members.names ms).Nodup → (∀ m ∈ ms, Node.Sound m.2) → Node.Sound (.table o ms)
  | tables {done : List Setting} {last : List (String × Node)} :
      (Members.names last).Nodup → (∀ m ∈ last, Node.Sound m.2) →
      Node.Sound (.tables done last)

/-- No name occurs twice among the members or in any table below them. -/
structure Sound (ms : List (String × Node)) : Prop where
  names : (Members.names ms).Nodup
  nodes : ∀ m ∈ ms, m.2.Sound

theorem sound_nil : Sound [] := ⟨List.nodup_nil, fun _ h => absurd h List.not_mem_nil⟩

theorem Sound.table {ms : List (String × Node)} (h : Sound ms) (o : Origin) :
    (Node.table o ms).Sound := .table h.names h.nodes

theorem Sound.tables {ms : List (String × Node)} (h : Sound ms) (done : List Setting) :
    (Node.tables done ms).Sound := .tables h.names h.nodes

theorem Sound.put {ms : List (String × Node)} (h : Sound ms) (k : String) {n : Node}
    (hn : n.Sound) : Sound (Members.put k n ms) := by
  refine ⟨Members.nodup_put h.names k n, ?_⟩
  intro m hm
  rcases Members.mem_put hm with rfl | hm
  · exact hn
  · exact h.nodes m hm

theorem Sound.get? {ms : List (String × Node)} (h : Sound ms) {k : String} {n : Node}
    (hg : Members.get? k ms = some n) : n.Sound :=
  h.nodes (k, n) (Members.mem_of_get? hg)

theorem Sound.of_table {ms sub : List (String × Node)} (h : Sound ms) {k : String} {o : Origin}
    (hg : Members.get? k ms = some (.table o sub)) : Sound sub := by
  cases h.get? hg with
  | table hn hs => exact ⟨hn, hs⟩

theorem Sound.of_tables {ms sub : List (String × Node)} (h : Sound ms) {k : String}
    {done : List Setting} (hg : Members.get? k ms = some (.tables done sub)) : Sound sub := by
  cases h.get? hg with
  | tables hn hs => exact ⟨hn, hs⟩

/-! ## Statements -/

/-- **An assignment sets one name,** and to a node in which no name occurs twice if there was no
such name before. -/
theorem assign_eq_put {v : Setting} {path : List String} {ms ms' : List (String × Node)}
    (h : assign v path ms = some ms') :
    ∃ k n, ms' = Members.put k n ms ∧ (Distinct v → Sound ms → n.Sound) := by
  induction path generalizing ms ms' with
  | nil => cases h
  | cons p path ih =>
      cases path with
      | nil =>
          rw [assign] at h
          split at h
          · cases h
          · cases h
            exact ⟨p, _, rfl, fun hv _ => .closed hv⟩
      | cons q rest =>
          -- a table below is changed in one name, too
          have hsub : ∀ {sub sub' : List (String × Node)}, assign v (q :: rest) sub = some sub' →
              Distinct v → Sound sub → Sound sub' := by
            intro sub sub' hs hv hsound
            obtain ⟨k, n, rfl, hn⟩ := ih hs
            exact hsound.put k (hn hv hsound)
          rw [assign] at h
          split at h
          · obtain ⟨sub', hs, rfl⟩ := Option.map_eq_some_iff.1 h
            exact ⟨p, _, rfl, fun hv _ => (hsub hs hv sound_nil).table .dotted⟩
          · next sub hg =>
              obtain ⟨sub', hs, rfl⟩ := Option.map_eq_some_iff.1 h
              exact ⟨p, _, rfl, fun hv hms => (hsub hs hv (hms.of_table hg)).table .dotted⟩
          · next sub hg =>
              split at h
              · cases h
              · obtain ⟨sub', hs, rfl⟩ := Option.map_eq_some_iff.1 h
                exact ⟨p, _, rfl, fun hv hms => (hsub hs hv (hms.of_table hg)).table .implied⟩
          · next done sub hg =>
              split at h
              · cases h
              · obtain ⟨sub', hs, rfl⟩ := Option.map_eq_some_iff.1 h
                exact ⟨p, _, rfl, fun hv hms => (hsub hs hv (hms.of_tables hg)).tables done⟩
          · cases h

theorem assign_sound {v : Setting} (hv : Distinct v) {path : List String}
    {ms ms' : List (String × Node)} (hms : Sound ms) (h : assign v path ms = some ms') :
    Sound ms' := by
  obtain ⟨k, n, rfl, hn⟩ := assign_eq_put h
  exact hms.put k (hn hv hms)

/-- The table at the end of a path is changed. -/
theorem within_sound {f : List (String × Node) → Option (List (String × Node))}
    (hf : ∀ ms ms', Sound ms → f ms = some ms' → Sound ms') {path : List String}
    {ms ms' : List (String × Node)} (hms : Sound ms) (h : within f path ms = some ms') :
    Sound ms' := by
  induction path generalizing ms ms' with
  | nil => exact hf ms ms' hms h
  | cons p path ih =>
      rw [within] at h
      split at h
      · obtain ⟨sub', hs, rfl⟩ := Option.map_eq_some_iff.1 h
        exact hms.put p ((ih sound_nil hs).table .implied)
      · next o sub hg =>
          obtain ⟨sub', hs, rfl⟩ := Option.map_eq_some_iff.1 h
          exact hms.put p ((ih (hms.of_table hg) hs).table o)
      · next done sub hg =>
          obtain ⟨sub', hs, rfl⟩ := Option.map_eq_some_iff.1 h
          exact hms.put p ((ih (hms.of_tables hg) hs).tables done)
      · cases h

theorem openTable_sound {k : String} {ms ms' : List (String × Node)} (hms : Sound ms)
    (h : openTable k ms = some ms') : Sound ms' := by
  unfold openTable at h
  split at h
  · cases h
    exact hms.put k (sound_nil.table .declared)
  · next sub hg =>
      cases h
      exact hms.put k ((hms.of_table hg).table .declared)
  · cases h

theorem openElement_sound {k : String} {ms ms' : List (String × Node)} (hms : Sound ms)
    (h : openElement k ms = some ms') : Sound ms' := by
  unfold openElement at h
  split at h
  · cases h
    exact hms.put k (sound_nil.tables [])
  · cases h
    exact hms.put k (sound_nil.tables _)
  · cases h

/-- The value that a statement assigns, if it assigns one, has no name twice. -/
def Statement.Distinct : Statement → Prop
  | .table _ => True
  | .element _ => True
  | .assignment _ v => Toml.Distinct v

/-- **No statement makes a name occur twice.** -/
theorem step_sound {d d' : Draft} {s : Statement} (hs : s.Distinct) (hd : Sound d.members)
    (h : d.step s = some d') : Sound d'.members := by
  cases s with
  | table path =>
      simp only [Draft.step, bind, Option.bind_eq_some_iff] at h
      obtain ⟨k, _, ms, hw, h⟩ := h
      cases h
      exact within_sound (fun _ _ => openTable_sound) hd hw
  | element path =>
      simp only [Draft.step, bind, Option.bind_eq_some_iff] at h
      obtain ⟨k, _, ms, hw, h⟩ := h
      cases h
      exact within_sound (fun _ _ => openElement_sound) hd hw
  | assignment path v =>
      simp only [Draft.step, bind, Option.bind_eq_some_iff] at h
      obtain ⟨ms, hw, h⟩ := h
      cases h
      exact within_sound (fun _ _ => assign_sound hs) hd hw

theorem foldlM_step_sound {ss : List Statement} (hs : ∀ s ∈ ss, s.Distinct) {d d' : Draft}
    (hd : Sound d.members) (h : ss.foldlM Draft.step d = some d') : Sound d'.members := by
  induction ss generalizing d with
  | nil =>
      cases h
      exact hd
  | cons s ss ih =>
      rw [List.foldlM_cons] at h
      obtain ⟨mid, hm, h⟩ := Option.bind_eq_some_iff.1 h
      have hsound := step_sound (hs s List.mem_cons_self) hd hm
      exact ih (fun t ht => hs t (List.mem_cons_of_mem s ht)) hsound h

/-! ## Values -/

theorem names_closeMembers (ms : List (String × Node)) :
    Members.names (closeMembers ms) = Members.names ms := by
  induction ms with
  | nil => rfl
  | cons m ms ih =>
      obtain ⟨k, n⟩ := m
      rw [closeMembers, Members.names_cons, Members.names_cons, ih]

theorem distinct_close {n : Node} (h : n.Sound) : Distinct n.close := by
  intro ms e
  cases h with
  | closed hv => exact hv ms e
  | @table o sub hn _ =>
      cases e
      rw [names_closeMembers]
      exact hn
  | tables _ _ => cases e

theorem foldlM_assign_nodup {as : List (List String × Setting)} {ms ms' : List (String × Node)}
    (hms : (Members.names ms).Nodup)
    (h : as.foldlM (fun ms (path, v) => assign v path ms) ms = some ms') :
    (Members.names ms').Nodup := by
  induction as generalizing ms with
  | nil =>
      cases h
      exact hms
  | cons a as ih =>
      rw [List.foldlM_cons] at h
      obtain ⟨mid, hm, h⟩ := Option.bind_eq_some_iff.1 h
      obtain ⟨k, n, rfl, _⟩ := assign_eq_put hm
      exact ih (Members.nodup_put hms k n) h

/-- A table on one line has no name twice. -/
theorem ofAssignments_distinct {as : List (List String × Setting)} {v : Setting}
    (h : ofAssignments as = some v) : Distinct v := by
  obtain ⟨ms, hf, rfl⟩ := Option.map_eq_some_iff.1 h
  intro ns e
  cases e
  have hnil : (Members.names ([] : List (String × Node))).Nodup := List.nodup_nil
  rw [names_closeMembers]
  exact foldlM_assign_nodup hnil hf

theorem wordValue?_distinct {word : List Char} {v : Setting} (h : wordValue? word = some v) :
    Distinct v := by
  intro ms e
  subst e
  unfold wordValue? at h
  split at h
  · cases h
  · split at h
    · cases h
    · split at h <;> cases h

theorem readSimple_distinct {cs rest : List Char} {v : Setting}
    (h : readSimple cs = some (v, rest)) : Distinct v := by
  unfold readSimple at h
  split at h
  · obtain ⟨r, _, e⟩ := Option.map_eq_some_iff.1 h
    cases e
    intro ms e
    cases e
  · obtain ⟨r, _, e⟩ := Option.map_eq_some_iff.1 h
    cases e
    intro ms e
    cases e
  · obtain ⟨w, hw, e⟩ := Option.map_eq_some_iff.1 h
    cases e
    exact wordValue?_distinct hw

theorem readOne_distinct {item : ValueReader} {cs rest : List Char} {v : Setting}
    (h : readOne item cs = some (v, rest)) : Distinct v := by
  unfold readOne at h
  split at h
  · obtain ⟨r, _, e⟩ := Option.map_eq_some_iff.1 h
    cases e
    intro ms e
    cases e
  · simp only [bind, Option.bind_eq_some_iff] at h
    obtain ⟨⟨as, cs'⟩, _, w, hw, e⟩ := h
    cases e
    exact ofAssignments_distinct hw
  · exact readSimple_distinct h

theorem readValue_distinct {depth : Nat} {cs rest : List Char} {v : Setting}
    (h : readValue depth cs = some (v, rest)) : Distinct v := by
  cases depth with
  | zero => exact readSimple_distinct h
  | succ depth => exact readOne_distinct h

/-! ## Documents -/

theorem readHeader_distinct {cs rest : List Char} {s : Statement}
    (h : readHeader cs = some (s, rest)) : s.Distinct := by
  unfold readHeader at h
  split at h
  · simp only [bind, Option.bind_eq_some_iff] at h
    obtain ⟨⟨path, cs'⟩, _, h⟩ := h
    split at h
    · cases h
      trivial
    · cases h
  · simp only [bind, Option.bind_eq_some_iff] at h
    obtain ⟨⟨path, cs'⟩, _, h⟩ := h
    split at h
    · cases h
      trivial
    · cases h

theorem readStatement_distinct {cs rest : List Char} {s : Statement}
    (h : readStatement cs = some (s, rest)) : s.Distinct := by
  unfold readStatement at h
  split at h
  · exact readHeader_distinct h
  · simp only [bind, Option.bind_eq_some_iff] at h
    obtain ⟨⟨⟨path, v⟩, cs'⟩, ha, e⟩ := h
    cases e
    simp only [readAssignment, bind, Option.bind_eq_some_iff] at ha
    obtain ⟨⟨path', cs''⟩, _, ha⟩ := ha
    split at ha
    · obtain ⟨⟨v', cs'''⟩, hv, e⟩ := Option.bind_eq_some_iff.1 ha
      cases e
      exact readValue_distinct hv
    · cases ha

theorem readStatements_distinct {fuel : Nat} {cs : List Char} {ss : List Statement}
    (h : readStatements fuel cs = some ss) : ∀ s ∈ ss, s.Distinct := by
  induction fuel generalizing cs ss with
  | zero => cases h
  | succ fuel ih =>
      simp only [readStatements, bind, Option.bind_eq_some_iff] at h
      obtain ⟨cs', _, h⟩ := h
      split at h
      · cases h
        intro s hs
        cases hs
      · obtain ⟨⟨s, rest⟩, hs, h⟩ := Option.bind_eq_some_iff.1 h
        obtain ⟨next, _, h⟩ := Option.bind_eq_some_iff.1 h
        obtain ⟨more, hm, e⟩ := Option.bind_eq_some_iff.1 h
        cases e
        intro t ht
        rcases List.mem_cons.1 ht with rfl | ht
        · exact readStatement_distinct hs
        · exact ih hm t ht

/-- **No name occurs twice at the top of a document, nor in a table there.** -/
theorem parse?_distinct {s : String} {ms : List (String × Setting)} (h : parse? s = some ms) :
    (Members.names ms).Nodup ∧
      ∀ k ns, Members.get? k ms = some (.table ns) → (Members.names ns).Nodup := by
  simp only [parse?, bind, Option.bind_eq_some_iff] at h
  obtain ⟨ss, hss, h⟩ := h
  obtain ⟨d, hd, rfl⟩ := Option.map_eq_some_iff.1 h
  have hs : Sound d.members := foldlM_step_sound (readStatements_distinct hss) sound_nil hd
  constructor
  · rw [names_closeMembers]
    exact hs.names
  · intro k ns hk
    rw [get?_closeMembers] at hk
    obtain ⟨n, hn, e⟩ := Option.map_eq_some_iff.1 hk
    exact distinct_close (hs.get? hn) ns e

end CountryLookup.Toml
