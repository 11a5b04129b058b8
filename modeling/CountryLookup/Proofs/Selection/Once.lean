import CountryLookup.Proofs.Selection.Threads

/-!
# One selection for all threads

Whatever threads do in whatever order, the selection runs once, and everyone gets its outcome. A
call is never stuck: the thread that selects needs no other, and the others wait for nothing but
the cell that it fills.

## Main results

* `canFinish`, `Standing.canAnswer` — the holder needs no other thread, and no call waits for
  ever.
* `determined_answerFor` — the answer is determined by the file found and the embedded database.
* `selectedOnce_run` — one selection, one answer, and a source that appears with it and stays.
-/

namespace CountryLookup.Selector

/-! ## No call waits for ever -/

@[simp] theorem moved_moved (x : Scene) (t : Nat) (g g' : Stage) (m : Shared)
    (log : List Observation) :
    ({ x with shared := m, stage := x.moved t g, log := log } : Scene).moved t g' =
      x.moved t g' := by
  funext u
  by_cases hu : u = t <;> simp [Scene.moved, hu]

/-- A thread that stores completes its call in one step. -/
theorem run_storing (s : Selector) {x : Scene} {t : Nat} {a : Answer}
    (ht : x.stage t = .storing a) :
    s.run x [.advance t] =
      { x with
        stage := x.moved t .idle
        shared := { x.shared with cell := some a, holder := none }
        log := x.log ++ [.answered t a] } := by
  simp only [run, List.foldl_cons, List.foldl_nil, step, advance, ht]

/-- What a selection that was begun can be brought to by steps of its holder alone: the cell is
full, and the holder has its answer. -/
def CanFinish (s : Selector) (x : Scene) (t : Nat) : Prop :=
  ∃ n a, (s.run x (List.replicate n (.advance t))).shared.cell = some a ∧
    (s.run x (List.replicate n (.advance t))).log = x.log ++ [.answered t a] ∧
    (s.run x (List.replicate n (.advance t))).stage = x.moved t .idle

theorem canFinish_storing (s : Selector) {x : Scene} {t : Nat} {a : Answer}
    (ht : x.stage t = .storing a) : s.CanFinish x t := by
  refine ⟨1, a, ?_⟩
  rw [List.replicate_one, s.run_storing ht]
  exact ⟨rfl, rfl, rfl⟩

/-- One more step of the holder in front does not change what can be finished. -/
theorem CanFinish.cons {s : Selector} {x : Scene} {t : Nat} {g : Stage} {m : Shared}
    (hx : s.advance t x = { x with stage := x.moved t g, shared := m })
    (h : s.CanFinish (s.advance t x) t) : s.CanFinish x t := by
  obtain ⟨n, a, hc, hl, hs⟩ := h
  refine ⟨n + 1, a, ?_⟩
  have hrun : s.run x (List.replicate (n + 1) (.advance t)) =
      s.run (s.advance t x) (List.replicate n (.advance t)) := rfl
  rw [hrun, hc, hl, hs, hx]
  exact ⟨rfl, rfl, moved_moved x t g .idle m x.log⟩

theorem canFinish_loading (s : Selector) {x : Scene} {t : Nat} (ht : x.stage t = .loading) :
    s.CanFinish x t := by
  refine CanFinish.cons (by rw [advance, ht]) ?_
  refine s.canFinish_storing (a := handOut x.shared.opened s.openEmbedded.1) ?_
  rw [advance, ht]
  exact x.moved_self t _

theorem canFinish_examining (s : Selector) {x : Scene} {t : Nat} (ht : x.stage t = .examining) :
    s.CanFinish x t := by
  rcases he : s.tryExternal x.file with ⟨db?, e⟩
  cases db? with
  | none =>
      refine CanFinish.cons (by simp only [advance, ht, he]; rfl) ?_
      refine s.canFinish_loading ?_
      simp only [advance, ht, he, Scene.moved_self]
  | some db =>
      refine CanFinish.cons (by simp only [advance, ht, he]; rfl) ?_
      refine s.canFinish_storing (a := handOut x.shared.opened (.ok db)) ?_
      simp only [advance, ht, he, Scene.moved_self]

/-- **A selection that was begun can be completed.** Its holder needs no other thread. -/
theorem canFinish (s : Selector) {x : Scene} {t : Nat} (ht : (x.stage t).selects = true) :
    s.CanFinish x t := by
  cases hg : x.stage t with
  | idle => rw [hg] at ht; cases ht
  | waiting => rw [hg] at ht; cases ht
  | examining => exact s.canFinish_examining hg
  | loading => exact s.canFinish_loading hg
  | storing a => exact s.canFinish_storing hg

theorem Standing.holder_selects {s : Selector} {x : Scene} (h : s.Standing x) {t : Nat}
    (ht : x.shared.holder = some t) : (x.stage t).selects = true := by
  cases h.phase with
  | untouched hm hl => rw [hm] at ht; cases ht
  | settled file hm hl => rw [hm] at ht; cases ht
  | examining u hu hm hl => rw [hm] at ht; cases ht; rw [hu]; rfl
  | loading u file e hu he hm hl => rw [hm] at ht; cases ht; rw [hu]; rfl
  | storing u file hu hm hl => rw [hm] at ht; cases ht; rw [hu]; rfl

/-- A schedule of further steps of threads in their calls, in which a thread gets its answer. -/
def CanAnswer (s : Selector) (x : Scene) (t : Nat) : Prop :=
  ∃ schedule, (∀ b ∈ schedule, ∃ u, b = .advance u) ∧
    ∃ extra a, (s.run x schedule).log = x.log ++ extra ∧ .answered t a ∈ extra

theorem canAnswer_of_cell (s : Selector) {x : Scene} {t : Nat} {a : Answer}
    (ht : x.stage t = .waiting) (hc : x.shared.cell = some a) : s.CanAnswer x t := by
  refine ⟨[.advance t], by simp, [.answered t a], a, ?_, by simp⟩
  simp only [run, List.foldl_cons, List.foldl_nil, step, advance, ht, hc]

/-- What can be answered after steps of a thread in its call can be answered. -/
theorem CanAnswer.after {s : Selector} {x : Scene} {t u n : Nat} {extra : List Observation}
    (hl : (s.run x (List.replicate n (.advance u))).log = x.log ++ extra)
    (h : s.CanAnswer (s.run x (List.replicate n (.advance u))) t) : s.CanAnswer x t := by
  obtain ⟨schedule, hs, more, a, hm, ha⟩ := h
  refine ⟨List.replicate n (.advance u) ++ schedule, ?_, extra ++ more, a, ?_, ?_⟩
  · intro b hb
    rcases List.mem_append.1 hb with hb | hb
    · exact ⟨u, List.eq_of_mem_replicate hb⟩
    · exact hs b hb
  · rw [run_append, hm, hl, List.append_assoc]
  · exact List.mem_append_right _ ha

theorem CanFinish.canAnswer {s : Selector} {x : Scene} {t : Nat} (h : s.CanFinish x t) :
    s.CanAnswer x t := by
  obtain ⟨n, a, -, hl, -⟩ := h
  refine ⟨List.replicate n (.advance t), ?_, [.answered t a], a, hl, by simp⟩
  intro b hb
  exact ⟨t, List.eq_of_mem_replicate hb⟩

/-- **No call waits for ever.** From every standing, each call that is under way can be
completed. -/
theorem Standing.canAnswer {s : Selector} {x : Scene} (h : s.Standing x) {t : Nat}
    (ht : x.stage t ≠ .idle) : s.CanAnswer x t := by
  by_cases hsel : (x.stage t).selects = true
  · exact (s.canFinish hsel).canAnswer
  have hw : x.stage t = .waiting := by
    cases hg : x.stage t with
    | idle => exact absurd hg ht
    | waiting => rfl
    | examining => rw [hg] at hsel; exact absurd rfl hsel
    | loading => rw [hg] at hsel; exact absurd rfl hsel
    | storing a => rw [hg] at hsel; exact absurd rfl hsel
  cases hc : x.shared.cell with
  | some a => exact s.canAnswer_of_cell hw hc
  | none =>
      cases hh : x.shared.holder with
      | some u =>
          obtain ⟨n, a, hcell, hl, hs⟩ := s.canFinish (h.holder_selects hh)
          refine CanAnswer.after hl (s.canAnswer_of_cell ?_ hcell)
          rw [hs, x.moved_of_ne .idle ?_, hw]
          rintro rfl
          exact hsel (h.holder_selects hh)
      | none =>
          -- Nobody selects, so the thread does it itself.
          have hx : s.run x (List.replicate 1 (.advance t)) = s.advance t x := rfl
          have hadv : s.advance t x = { x with
              stage := x.moved t .examining
              shared := { x.shared with
                holder := some t
                selections := x.shared.selections + 1 } } := by
            simp only [advance, hw, hc, hh]
          have hlog : (s.run x (List.replicate 1 (.advance t))).log = x.log ++ [] := by
            rw [hx, hadv, List.append_nil]
          refine CanAnswer.after hlog ?_
          rw [hx]
          refine (s.canFinish ?_).canAnswer
          rw [hadv]
          change (x.moved t .examining t).selects = true
          rw [x.moved_self]
          rfl

/-! ## What the answer is determined by -/

/-- What the state of the file and the embedded database make of an answer. -/
structure Determined (s : Selector) (file : Option Entry) (a : Answer) : Prop where
  external : ∀ db, outcome a = .ok db ∧ db.source = .external s.path ↔ s.OpensExternal file db
  embedded : ∀ db, outcome a = .ok db ∧ db.source = .embedded ↔
    (∀ d, ¬ s.OpensExternal file d) ∧ s.OpensEmbedded db
  failed : (∃ m, a = .error ⟨.databaseInitFailed, m⟩) ↔
    (∀ d, ¬ s.OpensExternal file d) ∧ ∀ d, ¬ s.OpensEmbedded d

theorem handOut_eq_error_iff {n : Nat} {c : Choice} {e : LookupError} :
    handOut n c = .error e ↔ c = .error e := by
  cases c <;> simp [handOut, Except.map]

/-- **The answer is determined by the file found and by the embedded database alone.** -/
theorem determined_answerFor (s : Selector) (file : Option Entry) :
    s.Determined file (s.answerFor file) := by
  constructor
  · intro db
    rw [answerFor, outcome_handOut]
    constructor
    · rintro ⟨hdb, hs⟩
      rcases s.choose_cases file with ⟨d, hd, hc, -⟩ | ⟨d, -, hd, hc⟩ | ⟨m, -, -, hc⟩
      · rw [hc] at hdb
        rwa [← Except.ok.inj hdb]
      · rw [hc] at hdb
        rw [← Except.ok.inj hdb, hd.source] at hs
        cases hs
      · rw [hc] at hdb
        cases hdb
    · intro h
      rcases s.choose_cases file with ⟨d, hd, hc, -⟩ | ⟨d, hno, -⟩ | ⟨m, hno, -⟩
      · rw [hc, hd.unique h]
        exact ⟨rfl, h.source⟩
      · exact absurd h (hno db)
      · exact absurd h (hno db)
  · intro db
    rw [answerFor, outcome_handOut]
    constructor
    · rintro ⟨hdb, hs⟩
      rcases s.choose_cases file with ⟨d, hd, hc, -⟩ | ⟨d, hno, hd, hc⟩ | ⟨m, -, -, hc⟩
      · rw [hc] at hdb
        rw [← Except.ok.inj hdb, hd.source] at hs
        cases hs
      · rw [hc] at hdb
        rw [← Except.ok.inj hdb]
        exact ⟨hno, hd⟩
      · rw [hc] at hdb
        cases hdb
    · rintro ⟨hno, h⟩
      rcases s.choose_cases file with ⟨d, hd, -⟩ | ⟨d, -, hd, hc⟩ | ⟨m, -, hno', -⟩
      · exact absurd hd (hno d)
      · rw [hc, hd.unique h]
        exact ⟨rfl, h.source⟩
      · exact absurd h (hno' db)
  · rw [answerFor]
    constructor
    · rintro ⟨m, hm⟩
      rw [handOut_eq_error_iff] at hm
      rcases s.choose_cases file with ⟨d, -, hc, -⟩ | ⟨d, -, -, hc⟩ | ⟨m', hno, hno', -⟩
      · rw [hc] at hm
        cases hm
      · rw [hc] at hm
        cases hm
      · exact ⟨hno, hno'⟩
    · rintro ⟨hno, hno'⟩
      rcases s.choose_cases file with ⟨d, hd, -⟩ | ⟨d, -, hd, -⟩ | ⟨m, -, -, hc⟩
      · exact absurd hd (hno d)
      · exact absurd hd (hno' d)
      · exact ⟨m, handOut_eq_error_iff.2 hc⟩

/-! ## What can be observed -/

/-- The answer of the first completed call in a log. -/
def firstAnswer? (log : List Observation) : Option Answer := log.findSome? Observation.answer?

theorem Unanswered.firstAnswer? {log : List Observation} (h : Unanswered log) :
    firstAnswer? log = none := by
  refine List.findSome?_eq_none_iff.2 ?_
  intro o ho
  obtain ⟨t, rfl⟩ := h o ho
  rfl

theorem Unanswered.answer_not_mem {log : List Observation} (h : Unanswered log) (a : Answer) :
    a ∉ log.filterMap Observation.answer? := by
  intro ha
  obtain ⟨o, ho, hoa⟩ := List.mem_filterMap.1 ha
  obtain ⟨t, rfl⟩ := h o ho
  cases hoa

/-- After a decision every answer is the one that was decided. -/
theorem Decided.eq_of_mem {a b : Answer} {log : List Observation} (h : Decided a log)
    (hb : b ∈ log.filterMap Observation.answer?) : b = a := by
  obtain ⟨before, t, after, rfl, hbefore, hafter⟩ := h
  obtain ⟨o, ho, hob⟩ := List.mem_filterMap.1 hb
  rcases List.mem_append.1 ho with ho | ho
  · obtain ⟨u, rfl⟩ := hbefore o ho
    cases hob
  · rcases List.mem_cons.1 ho with rfl | ho
    · exact (Option.some.inj hob).symm
    · obtain ⟨u, rfl | rfl⟩ := hafter o ho
      · exact (Option.some.inj hob).symm
      · cases hob

/-- What a thread sees as the source in use is what the first completed call before decides. -/
def ViewsFollow (log : List Observation) : Prop :=
  ∀ before t source after, log = before ++ .viewed t source :: after →
    source = (firstAnswer? before).bind sourceOf?

theorem Unanswered.viewsFollow {log : List Observation} (h : Unanswered log) :
    ViewsFollow log := by
  intro before t source after hlog
  have hbefore : Unanswered before := by
    intro o ho
    exact h o (by rw [hlog]; exact List.mem_append_left _ ho)
  obtain ⟨u, hu⟩ := h (.viewed t source) (by rw [hlog]; simp)
  rw [hbefore.firstAnswer?, (Observation.viewed.inj hu).2]
  rfl

theorem Decided.viewsFollow {a : Answer} {log : List Observation} (h : Decided a log) :
    ViewsFollow log := by
  obtain ⟨first, u, rest, rfl, hfirst, hrest⟩ := h
  intro before t source after hlog
  rcases List.append_eq_append_iff.1 hlog with ⟨more, hbefore, hmore⟩ | ⟨more, hfirst', hmore⟩
  · -- The call was completed before the view.
    cases more with
    | nil => cases hmore
    | cons o more =>
        obtain ⟨rfl, rfl⟩ := List.cons.inj hmore
        have hanswer : firstAnswer? before = some a := by
          rw [hbefore, firstAnswer?, List.findSome?_append]
          rw [show first.findSome? Observation.answer? = none from hfirst.firstAnswer?]
          rfl
        rw [hanswer]
        obtain ⟨v, hv | hv⟩ := hrest (.viewed t source) (by simp)
        · cases hv
        · exact (Observation.viewed.inj hv).2
  · cases more with
    | nil => cases hmore
    | cons o more =>
        obtain ⟨rfl, -⟩ := List.cons.inj hmore
        exact hfirst.viewsFollow before t source more hfirst'

/-- **One selection.** Of a scene: the file was examined and the embedded database asked for at
most once, and not at all for the latter if the file opens. All answers are one answer, which is
the one of a single call on the file as it was found. The source in use is none before the first
completed call and that of its answer afterwards. And whoever is in a call can get an answer. -/
structure SelectedOnce (s : Selector) (x : Scene) : Prop where
  selections_le : x.shared.selections ≤ 1
  found_le : x.shared.found.length ≤ 1
  loads_le : x.shared.loads ≤ 1
  not_loaded : ∀ file ∈ x.shared.found, ∀ db, s.OpensExternal file db → x.shared.loads = 0
  agree : ∀ a ∈ x.answers, ∀ b ∈ x.answers, a = b
  single : ∀ a ∈ x.answers, ∃ file, x.shared.found = [file] ∧ s.Determined file a ∧
    outcome a = (s.get file {}).1 ∧ x.shared.memory = (s.get file {}).2
  views : ViewsFollow x.log
  answerable : ∀ t, x.stage t ≠ .idle → s.CanAnswer x t

/-- While nothing was answered, the counters are all that has to be looked at. -/
theorem Standing.selectedOnce_of_unanswered {s : Selector} {x : Scene} (h : s.Standing x)
    (hl : Unanswered x.log) (hs : x.shared.selections ≤ 1) (hf : x.shared.found.length ≤ 1)
    (hn : x.shared.loads ≤ 1)
    (he : ∀ file ∈ x.shared.found, ∀ db, s.OpensExternal file db → x.shared.loads = 0) :
    s.SelectedOnce x where
  selections_le := hs
  found_le := hf
  loads_le := hn
  not_loaded := he
  agree := fun a ha => absurd ha (hl.answer_not_mem a)
  single := fun a ha => absurd ha (hl.answer_not_mem a)
  views := hl.viewsFollow
  answerable := fun _ ht => h.canAnswer ht

/-- The embedded database is asked for at most once, and not if the external one opens. -/
theorem loads_settled_le (s : Selector) (file : Option Entry) : (s.settled file).loads ≤ 1 := by
  unfold settled
  dsimp only
  split <;> omega

theorem loads_settled_of_external {s : Selector} {file : Option Entry} {db : LocalDatabase}
    (h : s.OpensExternal file db) : (s.settled file).loads = 0 := by
  rcases s.choose_cases file with ⟨d, -, -, hl⟩ | ⟨d, hno, -⟩ | ⟨m, hno, -⟩
  · simp [settled, hl]
  · exact absurd h (hno db)
  · exact absurd h (hno db)

theorem Standing.selectedOnce {s : Selector} {x : Scene} (h : s.Standing x) :
    s.SelectedOnce x := by
  cases h.phase with
  | untouched hm hl =>
      exact h.selectedOnce_of_unanswered hl (by simp [hm]) (by simp [hm]) (by simp [hm])
        (by simp [hm])
  | examining t ht hm hl =>
      exact h.selectedOnce_of_unanswered hl (by simp [hm]) (by simp [hm]) (by simp [hm])
        (by simp [hm])
  | loading t file e ht he hm hl =>
      exact h.selectedOnce_of_unanswered hl (by simp [hm]) (by simp [hm]) (by simp [hm])
        (by simp [hm])
  | storing t file ht hm hl =>
      refine h.selectedOnce_of_unanswered hl ?_ ?_ ?_ ?_
      · rw [hm]
        exact Nat.le_refl 1
      · rw [hm]
        exact Nat.le_refl 1
      · rw [hm]
        exact s.loads_settled_le file
      · intro f hf db hdb
        rw [hm] at hf ⊢
        rw [List.mem_singleton.1 hf] at hdb
        exact loads_settled_of_external hdb
  | settled file hm hl =>
      constructor
      · rw [hm]
        exact Nat.le_refl 1
      · rw [hm]
        exact Nat.le_refl 1
      · rw [hm]
        exact s.loads_settled_le file
      · intro f hf db hdb
        rw [hm] at hf ⊢
        rw [List.mem_singleton.1 hf] at hdb
        exact loads_settled_of_external hdb
      · intro a ha b hb
        rw [hl.eq_of_mem ha, hl.eq_of_mem hb]
      · intro a ha
        rw [hl.eq_of_mem ha]
        refine ⟨file, by rw [hm]; rfl, s.determined_answerFor file, ?_, ?_⟩
        · rw [answerFor, outcome_handOut, get]
        · rw [hm, memory_settled]
      · exact hl.viewsFollow
      · intro t ht
        exact h.canAnswer ht

/-- **Whatever threads do in whatever order, there is one selection**, and its outcome is that of
a single call. -/
theorem selectedOnce_run (s : Selector) (file : Option Entry) (schedule : List Action) :
    s.SelectedOnce (s.run { file := file } schedule) :=
  (standing_run (s.standing_start file) schedule).selectedOnce

end CountryLookup.Selector
