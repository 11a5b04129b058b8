import CountryLookup.Proofs.Selection.Choice

/-!
# Threads that share a selector

Each of any number of threads may ask for the database and for the source in use, as often as it
likes and in any order, and the file at the external path may change between any two of their
steps. A run is a schedule: a list of actions, each of which lets one thread call, go on or look,
or lets the file change. The scheduler is free, so what holds of all schedules holds of all
interleavings.

The outcome lies in a cell that is filled once. A thread that finds it empty and free becomes its
holder and selects: it examines the file, asks for the embedded database if the file is no use,
and stores the outcome. Threads that come meanwhile wait. An action that its thread cannot carry
out now, such as going on while it has to wait, changes nothing.

A call counts as completed in the step that fills the cell or reads it, for from then on its
outcome can be seen. An opened database is shared by a handle with a serial number of its own, so
that equal handles are one pointer and not two databases with equal bytes.

## Main results

* `standing_step`, `standing_run` — whatever threads do, the one selection is in one of five
  phases, and only the holder of the cell is selecting.
* `memory_settled` — what is remembered after a selection is what a single call leaves behind.
-/

namespace CountryLookup.Selector

/-! ## What threads share -/

/-- A shared pointer to an open database; each database that is opened gets the next serial
number. -/
structure Handle where
  serial : Nat
  database : LocalDatabase

/-- What a thread gets when it asks for the database. -/
abbrev Answer := Except LookupError Handle

/-- An outcome with its database behind a handle. -/
def handOut (serial : Nat) (c : Choice) : Answer := c.map fun db => ⟨serial, db⟩

/-- The outcome that an answer hands out. -/
def outcome (a : Answer) : Choice := a.map Handle.database

/-- The source that an answer makes visible. -/
def sourceOf? : Answer → Option DatabaseSource
  | .ok h => some h.database.source
  | .error _ => none

/-- What threads share: the cell and the thread that is filling it, how many selections were
begun, how often the embedded database was asked for, how many databases were opened, what was
told, and the states of the file that selections examined. -/
structure Shared where
  cell : Option Answer := none
  holder : Option Nat := none
  selections : Nat := 0
  loads : Nat := 0
  opened : Nat := 0
  events : List Event := []
  found : List (Option Entry) := []

/-- What the selector remembers. -/
def Shared.memory (m : Shared) : SelectorState := ⟨m.cell.map outcome, m.loads, m.events⟩

/-! ## Threads and schedules -/

/-- Where a thread stands in its call. -/
inductive Stage where
  /-- In no call. -/
  | idle
  /-- Has asked for the database. -/
  | waiting
  /-- Holds the cell and examines the file next. -/
  | examining
  /-- Holds the cell and asks for the embedded database next. -/
  | loading
  /-- Holds the cell and fills it next. -/
  | storing (a : Answer)

/-- Whether a thread at this stage runs the selection. -/
def Stage.selects : Stage → Bool
  | idle => false
  | waiting => false
  | _ => true

/-- What a thread learns: the answer of a call, or the source in use. -/
inductive Observation where
  | answered (t : Nat) (a : Answer)
  | viewed (t : Nat) (source : Option DatabaseSource)

/-- The answer that was observed, if it was one. -/
def Observation.answer? : Observation → Option Answer
  | answered _ a => some a
  | viewed _ _ => none

/-- All threads, what they share and what they have observed so far, and the file. -/
structure Scene where
  file : Option Entry
  shared : Shared := {}
  stage : Nat → Stage := fun _ => .idle
  log : List Observation := []

/-- What the scheduler decides. -/
inductive Action where
  /-- A thread calls for the database. -/
  | call (t : Nat)
  /-- A thread goes on in its call. -/
  | advance (t : Nat)
  /-- A thread asks for the source in use, which never waits. -/
  | view (t : Nat)
  /-- Something else comes to stand at the external path. -/
  | change (file : Option Entry)

namespace Scene

/-- The answers of completed calls, in order. -/
def answers (x : Scene) : List Answer := x.log.filterMap Observation.answer?

/-- The stages of threads with that of one thread changed. -/
def moved (x : Scene) (t : Nat) (g : Stage) : Nat → Stage := fun u => if u = t then g else x.stage u

@[simp] theorem moved_self (x : Scene) (t : Nat) (g : Stage) : x.moved t g t = g := by
  simp [moved]

theorem moved_of_ne (x : Scene) {t u : Nat} (g : Stage) (h : u ≠ t) :
    x.moved t g u = x.stage u := by
  simp [moved, h]

end Scene

/-- One step of a thread in its call. -/
def advance (s : Selector) (t : Nat) (x : Scene) : Scene :=
  match x.stage t with
  | .idle => x
  | .waiting =>
    match x.shared.cell, x.shared.holder with
    | some a, _ => { x with stage := x.moved t .idle, log := x.log ++ [.answered t a] }
    | none, some _ => x
    | none, none =>
      { x with
        stage := x.moved t .examining
        shared := { x.shared with
          holder := some t
          selections := x.shared.selections + 1 } }
  | .examining =>
    match s.tryExternal x.file with
    | (some db, e) =>
      { x with
        stage := x.moved t (.storing (handOut x.shared.opened (.ok db)))
        shared := { x.shared with
          opened := x.shared.opened + 1
          events := x.shared.events ++ [e]
          found := x.shared.found ++ [x.file] } }
    | (none, e) =>
      { x with
        stage := x.moved t .loading
        shared := { x.shared with
          events := x.shared.events ++ [e]
          found := x.shared.found ++ [x.file] } }
  | .loading =>
    { x with
      stage := x.moved t (.storing (handOut x.shared.opened s.openEmbedded.1))
      shared := { x.shared with
        loads := x.shared.loads + 1
        opened := x.shared.opened + 1
        events := x.shared.events ++ [s.openEmbedded.2] } }
  | .storing a =>
    { x with
      stage := x.moved t .idle
      shared := { x.shared with cell := some a, holder := none }
      log := x.log ++ [.answered t a] }

/-- What an action makes of a scene. -/
def step (s : Selector) (x : Scene) : Action → Scene
  | .call t =>
    match x.stage t with
    | .idle => { x with stage := x.moved t .waiting }
    | _ => x
  | .advance t => s.advance t x
  | .view t =>
    match x.stage t with
    | .idle => { x with log := x.log ++ [.viewed t (activeSource x.shared.memory)] }
    | _ => x
  | .change file => { x with file := file }

/-- What a schedule makes of a scene. -/
def run (s : Selector) (x : Scene) (schedule : List Action) : Scene := schedule.foldl s.step x

theorem run_append (s : Selector) (x : Scene) (before after : List Action) :
    s.run x (before ++ after) = s.run (s.run x before) after :=
  List.foldl_append

/-! ## What a selection comes to -/

/-- The answer of a selection that finds the file in a given state. -/
def answerFor (s : Selector) (file : Option Entry) : Answer := handOut 0 (s.choose file).1

/-- What threads share after a selection that found the file in a given state. -/
def settled (s : Selector) (file : Option Entry) : Shared where
  cell := some (s.answerFor file)
  selections := 1
  loads := if (s.choose file).2.1 then 1 else 0
  opened := 1
  events := (s.choose file).2.2
  found := [file]

@[simp] theorem outcome_handOut (n : Nat) (c : Choice) : outcome (handOut n c) = c := by
  cases c <;> rfl

/-- The memory after a selection is the one that a single call leaves behind. -/
theorem memory_settled (s : Selector) (file : Option Entry) :
    (s.settled file).memory = (s.get file {}).2 := by
  simp [settled, Shared.memory, answerFor, get]

/-- The source in use is the one that the answer in the cell makes visible. -/
theorem activeSource_of_cell {m : Shared} {a : Answer} (h : m.cell = some a) :
    activeSource m.memory = sourceOf? a := by
  cases a <;> simp [activeSource, Shared.memory, h, outcome, sourceOf?, Except.map]

theorem activeSource_of_empty {m : Shared} (h : m.cell = none) :
    activeSource m.memory = none := by
  simp [activeSource, Shared.memory, h]

/-! ## Where a run can stand -/

/-- No call was completed, and nobody has seen a source. -/
def Unanswered (log : List Observation) : Prop := ∀ o ∈ log, ∃ t, o = .viewed t none

/-- An observation that agrees with an answer. -/
def Agrees (a : Answer) (o : Observation) : Prop :=
  ∃ t, o = .answered t a ∨ o = .viewed t (sourceOf? a)

/-- From the first completed call on, everything observed agrees with its answer. -/
def Decided (a : Answer) (log : List Observation) : Prop :=
  ∃ before t after, log = before ++ .answered t a :: after ∧ Unanswered before ∧
    ∀ o ∈ after, Agrees a o

/-- How far the one selection has come, and what threads share and have observed then. -/
inductive Phase (s : Selector) (x : Scene) : Prop where
  | untouched (hm : x.shared = {}) (hl : Unanswered x.log)
  | examining (t : Nat) (ht : x.stage t = .examining)
      (hm : x.shared = { holder := some t, selections := 1 }) (hl : Unanswered x.log)
  | loading (t : Nat) (file : Option Entry) (e : Event) (ht : x.stage t = .loading)
      (he : s.tryExternal file = (none, e))
      (hm : x.shared =
        { holder := some t, selections := 1, events := [e], found := [file] })
      (hl : Unanswered x.log)
  | storing (t : Nat) (file : Option Entry) (ht : x.stage t = .storing (s.answerFor file))
      (hm : x.shared = { s.settled file with cell := none, holder := some t })
      (hl : Unanswered x.log)
  | settled (file : Option Entry) (hm : x.shared = s.settled file)
      (hl : Decided (s.answerFor file) x.log)

/-- **The invariant.** Only the holder selects, and the scene is in one of the phases. -/
structure Standing (s : Selector) (x : Scene) : Prop where
  held : ∀ t, (x.stage t).selects = true → x.shared.holder = some t
  phase : s.Phase x

theorem standing_start (s : Selector) (file : Option Entry) : s.Standing { file := file } where
  held t h := by cases h
  phase := .untouched rfl (by intro o ho; cases ho)

/-- What is observed before the first completed call is that there is no source. -/
theorem Unanswered.append {log : List Observation} (h : Unanswered log) (t : Nat) :
    Unanswered (log ++ [.viewed t none]) := by
  intro o ho
  rcases List.mem_append.1 ho with ho | ho
  · exact h o ho
  · exact ⟨t, by simpa using ho⟩

theorem Unanswered.decided {log : List Observation} (h : Unanswered log) (t : Nat) (a : Answer) :
    Decided a (log ++ [.answered t a]) :=
  ⟨log, t, [], rfl, h, by intro o ho; cases ho⟩

theorem Decided.append {a : Answer} {log : List Observation} (h : Decided a log) {o : Observation}
    (ho : Agrees a o) : Decided a (log ++ [o]) := by
  obtain ⟨before, t, after, rfl, hb, ha⟩ := h
  refine ⟨before, t, after ++ [o], by simp, hb, ?_⟩
  intro o' ho'
  rcases List.mem_append.1 ho' with ho' | ho'
  · exact ha o' ho'
  · rw [List.mem_singleton.1 ho']
    exact ho

/-! ## Every step keeps the standing -/

/-- A thread that moves between stages outside the selection moves nothing else. -/
theorem Standing.move {s : Selector} {x : Scene} (h : s.Standing x) {t : Nat} {g : Stage}
    (ht : (x.stage t).selects = false) (hg : g.selects = false) :
    s.Standing { x with stage := x.moved t g } := by
  have hstage : ∀ u, (x.stage u).selects = true → x.moved t g u = x.stage u := by
    intro u hu
    refine x.moved_of_ne g ?_
    rintro rfl
    rw [ht] at hu
    cases hu
  constructor
  · intro u hu
    change (x.moved t g u).selects = true at hu
    by_cases hut : u = t
    · subst hut
      rw [x.moved_self, hg] at hu
      cases hu
    · rw [x.moved_of_ne g hut] at hu
      exact h.held u hu
  · cases h.phase with
    | untouched hm hl => exact .untouched hm hl
    | examining u hu hm hl =>
        exact .examining u ((hstage u (by rw [hu]; rfl)).trans hu) hm hl
    | loading u file e hu he hm hl =>
        exact .loading u file e ((hstage u (by rw [hu]; rfl)).trans hu) he hm hl
    | storing u file hu hm hl =>
        exact .storing u file ((hstage u (by rw [hu]; rfl)).trans hu) hm hl
    | settled file hm hl => exact .settled file hm hl

/-- While one thread holds the cell, no other selects, whatever the holder does. -/
theorem Standing.eq_holder {s : Selector} {x : Scene} (h : s.Standing x) {t : Nat}
    (ht : x.shared.holder = some t) (g : Stage) {u : Nat} (hu : (x.moved t g u).selects = true) :
    u = t := by
  by_cases hut : u = t
  · exact hut
  · rw [x.moved_of_ne g hut] at hu
    have hu' := h.held u hu
    rw [ht] at hu'
    exact (Option.some.inj hu').symm

/-- Nobody selects while the cell has no holder. -/
theorem Standing.not_selects {s : Selector} {x : Scene} (h : s.Standing x)
    (hn : x.shared.holder = none) (t : Nat) : (x.stage t).selects = false := by
  cases hs : (x.stage t).selects with
  | false => rfl
  | true =>
      have ht := h.held t hs
      rw [hn] at ht
      cases ht

/-- A thread that waits takes the cell, stays where it is, or gets the answer in the cell. -/
theorem standing_advance_waiting {s : Selector} {x : Scene} (h : s.Standing x) {t : Nat}
    (ht : x.stage t = .waiting) : s.Standing (s.advance t x) := by
  have hsel : (x.stage t).selects = false := by rw [ht]; rfl
  rw [advance, ht]
  cases h.phase with
  | untouched hm hl =>
      simp only [hm]
      constructor
      · intro u hu
        change (x.moved t .examining u).selects = true at hu
        by_cases hut : u = t
        · rw [hut]
        · rw [x.moved_of_ne _ hut] at hu
          rw [h.not_selects (by rw [hm]) u] at hu
          cases hu
      · exact .examining t (x.moved_self t _) rfl hl
  | examining u hu hm hl => simpa only [hm] using h
  | loading u file e hu he hm hl => simpa only [hm] using h
  | storing u file hu hm hl => simpa only [hm] using h
  | settled file hm hl =>
      have hmoved := h.move (t := t) (g := .idle) hsel rfl
      have hcell : x.shared.cell = some (s.answerFor file) := by rw [hm]; rfl
      simp only [hcell]
      exact ⟨hmoved.held, .settled file hm (hl.append ⟨t, .inl rfl⟩)⟩

/-- A thread that selects is the one that the phase is about. -/
theorem Standing.selecting {s : Selector} {x : Scene} (h : s.Standing x) {t : Nat}
    (ht : (x.stage t).selects = true) :
    (x.stage t = .examining ∧ x.shared = { holder := some t, selections := 1 }) ∨
    (∃ file e, x.stage t = .loading ∧ s.tryExternal file = (none, e) ∧
      x.shared = { holder := some t, selections := 1, events := [e], found := [file] }) ∨
    (∃ file, x.stage t = .storing (s.answerFor file) ∧
      x.shared = { s.settled file with cell := none, holder := some t }) := by
  have hholder := h.held t ht
  cases h.phase with
  | untouched hm hl => rw [hm] at hholder; cases hholder
  | settled file hm hl => rw [hm] at hholder; cases hholder
  | examining u hu hm hl =>
      have hut : u = t := by rw [hm] at hholder; exact Option.some.inj hholder
      subst hut
      exact .inl ⟨hu, hm⟩
  | loading u file e hu he hm hl =>
      have hut : u = t := by rw [hm] at hholder; exact Option.some.inj hholder
      subst hut
      exact .inr (.inl ⟨file, e, hu, he, hm⟩)
  | storing u file hu hm hl =>
      have hut : u = t := by rw [hm] at hholder; exact Option.some.inj hholder
      subst hut
      exact .inr (.inr ⟨file, hu, hm⟩)

/-- Nothing was answered while a thread selects. -/
theorem Standing.unanswered {s : Selector} {x : Scene} (h : s.Standing x)
    (hc : x.shared.cell = none) : Unanswered x.log := by
  cases h.phase with
  | untouched hm hl => exact hl
  | examining u hu hm hl => exact hl
  | loading u file e hu he hm hl => exact hl
  | storing u file hu hm hl => exact hl
  | settled file hm hl => rw [hm] at hc; cases hc

/-- The holder of the cell that examines the file finds it of use, or has to load. -/
theorem standing_advance_examining {s : Selector} {x : Scene} (h : s.Standing x) {t : Nat}
    (ht : x.stage t = .examining) : s.Standing (s.advance t x) := by
  rcases h.selecting (t := t) (by rw [ht]; rfl) with
    ⟨-, hm⟩ | ⟨file, e, ht', -⟩ | ⟨file, ht', -⟩
  · have hl := h.unanswered (by rw [hm])
    rw [advance, ht]
    rcases he : s.tryExternal x.file with ⟨db?, e⟩
    cases db? with
    | none =>
        constructor
        · intro u hu
          rw [h.eq_holder (by rw [hm]) _ hu, hm]
        · exact .loading t x.file e (x.moved_self t _) he (by simp only [hm, List.nil_append]) hl
    | some db =>
        have hc := s.choose_of_external he
        constructor
        · intro u hu
          rw [h.eq_holder (by rw [hm]) _ hu, hm]
        · refine .storing t x.file ?_ ?_ hl
          · rw [answerFor, hc, hm]
            exact x.moved_self t _
          · simp [hm, settled, hc]
  · rw [ht] at ht'; cases ht'
  · rw [ht] at ht'; cases ht'

/-- The holder of the cell that loads has an outcome, whatever it is. -/
theorem standing_advance_loading {s : Selector} {x : Scene} (h : s.Standing x) {t : Nat}
    (ht : x.stage t = .loading) : s.Standing (s.advance t x) := by
  rcases h.selecting (t := t) (by rw [ht]; rfl) with
    ⟨ht', -⟩ | ⟨file, e, -, he, hm⟩ | ⟨file, ht', -⟩
  · rw [ht] at ht'; cases ht'
  · have hl := h.unanswered (by rw [hm])
    have hc := s.choose_of_no_external he
    rw [advance, ht]
    constructor
    · intro u hu
      rw [h.eq_holder (by rw [hm]) _ hu, hm]
    · refine .storing t file ?_ ?_ hl
      · rw [answerFor, hc, hm]
        exact x.moved_self t _
      · simp [hm, settled, hc]
  · rw [ht] at ht'; cases ht'

/-- The holder of the cell that stores settles what everyone gets. -/
theorem standing_advance_storing {s : Selector} {x : Scene} (h : s.Standing x) {t : Nat}
    {a : Answer} (ht : x.stage t = .storing a) : s.Standing (s.advance t x) := by
  rcases h.selecting (t := t) (by rw [ht]; rfl) with
    ⟨ht', -⟩ | ⟨file, e, ht', -⟩ | ⟨file, ht', hm⟩
  · rw [ht] at ht'; cases ht'
  · rw [ht] at ht'; cases ht'
  · have ha : a = s.answerFor file := by rw [ht] at ht'; exact Stage.storing.inj ht'
    subst ha
    have hl := h.unanswered (by rw [hm])
    rw [advance, ht]
    constructor
    · intro u hu
      have hut := h.eq_holder (by rw [hm]) .idle hu
      subst hut
      change (x.moved u .idle u).selects = true at hu
      rw [x.moved_self] at hu
      cases hu
    · exact .settled file (by simp [hm, settled]) (hl.decided t _)

/-- **Step.** Every action keeps the standing. -/
theorem standing_step {s : Selector} {x : Scene} (h : s.Standing x) (a : Action) :
    s.Standing (s.step x a) := by
  cases a with
  | call t =>
      rw [step]
      cases ht : x.stage t with
      | idle => exact h.move (by rw [ht]; rfl) rfl
      | waiting => exact h
      | examining => exact h
      | loading => exact h
      | storing a => exact h
  | advance t =>
      change s.Standing (s.advance t x)
      cases ht : x.stage t with
      | idle =>
          rw [advance, ht]
          exact h
      | waiting => exact standing_advance_waiting h ht
      | examining => exact standing_advance_examining h ht
      | loading => exact standing_advance_loading h ht
      | storing a => exact standing_advance_storing h ht
  | view t =>
      rw [step]
      split
      · refine ⟨h.held, ?_⟩
        -- Before the cell is filled there is no source to see, and afterwards it is the answer's.
        cases h.phase with
        | untouched hm hl =>
            rw [activeSource_of_empty (by rw [hm])]
            exact .untouched hm (hl.append t)
        | examining u hu hm hl =>
            rw [activeSource_of_empty (by rw [hm])]
            exact .examining u hu hm (hl.append t)
        | loading u file e hu he hm hl =>
            rw [activeSource_of_empty (by rw [hm])]
            exact .loading u file e hu he hm (hl.append t)
        | storing u file hu hm hl =>
            rw [activeSource_of_empty (by rw [hm])]
            exact .storing u file hu hm (hl.append t)
        | settled file hm hl =>
            rw [activeSource_of_cell (a := s.answerFor file) (by rw [hm]; rfl)]
            exact .settled file hm (hl.append ⟨t, .inr rfl⟩)
      · exact h
  | change file =>
      refine ⟨h.held, ?_⟩
      cases h.phase with
      | untouched hm hl => exact .untouched hm hl
      | examining u hu hm hl => exact .examining u hu hm hl
      | loading u file e hu he hm hl => exact .loading u file e hu he hm hl
      | storing u file hu hm hl => exact .storing u file hu hm hl
      | settled file hm hl => exact .settled file hm hl

/-- **Run.** Every schedule keeps the standing. -/
theorem standing_run {s : Selector} {x : Scene} (h : s.Standing x) (schedule : List Action) :
    s.Standing (s.run x schedule) := by
  induction schedule generalizing x with
  | nil => exact h
  | cons a schedule ih => exact ih (standing_step h a)

end CountryLookup.Selector
