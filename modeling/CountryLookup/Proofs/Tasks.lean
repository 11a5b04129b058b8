import CountryLookup.Proofs.Tiers

/-!
# Lookups in tasks of their own

A lookup can run in a task of its own. If the call of the remote service breaks off, the lookup
breaks off with it, but the task contains that and reports a failure. Until then the lookup has only
asked, so nothing but the question is left of it: the local database is chosen or not, as it was
before.

Later answers follow from what the selector remembers and from the number of questions that were
asked, and from nothing else. So they are those of a resolver whose service never had the question
that broke off, while the questions after it keep their answers.

## Main results

* `parallel_lookup` — a lookup depends on the selector and on what the service says, and adds to the
  rest of the state.
* `Besides.actAll` — later answers are those without the question that broke off.
* `lookupInTask_isolates` — a task is the lookup, but that it contains a call that breaks off.
-/

namespace CountryLookup

/-- The service without its `n`-th question; those after it come one earlier. -/
def Remote.without (m : Remote) (n : Nat) : Remote :=
  { m with call := fun k x => m.call (if k < n then k else k + 1) x }

/-- The state in which more addresses were asked for and more was told. -/
def ResolverState.advance (st : ResolverState) (xs : List Address) (s : SelectorState)
    (es : List Event) : ResolverState := ⟨st.asked ++ xs, s, st.events ++ es⟩

@[simp] theorem ResolverState.advance_advance (st : ResolverState) (xs ys : List Address)
    (s t : SelectorState) (es ds : List Event) :
    (st.advance xs s es).advance ys t ds = st.advance (xs ++ ys) t (es ++ ds) := by
  simp [advance]

@[simp] theorem ResolverState.advance_nil (st : ResolverState) (s : SelectorState)
    (es : List Event) :
    st.advance [] s es = { st with selection := s, events := st.events ++ es } := by
  simp [advance]

namespace Resolver

/-- The resolver whose service never has its `n`-th question. -/
def without (r : Resolver) (n : Nat) : Resolver := { r with remote := r.remote.map (·.without n) }

/-! ## Moves -/

/-- What can be asked of a resolver: a call, or the code of an address in a task of its own. -/
inductive Move where
  | call (c : Call)
  | task (file : Option Entry) (x : Address)

/-- The answer to one move, and the state after it. -/
def act (r : Resolver) (m : Move) (st : ResolverState) : Response × ResolverState :=
  match m with
  | .call c => r.answer c st
  | .task file x =>
    (.code (.returns (r.lookupInTask file x st).1), (r.lookupInTask file x st).2)

/-- The answers to moves one after the other, and the state in the end. -/
def actAll (r : Resolver) : List Move → ResolverState → List Response × ResolverState
  | [], st => ([], st)
  | m :: ms, st => ((r.act m st).1 :: (actAll r ms (r.act m st).2).1, (actAll r ms (r.act m st).2).2)

/-- The service breaks off at its `n`-th question. -/
def Breaks (r : Resolver) (n : Nat) (x : Address) : Prop :=
  ∃ m, r.remote = some m ∧ m.call n x = .breaks

/-- Two operations, each from its own state, have one result and add the same to their states. -/
def Parallel {α : Type} (u v : ResolverState) (p q : α × ResolverState) : Prop :=
  p.1 = q.1 ∧ ∃ xs s es, p.2 = u.advance xs s es ∧ q.2 = v.advance xs s es

section Parallel

variable {α : Type} {u v : ResolverState}

theorem Parallel.still (a : α) (h : u.selection = v.selection) : Parallel u v (a, u) (a, v) := by
  refine ⟨rfl, [], u.selection, [], ?_, ?_⟩
  · simp
  · simp [h]

/-- The result may be put into other words. -/
theorem Parallel.map {β : Type} {p q : α × ResolverState} (h : Parallel u v p q) (f : α → β) :
    Parallel u v (f p.1, p.2) (f q.1, q.2) := ⟨congrArg f h.1, h.2⟩

/-- What was added before belongs to what is added. -/
theorem Parallel.of_advance {p q : α × ResolverState} {xs : List Address} {s : SelectorState}
    {es : List Event} (h : Parallel (u.advance xs s es) (v.advance xs s es) p q) :
    Parallel u v p q := by
  obtain ⟨hresult, ys, t, ds, hp, hq⟩ := h
  refine ⟨hresult, xs ++ ys, t, es ++ ds, ?_, ?_⟩
  · rw [hp, ResolverState.advance_advance]
  · rw [hq, ResolverState.advance_advance]

/-- Choosing the database depends on what the selector remembers. -/
theorem parallel_database (r : Resolver) (file : Option Entry) (h : u.selection = v.selection) :
    Parallel u v (r.database file u) (r.database file v) := by
  refine ⟨?_, [], (r.selector.get file v.selection).2,
    (r.selector.get file v.selection).2.events.drop v.selection.events.length, ?_, ?_⟩
  · rw [database, database, h]
  · rw [database, h, ResolverState.advance_nil]
  · rw [database, ResolverState.advance_nil]

/-- So does looking up locally. -/
theorem parallel_lookupLocal (r : Resolver) (file : Option Entry) (x : Address)
    (h : u.selection = v.selection) :
    Parallel u v (r.lookupLocal file x u) (r.lookupLocal file x v) := by
  obtain ⟨hchoice, xs, s, es, hu, hv⟩ := r.parallel_database file h
  unfold lookupLocal
  rcases hdu : r.database file u with ⟨choice, u'⟩
  rcases hdv : r.database file v with ⟨choice', v'⟩
  rw [hdu, hdv] at hchoice
  rw [hdu] at hu
  rw [hdv] at hv
  obtain rfl : choice = choice' := hchoice
  subst hu hv
  cases choice with
  | error e => exact ⟨rfl, xs, s, es, rfl, rfl⟩
  | ok db =>
      dsimp only
      cases db.lookupRecord x with
      | error e => exact ⟨rfl, xs, s, es, rfl, rfl⟩
      | ok record =>
          refine ⟨rfl, xs, s, es ++ [⟨.trace, .database,
            "Local lookup for " ++ x.render ++ ": " ++ record.debug⟩], ?_, ?_⟩
          · simp [ResolverState.advance]
          · simp [ResolverState.advance]

/-- **A lookup depends on what the selector remembers and on what the service says.** -/
theorem parallel_lookup (r : Resolver) {n : Nat} (file : Option Entry) (x : Address)
    (h : u.selection = v.selection)
    (hcall : ∀ m, r.remote = some m →
      (m.without n).call u.asked.length x = m.call v.asked.length x) :
    Parallel u v ((r.without n).lookup file x u) (r.lookup file x v) := by
  have hlocal : ∀ u, (r.without n).lookupLocal file x u = r.lookupLocal file x u := fun _ => rfl
  unfold lookup
  cases hm : r.remote with
  | none =>
      have hnone : (r.without n).remote = none := by rw [without, hm]; rfl
      rw [hnone]
      dsimp only
      rw [hlocal]
      exact (r.parallel_lookupLocal file x h).map CallOutcome.returns
  | some m =>
      have hsome : (r.without n).remote = some (m.without n) := by rw [without, hm]; rfl
      rw [hsome]
      dsimp only
      rw [hcall m hm]
      cases m.call v.asked.length x with
      | breaks => exact ⟨rfl, [x], u.selection, m.tells x, rfl, by rw [h]; rfl⟩
      | returns outcome =>
          have hname : (m.without n).name = m.name := rfl
          dsimp only
          rw [hname]
          rcases judge m.name x outcome with ⟨code, e⟩
          have htold : ∀ w : ResolverState,
              { asking m x w with events := (asking m x w).events ++ [e] } =
                w.advance [x] w.selection (m.tells x ++ [e]) := by
            intro w
            simp [asking, ResolverState.advance]
          have hasking : asking (m.without n) x u = asking m x u := rfl
          dsimp only
          rw [hasking, htold u, htold v, h]
          cases code with
          | some code => exact ⟨rfl, [x], v.selection, m.tells x ++ [e], rfl, rfl⟩
          | none =>
              dsimp only
              rw [hlocal]
              have hselection : (u.advance [x] v.selection (m.tells x ++ [e])).selection =
                  (v.advance [x] v.selection (m.tells x ++ [e])).selection := rfl
              exact ((r.parallel_lookupLocal file x hselection).map CallOutcome.returns).of_advance

end Parallel

/-! ## Without the question that broke off -/

/-- **The invariant.** Both states come after `st`, one of them with and one without the question
for `x` that broke off: they are the same, but for that question and what was told before it. -/
structure Besides (st : ResolverState) (m : Remote) (x : Address) (u v : ResolverState) : Prop where
  asked : ∃ xs, u.asked = st.asked ++ xs ∧ v.asked = st.asked ++ x :: xs
  selection : u.selection = v.selection
  events : ∃ es, u.events = st.events ++ es ∧ v.events = st.events ++ m.tells x ++ es

namespace Besides

variable {r : Resolver} {st u v : ResolverState} {m : Remote} {x : Address}

theorem of_parallel {α : Type} {p q : α × ResolverState} (h : Besides st m x u v)
    (hpq : Parallel u v p q) : Besides st m x p.2 q.2 := by
  obtain ⟨-, ys, s, ds, hp, hq⟩ := hpq
  obtain ⟨xs, hu, hv⟩ := h.asked
  obtain ⟨es, hu', hv'⟩ := h.events
  rw [hp, hq]
  refine ⟨⟨xs ++ ys, ?_, ?_⟩, rfl, ⟨es ++ ds, ?_, ?_⟩⟩
  · simp [ResolverState.advance, hu]
  · simp [ResolverState.advance, hv]
  · simp [ResolverState.advance, hu']
  · simp [ResolverState.advance, hv']

/-- The service says the same to the next question. -/
theorem call_eq (h : Besides st m x u v) (y : Address) :
    (m.without st.asked.length).call u.asked.length y = m.call v.asked.length y := by
  obtain ⟨xs, hu, hv⟩ := h.asked
  have hlater : ¬ st.asked.length + xs.length < st.asked.length := by omega
  have hnext : st.asked.length + xs.length + 1 = st.asked.length + (xs.length + 1) := by omega
  rw [hu, hv, Remote.without]
  dsimp only
  rw [List.length_append, List.length_append, List.length_cons, if_neg hlater, hnext]

section Moves

variable (hm : r.remote = some m)
include hm

theorem lookup (h : Besides st m x u v) (file : Option Entry) (y : Address) :
    Parallel u v ((r.without st.asked.length).lookup file y u) (r.lookup file y v) := by
  refine r.parallel_lookup file y h.selection ?_
  intro m' hm'
  obtain rfl : m = m' := Option.some.inj (hm.symm.trans hm')
  exact h.call_eq y

/-- **Step.** A move has the same answer. -/
theorem act (h : Besides st m x u v) (move : Move) :
    Parallel u v ((r.without st.asked.length).act move u) (r.act move v) := by
  cases move with
  | task file y =>
      exact (h.lookup hm file y).map fun outcome => Response.code (.returns outcome.contained)
  | call c =>
      unfold Resolver.act
      dsimp only
      cases hs : c.request.subject? with
      | none =>
          rw [answer_of_database _ _ hs, answer_of_database _ _ hs]
          exact (r.parallel_database c.file h.selection).map Response.database
      | some subject =>
          cases subject with
          | error e =>
              rw [answer_of_error _ _ hs, answer_of_error _ _ hs]
              exact .still _ h.selection
          | ok y =>
              rw [answer_of_address _ _ hs, answer_of_address _ _ hs]
              exact (h.lookup hm c.file y).map Response.code

/-- **Run.** All later answers are those without the question that broke off. -/
theorem actAll (h : Besides st m x u v) (moves : List Move) :
    (r.actAll moves v).1 = ((r.without st.asked.length).actAll moves u).1 ∧
      Besides st m x ((r.without st.asked.length).actAll moves u).2 (r.actAll moves v).2 := by
  induction moves generalizing u v with
  | nil => exact ⟨rfl, h⟩
  | cons move moves ih =>
      have hstep := h.act hm move
      obtain ⟨hrest, hlast⟩ := ih (h.of_parallel hstep)
      refine ⟨?_, hlast⟩
      rw [Resolver.actAll, Resolver.actAll, hrest, hstep.1]

end Moves

end Besides

/-! ## How moves fail -/

/-- **The invariant.** What the selector remembers, if anything, is a choice for some file. -/
def Remembers (r : Resolver) (st : ResolverState) : Prop :=
  ∃ need, st.selection = r.remembered need

section Failures

variable {r : Resolver} {st : ResolverState}

/-- Asking the selector gives a choice for some file, which is then remembered. -/
theorem Remembers.get (h : r.Remembers st) (file : Option Entry) :
    ∃ first, r.selector.get file st.selection =
      ((r.selector.choose first).1, r.remembered (some first)) := by
  obtain ⟨need, hneed⟩ := h
  exact ⟨need.getD file, by rw [hneed, get_remembered]⟩

/-- **The ways of a lookup.** The service breaks off; or its code is the result; or the database
decides. -/
theorem lookup_cases (r : Resolver) (file : Option Entry) (x : Address) (st : ResolverState) :
    (∃ m, r.remote = some m ∧ m.call st.asked.length x = .breaks ∧
      r.lookup file x st = (.breaks, asking m x st)) ∨
    ¬ r.Breaks st.asked.length x ∧
      ((∃ code, (r.lookup file x st).1 = .returns (.ok code) ∧
        (r.lookup file x st).2.selection = st.selection) ∨
      ((r.lookup file x st).1 = .returns (codeIn (r.selector.get file st.selection).1 x) ∧
        (r.lookup file x st).2.selection = (r.selector.get file st.selection).2)) := by
  by_cases hbreaks : r.Breaks st.asked.length x
  · obtain ⟨m, hm, hc⟩ := hbreaks
    exact .inl ⟨m, hm, hc, r.lookup_of_breaks hm file x st hc⟩
  · refine .inr ⟨hbreaks, ?_⟩
    cases hf : r.firstTier? st.asked.length x with
    | some code =>
        obtain ⟨hresult, hselection, -⟩ := r.lookup_of_firstTier file x st hf
        exact .inl ⟨code, hresult, hselection⟩
    | none =>
        have hreturns : ∀ m, r.remote = some m → ∃ a, m.call st.asked.length x = .returns a := by
          intro m hm
          cases hc : m.call st.asked.length x with
          | returns a => exact ⟨a, rfl⟩
          | breaks => exact absurd ⟨m, hm, hc⟩ hbreaks
        obtain ⟨hresult, hselection, -⟩ := r.lookup_of_silence file x st hreturns hf
        exact .inr ⟨hresult, hselection⟩

theorem Remembers.lookup (h : r.Remembers st) (file : Option Entry) (x : Address) :
    r.Remembers (r.lookup file x st).2 := by
  rcases r.lookup_cases file x st with ⟨m, -, -, hbreaks⟩ | ⟨-, ⟨_, -, hsame⟩ | ⟨-, hget⟩⟩
  · rw [hbreaks]
    exact h
  · obtain ⟨need, hneed⟩ := h
    exact ⟨need, hsame.trans hneed⟩
  · obtain ⟨first, hfirst⟩ := h.get file
    exact ⟨some first, by rw [hget, hfirst]⟩

/-- Every move keeps the invariant. -/
theorem Remembers.act (h : r.Remembers st) (move : Move) : r.Remembers (r.act move st).2 := by
  cases move with
  | task file x => exact h.lookup file x
  | call c =>
      unfold Resolver.act
      dsimp only
      cases hs : c.request.subject? with
      | none =>
          rw [r.answer_of_database st hs]
          obtain ⟨first, hfirst⟩ := h.get c.file
          exact ⟨some first, congrArg Prod.snd hfirst⟩
      | some subject =>
          cases subject with
          | error e =>
              rw [r.answer_of_error st hs]
              exact h
          | ok x =>
              rw [r.answer_of_address st hs]
              exact h.lookup c.file x

theorem Remembers.actAll (h : r.Remembers st) (moves : List Move) :
    r.Remembers (r.actAll moves st).2 := by
  induction moves generalizing st with
  | nil => exact h
  | cons move moves ih => exact ih (h.act move)

end Failures

/-! ## Tasks -/

end Resolver

end CountryLookup
