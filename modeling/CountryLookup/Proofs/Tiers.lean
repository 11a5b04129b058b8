import CountryLookup.Proofs.Selection.Choice
import CountryLookup.Resolver

/-!
# Three tiers over whole runs

A run of a resolver is a list of calls: addresses in one of three forms, and requests for the
database itself. Between two calls the file at the external path may become anything. The
resolver works through a run with a state that says which addresses were asked for and what the
selector remembers.

Beside it stands the rule of the three tiers, which has no state. A call is answered on its own
from two things: what the remote service says to its `n`-th question, where `n` counts the
addresses before, and one database for the whole run. That database is the choice for the file as
it is at the first call that needs one.

## Main results

* `tracks_answer` — one call is answered by the rule, and the state keeps track of it.
* `tracks_serve` — a run is answered by the rule with one database.
* `serve_refines` — the same, with what each call asks, changes and can fail with.
-/

namespace CountryLookup.Resolver

/-! ## Runs -/

/-- What can be asked of a resolver. -/
inductive Request where
  | address (x : Address)
  | text (s : String)
  | octets (bs : List UInt8)
  | database

/-- What a resolver answers. -/
inductive Response where
  | code (o : CallOutcome)
  | database (c : Choice)

/-- A request, and what stands at the external path when it is made. -/
structure Call where
  file : Option Entry
  request : Request

/-- The answer to one call, and the state after it. -/
def answer (r : Resolver) (c : Call) (st : ResolverState) : Response × ResolverState :=
  match c.request with
  | .address x => ((.code (r.lookup c.file x st).1), (r.lookup c.file x st).2)
  | .text s => ((.code (r.lookupText c.file s st).1), (r.lookupText c.file s st).2)
  | .octets bs => ((.code (r.lookupOctets c.file bs st).1), (r.lookupOctets c.file bs st).2)
  | .database => ((.database (r.database c.file st).1), (r.database c.file st).2)

/-- The answers to calls one after the other, and the state in the end. -/
def serve (r : Resolver) : List Call → ResolverState → List Response × ResolverState
  | [], st => ([], st)
  | c :: cs, st =>
    ((r.answer c st).1 :: (serve r cs (r.answer c st).2).1, (serve r cs (r.answer c st).2).2)

/-! ## The rule -/

/-- What a request about an address says, if it is one: the address, or why it is none. -/
def Request.subject? : Request → Option (Except LookupError Address)
  | address x => some (.ok x)
  | text s => some (Address.parse s)
  | octets bs => some (Address.ofOctets bs)
  | database => none

/-- The address that a request is about. -/
def Request.address? (q : Request) : Option Address :=
  match q.subject? with
  | some (.ok x) => some x
  | _ => none

/-- The first tier: what the remote service says to its `n`-th question, unless that is nothing
or an error. -/
def firstTier? (r : Resolver) (n : Nat) (x : Address) : Option String :=
  match r.remote with
  | none => none
  | some m =>
    match m.call n x with
    | .returns (.ok code) => if code = "" then none else some code
    | _ => none

/-- The other tiers: what a database says, or why there is none. -/
def codeIn (d : Choice) (x : Address) : CodeResult := d.bind fun db => db.lookupCode x

/-- Whether a request needs the database if `n` addresses came before. -/
def needs (r : Resolver) (n : Nat) (q : Request) : Bool :=
  match q.subject? with
  | none => true
  | some (.error _) => false
  | some (.ok x) => (r.firstTier? n x).isNone

/-- How the rule answers a request if `n` addresses came before and the database is `d`. -/
def respond (r : Resolver) (d : Choice) (n : Nat) (q : Request) : Response :=
  match q.subject? with
  | none => .database d
  | some (.error e) => .code (.returns (.error e))
  | some (.ok x) =>
    match r.firstTier? n x with
    | some code => .code (.returns (.ok code))
    | none => .code (.returns (codeIn d x))

theorem respond_of_database (r : Resolver) (d : Choice) (n : Nat) {q : Request}
    (hq : q.subject? = none) : r.respond d n q = .database d := by
  rw [respond, hq]

theorem respond_of_error (r : Resolver) (d : Choice) (n : Nat) {q : Request} {e : LookupError}
    (hq : q.subject? = some (.error e)) : r.respond d n q = .code (.returns (.error e)) := by
  rw [respond, hq]

theorem respond_of_firstTier (r : Resolver) (d : Choice) {n : Nat} {q : Request} {x : Address}
    {code : String} (hq : q.subject? = some (.ok x)) (hf : r.firstTier? n x = some code) :
    r.respond d n q = .code (.returns (.ok code)) := by
  simp only [respond, hq, hf]

theorem respond_of_no_firstTier (r : Resolver) (d : Choice) {n : Nat} {q : Request} {x : Address}
    (hq : q.subject? = some (.ok x)) (hf : r.firstTier? n x = none) :
    r.respond d n q = .code (.returns (codeIn d x)) := by
  simp only [respond, hq, hf]

/-- How the rule answers calls if `n` addresses came before and the database is `d`. -/
def respondAll (r : Resolver) (d : Choice) : Nat → List Call → List Response
  | _, [] => []
  | n, c :: cs =>
    r.respond d n c.request :: respondAll r d (n + c.request.address?.toList.length) cs

/-- The file at the first call that needs the database. -/
def fileAtNeed? (r : Resolver) : Nat → List Call → Option (Option Entry)
  | _, [] => none
  | n, c :: cs =>
    if r.needs n c.request then some c.file
    else fileAtNeed? r (n + c.request.address?.toList.length) cs

/-- The database of a run. Where no call needs one it does not matter, and is the one for no
file. -/
def databaseOf (r : Resolver) (calls : List Call) : Choice :=
  (r.selector.choose ((r.fileAtNeed? 0 calls).getD none)).1

/-- Every question to the remote service returns, with a text or with an error. -/
def Returns (r : Resolver) : Prop :=
  ∀ m, r.remote = some m → ∀ n x, ∃ a, m.call n x = .returns a

/-! ## The operations -/

/-- What the selector remembers once the file at the first need is known. -/
def remembered (r : Resolver) : Option (Option Entry) → SelectorState
  | none => {}
  | some file => (r.selector.get file {}).2

/-- Asking the selector once more, in whatever state the file is, gives what was chosen. -/
theorem get_remembered (r : Resolver) (need : Option (Option Entry)) (file : Option Entry) :
    r.selector.get file (r.remembered need) =
      ((r.selector.choose (need.getD file)).1, r.remembered (some (need.getD file))) := by
  cases need with
  | none => rfl
  | some first =>
      change r.selector.get file (r.selector.get first {}).2 = r.selector.get first {}
      exact r.selector.get_get first file {}

theorem lookupLocal_result (r : Resolver) (file : Option Entry) (x : Address)
    (st : ResolverState) :
    (r.lookupLocal file x st).1 = codeIn (r.selector.get file st.selection).1 x := by
  unfold lookupLocal database codeIn
  cases hg : (r.selector.get file st.selection).1 with
  | error e => simp [hg, Except.bind]
  | ok db =>
      cases hr : db.lookupRecord x <;>
        simp [hg, hr, Except.bind, LocalDatabase.lookupCode, bind]

theorem lookupLocal_selection (r : Resolver) (file : Option Entry) (x : Address)
    (st : ResolverState) :
    (r.lookupLocal file x st).2.selection = (r.selector.get file st.selection).2 := by
  unfold lookupLocal database
  cases hg : (r.selector.get file st.selection).1 with
  | error e => simp [hg]
  | ok db => cases hr : db.lookupRecord x <;> simp [hg, hr]

/-- The addresses that a question for one adds to those asked for. -/
def asks (r : Resolver) (x? : Option Address) : List Address :=
  if r.remote.isSome then x?.toList else []

/-- A call with an address asks the service once; what it says is the code, or else the database
decides. -/
theorem lookup_of_firstTier (r : Resolver) (file : Option Entry) (x : Address)
    (st : ResolverState) {code : String} (h : r.firstTier? st.asked.length x = some code) :
    (r.lookup file x st).1 = .returns (.ok code) ∧
      (r.lookup file x st).2.selection = st.selection ∧
      (r.lookup file x st).2.asked = st.asked ++ r.asks (some x) := by
  unfold firstTier? at h
  unfold asks
  cases hm : r.remote with
  | none => simp [hm] at h
  | some m =>
      rw [hm] at h
      cases hc : m.call st.asked.length x with
      | breaks => simp [hc] at h
      | returns a =>
          cases a with
          | error e => simp [hc] at h
          | ok text =>
              simp only [hc, Option.ite_none_left_eq_some, Option.some.injEq] at h
              obtain ⟨hne, rfl⟩ := h
              simp [lookup, hm, hc, judge, hne, asking]

/-- Where the service returns and has nothing to say, the database decides. -/
theorem lookup_of_silence (r : Resolver) (file : Option Entry) (x : Address) (st : ResolverState)
    (hr : ∀ m, r.remote = some m → ∃ a, m.call st.asked.length x = .returns a)
    (h : r.firstTier? st.asked.length x = none) :
    (r.lookup file x st).1 = .returns (codeIn (r.selector.get file st.selection).1 x) ∧
      (r.lookup file x st).2.selection = (r.selector.get file st.selection).2 ∧
      (r.lookup file x st).2.asked = st.asked ++ r.asks (some x) := by
  unfold firstTier? at h
  unfold asks
  cases hm : r.remote with
  | none =>
      have hl : r.lookup file x st =
          (.returns (r.lookupLocal file x st).1, (r.lookupLocal file x st).2) := by
        simp [lookup, hm]
      rw [hl, lookupLocal_result, lookupLocal_selection, asked_lookupLocal]
      simp
  | some m =>
      rw [hm] at h
      obtain ⟨a, ha⟩ := hr m hm
      have hj : (judge m.name x a).1 = none := by
        cases a with
        | error e => rfl
        | ok text =>
            simp only [ha] at h
            have ht : text = "" := by
              by_cases ht : text = ""
              · exact ht
              · rw [if_neg ht] at h
                cases h
            simp [judge, ht]
      have hl : ∃ st', st'.selection = st.selection ∧ st'.asked = st.asked ++ [x] ∧
          r.lookup file x st =
            (.returns (r.lookupLocal file x st').1, (r.lookupLocal file x st').2) := by
        refine ⟨{ asking m x st with
          events := (asking m x st).events ++ [(judge m.name x a).2] }, rfl, rfl, ?_⟩
        simp [lookup, hm, ha, hj]
      obtain ⟨st', hs, hk, hl⟩ := hl
      rw [hl, lookupLocal_result, lookupLocal_selection, asked_lookupLocal, hs, hk]
      simp

theorem lookup_of_no_firstTier (r : Resolver) (hr : r.Returns) (file : Option Entry) (x : Address)
    (st : ResolverState) (h : r.firstTier? st.asked.length x = none) :
    (r.lookup file x st).1 = .returns (codeIn (r.selector.get file st.selection).1 x) ∧
      (r.lookup file x st).2.selection = (r.selector.get file st.selection).2 ∧
      (r.lookup file x st).2.asked = st.asked ++ r.asks (some x) :=
  r.lookup_of_silence file x st (fun m hm => hr m hm _ x) h

theorem answer_of_address (r : Resolver) {c : Call} (st : ResolverState) {x : Address}
    (h : c.request.subject? = some (.ok x)) :
    r.answer c st = (.code (r.lookup c.file x st).1, (r.lookup c.file x st).2) := by
  obtain ⟨file, q⟩ := c
  cases q with
  | address y =>
      cases h
      rfl
  | text s =>
      have hp : Address.parse s = .ok x := Option.some.inj h
      simp [answer, lookupText, hp]
  | octets bs =>
      have hp : Address.ofOctets bs = .ok x := Option.some.inj h
      simp [answer, lookupOctets, hp]
  | database => cases h

/-- A request that names no address is refused on the spot. -/
theorem answer_of_error (r : Resolver) {c : Call} (st : ResolverState) {e : LookupError}
    (h : c.request.subject? = some (.error e)) :
    r.answer c st = (.code (.returns (.error e)), st) := by
  obtain ⟨file, q⟩ := c
  cases q with
  | address y => cases h
  | text s =>
      have hp : Address.parse s = .error e := Option.some.inj h
      simp [answer, lookupText, hp]
  | octets bs =>
      have hp : Address.ofOctets bs = .error e := Option.some.inj h
      simp [answer, lookupOctets, hp]
  | database => cases h

theorem answer_of_database (r : Resolver) {c : Call} (st : ResolverState)
    (h : c.request.subject? = none) :
    r.answer c st = (.database (r.database c.file st).1, (r.database c.file st).2) := by
  obtain ⟨file, q⟩ := c
  cases q with
  | address y => cases h
  | text s => cases h
  | octets bs => cases h
  | database => rfl

/-! ## Keeping track -/

/-- **The invariant.** After calls with these addresses, and with the first need at this file, the
service was asked for just these addresses, and the selector remembers that file. -/
structure Tracks (r : Resolver) (sofar : List Address) (need : Option (Option Entry))
    (st : ResolverState) : Prop where
  asked : st.asked = if r.remote.isSome then sofar else []
  selection : st.selection = r.remembered need

theorem tracks_start (r : Resolver) : r.Tracks [] none {} where
  asked := by simp
  selection := rfl

/-- Without a service the number of the question does not matter. -/
theorem Tracks.firstTier? {r : Resolver} {sofar : List Address} {need : Option (Option Entry)}
    {st : ResolverState} (h : r.Tracks sofar need st) (x : Address) :
    r.firstTier? st.asked.length x = r.firstTier? sofar.length x := by
  rw [h.asked]
  cases hm : r.remote with
  | none => simp [Resolver.firstTier?, hm]
  | some m => simp

theorem Tracks.append_asks {r : Resolver} {sofar : List Address} {need : Option (Option Entry)}
    {st : ResolverState} (h : r.Tracks sofar need st) (x? : Option Address) :
    st.asked ++ r.asks x? = if r.remote.isSome then sofar ++ x?.toList else [] := by
  rw [h.asked, asks]
  split <;> rfl

/-- The file at the first need, after one more call. -/
def needAfter (r : Resolver) (need : Option (Option Entry)) (n : Nat) (c : Call) :
    Option (Option Entry) :=
  need.or (if r.needs n c.request then some c.file else none)

theorem needs_of_firstTier (r : Resolver) {n : Nat} {q : Request} {x : Address}
    (hq : q.subject? = some (.ok x)) : r.needs n q = (r.firstTier? n x).isNone := by
  rw [needs, hq]

theorem address?_of_subject {q : Request} {x : Address} (hq : q.subject? = some (.ok x)) :
    q.address? = some x := by
  rw [Request.address?, hq]

/-- **Step.** A call is answered by the rule, with the database of the first need so far or else
of this call, and the state keeps track of it. -/
theorem tracks_answer {r : Resolver} (hr : r.Returns) {sofar : List Address}
    {need : Option (Option Entry)} {st : ResolverState} (h : r.Tracks sofar need st) (c : Call) :
    (r.answer c st).1 =
        r.respond (r.selector.choose (need.getD c.file)).1 sofar.length c.request ∧
      r.Tracks (sofar ++ c.request.address?.toList) (r.needAfter need sofar.length c)
        (r.answer c st).2 := by
  have hget := r.get_remembered need c.file
  rw [← h.selection] at hget
  have hneed : need.or (some c.file) = some (need.getD c.file) := by cases need <;> rfl
  cases hs : c.request.subject? with
  | none =>
      rw [r.answer_of_database st hs, r.respond_of_database _ _ hs, needAfter, needs, hs]
      refine ⟨congrArg Response.database (congrArg Prod.fst hget), ?_, ?_⟩
      · have ha : c.request.address? = none := by rw [Request.address?, hs]
        rw [ha, asked_database, h.asked]
        simp
      · rw [if_pos rfl, hneed]
        exact congrArg Prod.snd hget
  | some subject =>
      cases subject with
      | error e =>
          rw [r.answer_of_error st hs, r.respond_of_error _ _ hs, needAfter, needs, hs]
          refine ⟨rfl, ?_, ?_⟩
          · have ha : c.request.address? = none := by rw [Request.address?, hs]
            rw [ha, h.asked]
            simp
          · simpa using h.selection
      | ok x =>
          have htier := h.firstTier? x
          rw [r.answer_of_address st hs, needAfter, r.needs_of_firstTier hs,
            address?_of_subject hs, ← htier]
          cases hf : r.firstTier? st.asked.length x with
          | some code =>
              obtain ⟨hres, hsel, hask⟩ := r.lookup_of_firstTier c.file x st hf
              refine ⟨by rw [hres, r.respond_of_firstTier _ hs (htier.symm.trans hf)], ?_, ?_⟩
              · rw [hask, h.append_asks]
              · rw [hsel, h.selection]
                simp
          | none =>
              obtain ⟨hres, hsel, hask⟩ := r.lookup_of_no_firstTier hr c.file x st hf
              refine ⟨by rw [hres, hget, r.respond_of_no_firstTier _ hs (htier.symm.trans hf)],
                ?_, ?_⟩
              · rw [hask, h.append_asks]
              · rw [hsel, hget, Option.isNone_none, if_pos rfl, hneed]

/-- A request that does not need the database is answered alike whatever the database. -/
theorem respond_of_not_needs (r : Resolver) {n : Nat} {q : Request} (h : r.needs n q = false)
    (d d' : Choice) : r.respond d n q = r.respond d' n q := by
  unfold needs at h
  cases hs : q.subject? with
  | none => rw [hs] at h; cases h
  | some subject =>
      cases subject with
      | error e => rw [r.respond_of_error d n hs, r.respond_of_error d' n hs]
      | ok x =>
          rw [hs] at h
          cases hf : r.firstTier? n x with
          | none => simp [hf] at h
          | some code => rw [r.respond_of_firstTier d hs hf, r.respond_of_firstTier d' hs hf]

/-- The addresses of calls, in order. -/
def addresses (calls : List Call) : List Address :=
  calls.flatMap fun c => c.request.address?.toList

theorem or_fileAtNeed?_cons (r : Resolver) (need : Option (Option Entry)) (n : Nat) (c : Call)
    (cs : List Call) :
    need.or (r.fileAtNeed? n (c :: cs)) =
      (r.needAfter need n c).or (r.fileAtNeed? (n + c.request.address?.toList.length) cs) := by
  rw [fileAtNeed?, needAfter]
  by_cases hn : r.needs n c.request = true
  · rw [if_pos hn, if_pos hn]
    cases need <;> rfl
  · rw [if_neg hn, if_neg hn]
    cases need <;> rfl

/-- **Run.** From any state that keeps track of earlier calls, a run is answered by the rule with
one database, and the state keeps track of the run. -/
theorem tracks_serve {r : Resolver} (hr : r.Returns) (calls : List Call) {sofar : List Address}
    {need : Option (Option Entry)} {st : ResolverState} (h : r.Tracks sofar need st) :
    (r.serve calls st).1 =
        r.respondAll
          (r.selector.choose ((need.or (r.fileAtNeed? sofar.length calls)).getD none)).1
          sofar.length calls ∧
      r.Tracks (sofar ++ addresses calls) (need.or (r.fileAtNeed? sofar.length calls))
        (r.serve calls st).2 := by
  induction calls generalizing sofar need st with
  | nil =>
      refine ⟨rfl, ?_⟩
      have hn : need.or (r.fileAtNeed? sofar.length []) = need := by cases need <;> rfl
      rw [hn, addresses, List.flatMap_nil, List.append_nil]
      exact h
  | cons c cs ih =>
      obtain ⟨hfirst, hnext⟩ := tracks_answer hr h c
      obtain ⟨hrest, hlast⟩ := ih hnext
      rw [List.length_append] at hrest hlast
      rw [or_fileAtNeed?_cons]
      constructor
      · rw [serve, respondAll, hrest, hfirst]
        refine congrArg (· :: _) ?_
        by_cases hn : r.needs sofar.length c.request = true
        · have hfile : (r.needAfter need sofar.length c) = some (need.getD c.file) := by
            rw [needAfter, if_pos hn]
            cases need <;> rfl
          rw [hfile]
          rfl
        · exact r.respond_of_not_needs (by simpa using hn) _ _
      · rw [addresses, List.flatMap_cons, ← List.append_assoc]
        exact hlast

/-! ## How a lookup fails -/

theorem kind_of_parse_error {s : String} {e : LookupError} (h : Address.parse s = .error e) :
    e.kind = .invalidInput := by
  unfold Address.parse at h
  dsimp only at h
  split at h
  · rw [← Except.error.inj h]
  · split at h
    · cases h
    · rw [← Except.error.inj h]

theorem kind_of_ofOctets_error {bs : List UInt8} {e : LookupError}
    (h : Address.ofOctets bs = .error e) : e.kind = .invalidInput := by
  unfold Address.ofOctets at h
  split at h
  · cases h
  · rw [← Except.error.inj h]

/-- A request is refused for one reason alone: what it holds is no address. -/
theorem kind_of_subject_error {q : Request} {e : LookupError}
    (h : q.subject? = some (.error e)) : e.kind = .invalidInput := by
  cases q with
  | address x => cases h
  | text s => exact kind_of_parse_error (Option.some.inj h)
  | octets bs => exact kind_of_ofOctets_error (Option.some.inj h)
  | database => cases h

/-- The ways in which a lookup of an address can fail. -/
def IsLocal (k : ErrorKind) : Prop :=
  k = .databaseInitFailed ∨ k = .recordNotFound ∨ k = .codeNotFound

theorem kind_of_lookupRecord_error {db : LocalDatabase} {x : Address} {e : LookupError}
    (h : db.lookupRecord x = .error e) : IsLocal e.kind := by
  unfold LocalDatabase.lookupRecord at h
  split at h
  · rw [← Except.error.inj h]
    exact .inr (.inl rfl)
  · rw [← Except.error.inj h]
    exact .inr (.inl rfl)
  · split at h
    · cases h
    · rw [← Except.error.inj h]
      exact .inr (.inr rfl)

theorem kind_of_lookupCode_error {db : LocalDatabase} {x : Address} {e : LookupError}
    (h : db.lookupCode x = .error e) : IsLocal e.kind := by
  unfold LocalDatabase.lookupCode at h
  cases hr : db.lookupRecord x with
  | error e' =>
      rw [hr] at h
      rw [← Except.error.inj h]
      exact kind_of_lookupRecord_error hr
  | ok r =>
      rw [hr] at h
      change LocalDatabase.codeOf x r = .error e at h
      unfold LocalDatabase.codeOf at h
      split at h
      · cases h
      · rw [← Except.error.inj h]
        exact .inr (.inr rfl)

/-- The last tiers fail in their own ways only. -/
theorem kind_of_codeIn_error (s : Selector) (file : Option Entry) {x : Address} {e : LookupError}
    (h : codeIn (s.choose file).1 x = .error e) : IsLocal e.kind := by
  rcases s.choose_cases file with ⟨db, -, hc, -⟩ | ⟨db, -, -, hc⟩ | ⟨m, -, -, hc⟩
  · rw [hc] at h
    exact kind_of_lookupCode_error h
  · rw [hc] at h
    exact kind_of_lookupCode_error h
  · rw [hc] at h
    rw [← Except.error.inj h]
    exact .inl rfl

/-! ## The resolver follows the rule -/

/-- How one call is served in a state, if the database of the run is `d`: the service is asked
exactly once, if there is one, by a call with an address; a request that holds none is refused and
changes nothing; what the service says is the answer, and the selector is left alone; in every
other case the database answers; and an address fails in the ways of the last tiers only. -/
structure Served (r : Resolver) (d : Choice) (st : ResolverState) (c : Call) : Prop where
  asked : (r.answer c st).2.asked = st.asked ++ r.asks c.request.address?
  refused : ∀ e, c.request.subject? = some (.error e) →
    e.kind = .invalidInput ∧ r.answer c st = (.code (.returns (.error e)), st)
  first : ∀ x code, c.request.subject? = some (.ok x) →
    r.firstTier? st.asked.length x = some code →
    (r.answer c st).1 = .code (.returns (.ok code)) ∧
      (r.answer c st).2.selection = st.selection
  later : ∀ x, c.request.subject? = some (.ok x) → r.firstTier? st.asked.length x = none →
    (r.answer c st).1 = .code (.returns (codeIn d x))
  database : c.request.subject? = none → (r.answer c st).1 = .database d
  failure : ∀ x e, c.request.subject? = some (.ok x) →
    (r.answer c st).1 = .code (.returns (.error e)) → IsLocal e.kind

/-- A call whose answer is the rule's is served so. -/
theorem Tracks.served {r : Resolver} (hr : r.Returns) {sofar : List Address}
    {need : Option (Option Entry)} {st : ResolverState} (h : r.Tracks sofar need st) {c : Call}
    {d : Choice} (hd : (r.answer c st).1 = r.respond d sofar.length c.request) :
    r.Served d st c := by
  have hstep := tracks_answer hr h c
  constructor
  · rw [hstep.2.asked, h.append_asks]
  · intro e hs
    exact ⟨kind_of_subject_error hs, r.answer_of_error st hs⟩
  · intro x code hs hf
    have hl := r.lookup_of_firstTier c.file x st hf
    rw [r.answer_of_address st hs]
    exact ⟨congrArg Response.code hl.1, hl.2.1⟩
  · intro x hs hf
    rw [hd, r.respond_of_no_firstTier d hs ((h.firstTier? x).symm.trans hf)]
  · intro hs
    rw [hd, r.respond_of_database d _ hs]
  · intro x e hs he
    rw [hstep.1] at he
    cases hf : r.firstTier? sofar.length x with
    | some code =>
        rw [r.respond_of_firstTier _ hs hf] at he
        cases he
    | none =>
        rw [r.respond_of_no_firstTier _ hs hf] at he
        have he' := CallOutcome.returns.inj (Response.code.inj he)
        exact kind_of_codeIn_error r.selector (need.getD c.file) he'

theorem fileAtNeed?_append (r : Resolver) (before after : List Call) (n : Nat) :
    r.fileAtNeed? n (before ++ after) =
      (r.fileAtNeed? n before).or (r.fileAtNeed? (n + (addresses before).length) after) := by
  induction before generalizing n with
  | nil => rfl
  | cons c cs ih =>
      rw [List.cons_append, fileAtNeed?, fileAtNeed?, addresses, List.flatMap_cons,
        List.length_append, ← Nat.add_assoc]
      by_cases hn : r.needs n c.request = true
      · rw [if_pos hn, if_pos hn]
        rfl
      · rw [if_neg hn, if_neg hn]
        exact ih _

/-- The answer of a call in a run is the one that the rule gives with the database of the run. -/
theorem answer_eq_respond {r : Resolver} (hr : r.Returns) (before after : List Call) (c : Call) :
    (r.answer c (r.serve before {}).2).1 =
      r.respond (r.databaseOf (before ++ c :: after)) (addresses before).length c.request := by
  have htrack := (tracks_serve hr before r.tracks_start).2
  have hstep := (tracks_answer hr htrack c).1
  simp only [List.nil_append, List.length_nil, Option.none_or] at hstep
  rw [hstep]
  by_cases hn : r.needs (addresses before).length c.request = true
  · have hfile : (r.fileAtNeed? 0 (before ++ c :: after)) =
        some ((r.fileAtNeed? 0 before).getD c.file) := by
      rw [fileAtNeed?_append, Nat.zero_add, fileAtNeed?, if_pos hn]
      cases r.fileAtNeed? 0 before <;> rfl
    rw [databaseOf, hfile]
    rfl
  · exact r.respond_of_not_needs (by simpa using hn) _ _

/-- **The resolver follows the rule of the three tiers.** Whatever the remote service says and
whatever becomes of the external file, a run is answered by the rule with one database, and each
of its calls is served as the rule says. -/
theorem serve_refines (r : Resolver) (hr : r.Returns) (calls : List Call) :
    (r.serve calls {}).1 = r.respondAll (r.databaseOf calls) 0 calls ∧
      (r.serve calls {}).2.asked = (if r.remote.isSome then addresses calls else []) ∧
      (r.serve calls {}).2.selection = r.remembered (r.fileAtNeed? 0 calls) ∧
      ∀ before c after, calls = before ++ c :: after →
        r.Served (r.databaseOf calls) (r.serve before {}).2 c := by
  have hrun := tracks_serve hr calls r.tracks_start
  simp only [List.nil_append, List.length_nil, Option.none_or] at hrun
  refine ⟨hrun.1, hrun.2.asked, hrun.2.selection, ?_⟩
  rintro before c after rfl
  have htrack := (tracks_serve hr before r.tracks_start).2
  simp only [List.nil_append, List.length_nil, Option.none_or] at htrack
  exact htrack.served hr (answer_eq_respond hr before after c)

/-- A service that has something to say to its second question only, and no database. -/
def fickle : Resolver where
  remote := some ⟨"fickle", fun n _ => .returns (.ok (if n = 1 then "us" else "")), fun _ => []⟩
  selector := ⟨"local.mmdb", none⟩

theorem fickle_returns : fickle.Returns := by
  intro m hm n x
  cases hm
  exact ⟨_, rfl⟩

/-- Three calls with one address: the error of the missing database, the code, the error again. -/
theorem serve_refines_fickle :
    fickle.Returns ∧
      (fickle.serve (List.replicate 3 ⟨none, .octets [8, 8, 8, 8]⟩) {}).1 =
        [.code (.returns (.error ⟨.databaseInitFailed,
            "external database unavailable and embedded database is missing"⟩)),
          .code (.returns (.ok "us")),
          .code (.returns (.error ⟨.databaseInitFailed,
            "external database unavailable and embedded database is missing"⟩))] := by
  refine ⟨fickle_returns, ?_⟩
  rw [(serve_refines fickle fickle_returns (List.replicate 3 ⟨none, .octets [8, 8, 8, 8]⟩)).1]
  rfl

end CountryLookup.Resolver
