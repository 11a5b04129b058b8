import CountryLookup.Address.Parser
import CountryLookup.Remote
import CountryLookup.Selector

/-!
# Resolving addresses

A code comes from the first tier that has one. The remote service is asked first, if there is
one; a text that is not empty is the code. In every other case the local database decides, and
what went wrong remotely is told but never returned.

A state is threaded through the operations: which addresses the service was asked for, and what
the selector of the local database remembers.

## Main results

* `lookup_of_remote` — a code of the remote service is the result, and the local database is not
  touched.
* `lookupText_of_error` — a text that is no address changes nothing.
* `lookup_of_breaks` — a call that breaks off leaves no trace but that it was made.
-/

namespace CountryLookup

/-- Where codes come from. -/
structure Resolver where
  remote : Option Remote
  selector : Selector

/-- What a resolver remembers: the addresses for which the remote service was asked, in order,
the state of the selector, and what was told. -/
structure ResolverState where
  asked : List Address := []
  selection : SelectorState := {}
  events : List Event := []

namespace Resolver

/-- An event told by the resolver. -/
def event (level : Level) (message : String) : Event := ⟨level, .resolver, "GeoIP: " ++ message⟩

/-- What the remote tier says about the outcome of a call: a code, and what is told. -/
def judge (name : String) (x : Address) : CodeResult → Option String × Event
  | .ok code =>
    if code ≠ "" then
      (some code, event .trace (name ++ " resolved " ++ x.render ++ " -> " ++ code))
    else (none, event .debug (name ++ " returned empty code for " ++ x.render))
  | .error e =>
    (none, event .debug (name ++ " lookup for " ++ x.render ++ " failed: " ++ e.simple
      ++ ", falling back to local database"))

/-- The database in use, chosen now if need be. -/
def database (r : Resolver) (file : Option Entry) (st : ResolverState) : Choice × ResolverState :=
  let (choice, selection) := r.selector.get file st.selection
  (choice, { st with
    selection := selection
    events := st.events ++ selection.events.drop st.selection.events.length })

/-- The code that the local database gives. -/
def lookupLocal (r : Resolver) (file : Option Entry) (x : Address) (st : ResolverState) :
    CodeResult × ResolverState :=
  match r.database file st with
  | (.error e, st) => (.error e, st)
  | (.ok db, st) =>
    match db.lookupRecord x with
    | .error e => (.error e, st)
    | .ok record =>
      (LocalDatabase.codeOf x record, { st with
        events := st.events ++ [⟨.trace, .database,
          "Local lookup for " ++ x.render ++ ": " ++ record.debug⟩] })

/-- The state after the remote service was asked. -/
def asking (remote : Remote) (x : Address) (st : ResolverState) : ResolverState :=
  { st with asked := st.asked ++ [x], events := st.events ++ remote.tells x }

/-- The code of an address. The lookup breaks off with the call of the remote service. -/
def lookup (r : Resolver) (file : Option Entry) (x : Address) (st : ResolverState) :
    CallOutcome × ResolverState :=
  match r.remote with
  | none =>
    let (result, st) := r.lookupLocal file x st
    (.returns result, st)
  | some remote =>
    let asked := asking remote x st
    match remote.call st.asked.length x with
    | .breaks => (.breaks, asked)
    | .returns outcome =>
      let (code, e) := judge remote.name x outcome
      let told := { asked with events := asked.events ++ [e] }
      match code with
      | some code => (.returns (.ok code), told)
      | none =>
        let (result, st) := r.lookupLocal file x told
        (.returns result, st)

/-- The code of an address, looked up in a task of its own. -/
def lookupInTask (r : Resolver) (file : Option Entry) (x : Address) (st : ResolverState) :
    CodeResult × ResolverState :=
  let (outcome, st) := r.lookup file x st
  (outcome.contained, st)

/-- The code of an address given as a text. -/
def lookupText (r : Resolver) (file : Option Entry) (s : String) (st : ResolverState) :
    CallOutcome × ResolverState :=
  match Address.parse s with
  | .ok x => r.lookup file x st
  | .error e => (.returns (.error e), st)

/-- The code of an address given as its octets. -/
def lookupOctets (r : Resolver) (file : Option Entry) (bs : List UInt8) (st : ResolverState) :
    CallOutcome × ResolverState :=
  match Address.ofOctets bs with
  | .ok x => r.lookup file x st
  | .error e => (.returns (.error e), st)

/-- The source of the local database in use. -/
def activeSource (st : ResolverState) : Option DatabaseSource := Selector.activeSource st.selection

/-- The name of the remote service. -/
def remoteName (r : Resolver) : Option String := r.remote.map (·.name)

/-- **The remote service comes first.** -/
theorem lookup_of_remote (r : Resolver) {remote : Remote} (hr : r.remote = some remote)
    (file : Option Entry) (x : Address) (st : ResolverState) {code : String}
    (hc : remote.call st.asked.length x = .returns (.ok code)) (hne : code ≠ "") :
    (r.lookup file x st).1 = .returns (.ok code) ∧
      (r.lookup file x st).2.selection = st.selection := by
  simp [lookup, hr, hc, judge, hne, asking]

/-- **A call that breaks off leaves no trace but that it was made.** -/
theorem lookup_of_breaks (r : Resolver) {remote : Remote} (hr : r.remote = some remote)
    (file : Option Entry) (x : Address) (st : ResolverState)
    (hc : remote.call st.asked.length x = .breaks) :
    r.lookup file x st = (.breaks, asking remote x st) := by
  simp [lookup, hr, hc]

/-- Choosing a local database asks nobody. -/
@[simp] theorem asked_database (r : Resolver) (file : Option Entry) (st : ResolverState) :
    (r.database file st).2.asked = st.asked := rfl

/-- Looking up locally asks nobody. -/
@[simp] theorem asked_lookupLocal (r : Resolver) (file : Option Entry) (x : Address)
    (st : ResolverState) : (r.lookupLocal file x st).2.asked = st.asked := by
  have hd := asked_database r file st
  unfold lookupLocal
  split <;> rename_i h <;> rw [h] at hd
  · exact hd
  · split <;> exact hd

/-- Without a remote service nobody is asked. -/
theorem asked_lookup_of_none (r : Resolver) (hr : r.remote = none) (file : Option Entry)
    (x : Address) (st : ResolverState) : (r.lookup file x st).2.asked = st.asked := by
  simp [lookup, hr]

/-- Nor for a text. -/
theorem asked_lookupText_of_none (r : Resolver) (hr : r.remote = none) (file : Option Entry)
    (s : String) (st : ResolverState) : (r.lookupText file s st).2.asked = st.asked := by
  unfold lookupText
  split
  · exact r.asked_lookup_of_none hr file _ st
  · rfl

/-- **A text that is no address changes nothing.** -/
theorem lookupText_of_error (r : Resolver) (file : Option Entry) {s : String} (st : ResolverState)
    {e : LookupError} (h : Address.parse s = .error e) :
    r.lookupText file s st = (.returns (.error e), st) := by
  simp [lookupText, h]

end Resolver

end CountryLookup
