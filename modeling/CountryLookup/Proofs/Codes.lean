import CountryLookup.Proofs.Text.Lowercase
import CountryLookup.Proofs.Tiers

/-!
# What a code looks like

A code comes from a reply of the remote service or from a field of a record. Both are any text that
passes a test, and both are put into lower case last. So a code is never empty, and it is in lower
case: lower-casing it again changes nothing.

The network may answer each question differently, and the local database may hold anything.

## Main results

* `isCode_lowercase` — lower-casing a text that is not empty gives a code.
* `isCode_of_answer` — one call answers with a code or an error.
* `isCode_of_mem_serve` — so do all calls of a run.
-/

namespace CountryLookup

/-- A text that can be a code: it is not empty and in lower case. -/
structure IsCode (s : String) : Prop where
  ne_empty : s ≠ ""
  lower : Text.lowercase s = s

theorem isCode_lowercase {s : String} (h : s ≠ "") : IsCode (Text.lowercase s) where
  ne_empty := Text.lowercase_ne_empty h
  lower := Text.lowercase_lowercase s

theorem ne_empty_of_isTwoLetter {s : String} (h : IpRecord.isTwoLetter s = true) : s ≠ "" := by
  rintro rfl
  cases h

/-! ## Where codes come from -/

/-- The field that a record's code is taken from is not empty. -/
theorem IpRecord.ne_empty_of_source? {r : IpRecord} {s : String} (h : r.source? = some s) :
    s ≠ "" := by
  unfold source? at h
  split at h
  · rename_i hne
    rw [← Option.some.inj h]
    exact hne
  · split at h
    · rename_i htwo
      rw [← Option.some.inj h]
      exact ne_empty_of_isTwoLetter htwo
    · split at h
      · rename_i hne
        rw [← Option.some.inj h]
        exact hne
      · split at h
        · rename_i htwo
          rw [← Option.some.inj h]
          exact ne_empty_of_isTwoLetter htwo
        · cases h

theorem LocalDatabase.isCode_of_lookupCode {db : LocalDatabase} {x : Address} {code : String}
    (h : db.lookupCode x = .ok code) : IsCode code := by
  unfold lookupCode at h
  cases hr : db.lookupRecord x with
  | error e =>
      rw [hr] at h
      cases h
  | ok r =>
      rw [hr] at h
      change codeOf x r = .ok code at h
      unfold codeOf at h
      split at h
      · rename_i c hc
        obtain ⟨s, hs, rfl⟩ := Option.map_eq_some_iff.1 hc
        rw [← Except.ok.inj h]
        exact isCode_lowercase (IpRecord.ne_empty_of_source? hs)
      · cases h

/-- Whatever becomes of a request, what it gives is a code or an error. -/
theorem Client.isCode_of_result {e : Exchange} {code : String} (h : Client.result e = .ok code) :
    IsCode code := by
  cases e with
  | error reason => cases h
  | ok r =>
      obtain ⟨-, htwo, rfl⟩ := Client.classify_eq_ok_iff.1 h
      exact isCode_lowercase (ne_empty_of_isTwoLetter htwo)

/-! ## Resolvers -/

/-- A client as a remote service, over a network that may answer each question differently. -/
def Client.over (c : Client) (nets : Nat → Network) : Remote where
  name := Client.name
  call n x := .returns (c.lookup (nets n) x)
  tells x := [Client.asking x]

/-- A network that always answers alike is the case that the program runs with. -/
theorem Client.over_const (c : Client) (net : Network) : c.over (fun _ => net) = c.remote net := rfl

namespace Resolver

/-- The resolver of a client, if there is one. -/
def ofClient? (client? : Option Client) (nets : Nat → Network) (s : Selector) : Resolver where
  remote := client?.map (·.over nets)
  selector := s

section Codes

variable (client? : Option Client) (nets : Nat → Network) (s : Selector)

theorem ofClient?_returns : (ofClient? client? nets s).Returns := by
  intro m hm n x
  obtain ⟨c, -, rfl⟩ := Option.map_eq_some_iff.1 hm
  exact ⟨_, rfl⟩

theorem isCode_of_firstTier {n : Nat} {x : Address} {code : String}
    (h : (ofClient? client? nets s).firstTier? n x = some code) : IsCode code := by
  cases client? with
  | none => cases h
  | some c =>
      cases hl : c.lookup (nets n) x with
      | error e => simp [firstTier?, ofClient?, Client.over, hl] at h
      | ok text =>
          simp only [firstTier?, ofClient?, Client.over, Option.map_some, hl,
            Option.ite_none_left_eq_some, Option.some.injEq] at h
          rw [← h.2]
          exact Client.isCode_of_result hl

theorem isCode_of_codeIn {d : Choice} {x : Address} {code : String} (h : codeIn d x = .ok code) :
    IsCode code := by
  cases d with
  | error e => cases h
  | ok db => exact db.isCode_of_lookupCode h

/-- **Step.** In any state, a call that answers with a text answers with a code. -/
theorem isCode_of_answer {c : Call} {st : ResolverState} {code : String}
    (h : ((ofClient? client? nets s).answer c st).1 = .code (.returns (.ok code))) :
    IsCode code := by
  cases hs : c.request.subject? with
  | none =>
      rw [answer_of_database _ st hs] at h
      cases h
  | some subject =>
      cases subject with
      | error e =>
          rw [answer_of_error _ st hs] at h
          cases h
      | ok x =>
          rw [answer_of_address _ st hs] at h
          have hl := Response.code.inj h
          cases hf : (ofClient? client? nets s).firstTier? st.asked.length x with
          | some text =>
              rw [(lookup_of_firstTier _ c.file x st hf).1] at hl
              rw [← Except.ok.inj (CallOutcome.returns.inj hl)]
              exact isCode_of_firstTier client? nets s hf
          | none =>
              have hlocal :=
                (lookup_of_no_firstTier _ (ofClient?_returns client? nets s) c.file x st hf).1
              rw [hlocal] at hl
              exact isCode_of_codeIn (CallOutcome.returns.inj hl)

/-- **Run.** Every text with which a resolver answers is a code: it is not empty, and lower-casing
changes nothing about it. -/
theorem isCode_of_mem_serve (calls : List Call) (st : ResolverState) {code : String}
    (h : .code (.returns (.ok code)) ∈ ((ofClient? client? nets s).serve calls st).1) :
    code ≠ "" ∧ Text.lowercase code = code := by
  induction calls generalizing st with
  | nil => cases h
  | cons c cs ih =>
      rw [serve] at h
      rcases List.mem_cons.1 h with h | h
      · have hcode := isCode_of_answer client? nets s h.symm
        exact ⟨hcode.ne_empty, hcode.lower⟩
      · exact ih _ h

end Codes

/-- A reply of the two bytes of `İ`, whose lower-case form is longer, between white space. -/
def dottedReply : Nat → Network := fun _ _ => .ok ⟨200, [0x20, 0xC4, 0xB0, 0x0A]⟩

/-- The code that it gives is two characters, which lower-casing leaves alone. -/
theorem isCode_of_mem_serve_dotted :
    .code (.returns (.ok "i\u0307")) ∈
        ((ofClient? (some (Client.new "http://host" none)) dottedReply ⟨"local.mmdb", none⟩).serve
          [⟨none, .text "8.8.8.8"⟩] {}).1 ∧
      ("i\u0307" ≠ "" ∧ Text.lowercase "i\u0307" = "i\u0307") := by
  have hmem : .code (.returns (.ok "i\u0307")) ∈
      ((ofClient? (some (Client.new "http://host" none)) dottedReply ⟨"local.mmdb", none⟩).serve
        [⟨none, .text "8.8.8.8"⟩] {}).1 := by
    refine List.mem_singleton.2 ?_
    rfl
  exact ⟨hmem, isCode_of_mem_serve _ _ _ _ _ hmem⟩

end Resolver

end CountryLookup
