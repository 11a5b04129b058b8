import CountryLookup.Proofs.Address.RoundTrip
import CountryLookup.Resolver

/-!
# Three ways to give an address

A resolver takes an address as it is, as a text with or without white space around it, or as its
octets. The three ways meet before anything is looked up, so they cannot be told apart by what is
answered, asked or remembered.

## Main results

* `ofOctets_of_length` — octets of any other number than four or sixteen are refused.
* `lookup_forms` — the three ways agree.
-/

namespace CountryLookup

/-- Pairs of octets come in even numbers. -/
theorem length_of_pairUp? {bs : List UInt8} {gs : List UInt16} (h : pairUp? bs = some gs) :
    bs.length = 2 * gs.length := by
  induction bs using pairUp?.induct generalizing gs with
  | case1 =>
      cases h
      rfl
  | case2 b => cases h
  | case3 hi lo bs ih =>
      obtain ⟨gs', hgs, rfl⟩ := Option.map_eq_some_iff.1 h
      have hlen := ih hgs
      simp only [List.length_cons]
      omega

namespace Address

/-- Octets that are an address are four or sixteen. -/
theorem length_of_ofOctets? {bs : List UInt8} {x : Address} (h : ofOctets? bs = some x) :
    bs.length = 4 ∨ bs.length = 16 := by
  unfold ofOctets? at h
  split at h
  · rename_i y hy
    unfold V4.ofOctets? at hy
    split at hy
    · exact .inl rfl
    · cases hy
  · obtain ⟨y, hy, -⟩ := Option.map_eq_some_iff.1 h
    obtain ⟨gs, hgs, hy⟩ := Option.bind_eq_some_iff.1 hy
    have hlen := length_of_pairUp? hgs
    rw [← V6.groups_of_ofGroups? hy, V6.length_groups] at hlen
    exact .inr hlen

/-- **Octets of any other number are refused.** -/
theorem ofOctets_of_length {bs : List UInt8} (h4 : bs.length ≠ 4) (h16 : bs.length ≠ 16) :
    ofOctets bs = .error ⟨.invalidInput,
      "ip address must be 4 or 16 bytes, got " ++ Text.decimal bs.length⟩ := by
  cases h : ofOctets? bs with
  | none => rw [ofOctets, h]
  | some x =>
      rcases length_of_ofOctets? h with hlen | hlen
      · exact absurd hlen h4
      · exact absurd hlen h16

end Address

namespace Resolver

/-- **The ways of giving an address agree.** Every address is read back from its text, with any
white space around it, and from its octets, so the three lookups have the same outcome and leave
the same state, which holds what was asked. Octets of another number are refused, and nothing
changes. -/
theorem lookup_forms (x : Address) {w v : String} (hw : Text.isBlank w = true)
    (hv : Text.isBlank v = true) :
    x.Shows x.render.toList ∧
      Address.parse (w ++ x.render ++ v) = .ok x ∧
      Address.ofOctets x.octets = .ok x ∧
      (∀ (r : Resolver) (file : Option Entry) (st : ResolverState),
        r.lookupText file (w ++ x.render ++ v) st = r.lookup file x st ∧
          r.lookupOctets file x.octets st = r.lookup file x st) ∧
      ∀ bs : List UInt8, bs.length ≠ 4 → bs.length ≠ 16 →
        ∃ m, Address.ofOctets bs = .error ⟨.invalidInput, m⟩ ∧
          ∀ (r : Resolver) (file : Option Entry) (st : ResolverState),
            r.lookupOctets file bs st = (.returns (.error ⟨.invalidInput, m⟩), st) := by
  have hparse := x.parse_padded hw hv
  refine ⟨?_, hparse, Address.ofOctets_octets x, ?_, ?_⟩
  · rw [Address.render, String.toList_ofList]
    exact x.shows_print
  · intro r file st
    constructor
    · rw [lookupText, hparse]
    · rw [lookupOctets, Address.ofOctets_octets]
  · intro bs h4 h16
    have herror := Address.ofOctets_of_length h4 h16
    refine ⟨_, herror, ?_⟩
    intro r file st
    rw [lookupOctets, herror]

/-- An address with two runs of zero groups, between an ideographic space and a line break; and five
octets, which are no address. -/
theorem lookup_forms_twoRuns :
    Text.isBlank "\u3000" = true ∧ Text.isBlank "\n" = true ∧
      Address.parse "\u30001:0:0:2::3\n" = .ok (.v6 ⟨1, 0, 0, 2, 0, 0, 0, 3⟩) ∧
      (∀ (r : Resolver) (file : Option Entry) (st : ResolverState),
        r.lookupText file "\u30001:0:0:2::3\n" st =
          r.lookup file (.v6 ⟨1, 0, 0, 2, 0, 0, 0, 3⟩) st) ∧
      ∃ m, Address.ofOctets [1, 2, 3, 4, 5] = .error ⟨.invalidInput, m⟩ := by
  have hw : Text.isBlank "\u3000" = true := by decide
  have hv : Text.isBlank "\n" = true := by decide
  have htext : "\u3000" ++ (Address.v6 ⟨1, 0, 0, 2, 0, 0, 0, 3⟩).render ++ "\n" =
      "\u30001:0:0:2::3\n" := by decide +kernel
  have hforms := lookup_forms (.v6 ⟨1, 0, 0, 2, 0, 0, 0, 3⟩) hw hv
  rw [htext] at hforms
  obtain ⟨-, hparse, -, hlookup, hrefused⟩ := hforms
  obtain ⟨m, hm, -⟩ := hrefused [1, 2, 3, 4, 5] (by decide) (by decide)
  exact ⟨hw, hv, hparse, fun r file st => (hlookup r file st).1, m, hm⟩

end Resolver

end CountryLookup
