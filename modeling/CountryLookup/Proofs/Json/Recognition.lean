import CountryLookup.Proofs.Json.Contents

/-!
# What is read as JSON is JSON

The reader takes no text that the rules do not give. Each of its functions cuts what it read off the
front of the text, and what it cut off follows the rule for it. White space is no part of a value, so
what was skipped before and behind one is added to it afterwards.

A string is read as parts, and only then its parts are put together to characters: two halves of a
pair are one character. So the parts have rules of their own, from which those of characters follow.

With the converse the rules and the reader say the same, and as a reader has one answer, no text says
two things.

## Main results

* `PartsSpelling.textSpelling` — parts that stand for a text are a writing of it.
* `yields_readValue` — what was read as a value is one.
* `denotes_iff` — the texts that are read are those that are JSON.
* `Denotes.unique` — no text says two things.
-/

namespace CountryLookup.Json

open Text

theorem blank_skipBlank (cs : List Char) : ∃ b, Blank b ∧ cs = b ++ skipBlank cs := by
  refine ⟨cs.takeWhile isBlankChar, fun c hc => ?_, List.takeWhile_append_dropWhile.symm⟩
  have hblank : isBlankChar c = true := List.all_eq_true.1 List.all_takeWhile c hc
  simpa [isBlankChar, or_assoc] using hblank

/-! ## Strings -/

/-- How the parts of a string may be written. -/
inductive PartsSpelling : List Part → List Char → Prop where
  | nil : PartsSpelling [] []
  | plain {c : Char} {us : List Part} {w : List Char} (h : 0x20 ≤ c.toNat) (hq : c ≠ '"')
    (hb : c ≠ '\\') (hs : PartsSpelling us w) : PartsSpelling (.char c :: us) (c :: w)
  | letter {e c : Char} {us : List Part} {w : List Char} (h : (e, c) ∈ letterEscapes)
    (hs : PartsSpelling us w) : PartsSpelling (.char c :: us) ('\\' :: e :: w)
  | unit {ds : List Char} {n : Nat} {us : List Part} {w : List Char} (h : CodeUnit ds n)
    (hs : PartsSpelling us w) : PartsSpelling (.code n :: us) ('\\' :: 'u' :: (ds ++ w))

theorem mem_letterEscapes {e c : Char} (h : escaped? e = some c) : (e, c) ∈ letterEscapes := by
  unfold escaped? at h
  split at h
  all_goals cases h
  all_goals simp [letterEscapes]

/-- Four digits are a code unit. -/
theorem codeUnit_of_digits {a b c d : Char}
    (h : (isDigit 16 a && isDigit 16 b && isDigit 16 c && isDigit 16 d) = true) :
    CodeUnit [a, b, c, d] (digitsValue 16 [a, b, c, d]) where
  numeral := by
    simp only [Bool.and_eq_true] at h
    refine (numeral_iff (by decide)).2 ⟨List.cons_ne_nil _ _, ?_, rfl⟩
    simp [h]
  length := rfl

/-- **What is read as a string are parts**, up to the closing quote. -/
theorem partsSpelling_of_readString {cs : List Char} {us : List Part} {rest : List Char}
    (h : readString cs = some (us, rest)) : ∃ w, cs = w ++ '"' :: rest ∧ PartsSpelling us w := by
  fun_induction readString cs generalizing us with
  | case1 cs =>
      cases h
      exact ⟨[], rfl, .nil⟩
  | case2 a b c d cs hdigits ih =>
      obtain ⟨⟨us, rest⟩, hcs, heq⟩ := Option.map_eq_some_iff.1 h
      cases heq
      obtain ⟨w, rfl, hw⟩ := ih hcs
      exact ⟨_, rfl, .unit (codeUnit_of_digits hdigits) hw⟩
  | case4 e cs _ x hx ih =>
      obtain ⟨⟨us, rest⟩, hcs, heq⟩ := Option.map_eq_some_iff.1 h
      cases heq
      obtain ⟨w, rfl, hw⟩ := ih hcs
      exact ⟨_, rfl, .letter (mem_letterEscapes hx) hw⟩
  | case7 c cs hq _ _ hplain ih =>
      obtain ⟨⟨us, rest⟩, hcs, heq⟩ := Option.map_eq_some_iff.1 h
      cases heq
      obtain ⟨w, rfl, hw⟩ := ih hcs
      simp only [Bool.or_eq_true, beq_iff_eq, decide_eq_true_eq, not_or] at hplain
      exact ⟨_, rfl, .plain (by omega) hq hplain.1 hw⟩
  | _ => cases h

/-- A number that is no half of a pair is that of its character. -/
theorem toNat_ofNat_of_not_half {n : Nat} (h : n < 0xD800 ∨ 0xE000 ≤ n ∧ n < 0x110000) :
    (Char.ofNat n).toNat = n := by
  have hvalid : n.isValidChar := h.imp id fun h => ⟨by omega, h.2⟩
  rw [Char.ofNat, dif_pos hvalid]
  rfl

/-- A code unit that is no half of a pair is a character by number. -/
theorem CodeUnit.charSpelling {ds : List Char} {n : Nat} (h : CodeUnit ds n)
    (hhalf : ¬ (0xD800 ≤ n ∧ n < 0xE000)) :
    CharSpelling (Char.ofNat n) ('\\' :: 'u' :: ds) := by
  have hlt : n < 16 ^ ds.length := h.numeral.lt_pow
  rw [h.length] at hlt
  refine .unit ?_
  rwa [toNat_ofNat_of_not_half (by omega)]

/-- **Parts that stand for a text are a writing of it.** -/
theorem PartsSpelling.textSpelling {us : List Part} {w cs : List Char} (h : PartsSpelling us w)
    (hcs : textOfParts? us = some cs) : TextSpelling cs w := by
  fun_induction textOfParts? us generalizing w cs with
  | case1 =>
      cases hcs
      cases h
      exact .nil
  | case2 c us ih =>
      obtain ⟨tail, htail, rfl⟩ := Option.map_eq_some_iff.1 hcs
      cases h with
      | plain h hq hb hs => exact .cons (.plain h hq hb) (ih hs htail)
      | letter h hs => exact .cons (.letter h) (ih hs htail)
  | case3 hi lo us hpair ih =>
      obtain ⟨tail, htail, rfl⟩ := Option.map_eq_some_iff.1 hcs
      cases h with
      | @unit ds _ _ _ hds hs =>
          cases hs with
          | @unit es _ _ w hes hs =>
              have hchar := CharSpelling.pair hds hes ⟨hpair.1, hpair.2.1⟩ hpair.2.2
                (toNat_ofNat_of_not_half (by omega))
              have htext := TextSpelling.cons hchar (ih hs htail)
              simpa using htext
  | case5 hi lo us _ hhalf ih =>
      obtain ⟨tail, htail, rfl⟩ := Option.map_eq_some_iff.1 hcs
      cases h with
      | unit hds hs => exact .cons (hds.charSpelling hhalf) (ih hs htail)
  | case7 n us _ hhalf ih =>
      obtain ⟨tail, htail, rfl⟩ := Option.map_eq_some_iff.1 hcs
      cases h with
      | unit hds hs => exact .cons (hds.charSpelling hhalf) (ih hs htail)
  | _ => cases hcs

/-- What is read as a string is a writing of the text that it stands for. -/
theorem textSpelling_of_readString {cs : List Char} {us : List Part} {rest : List Char}
    (h : readString cs = some (us, rest)) :
    ∃ w, cs = w ++ '"' :: rest ∧ ∀ text, textOfParts? us = some text → TextSpelling text w := by
  obtain ⟨w, rfl, hw⟩ := partsSpelling_of_readString h
  exact ⟨w, rfl, fun _ htext => hw.textSpelling htext⟩

/-! ## Numbers -/

theorem spanDigits_eq {cs ds rest : List Char} (h : spanDigits cs = (ds, rest)) :
    cs = ds ++ rest ∧ ds.all (isDigit 10) = true := by
  rw [spanDigits, List.span_eq_takeWhile_dropWhile] at h
  obtain ⟨rfl, rfl⟩ := Prod.mk.inj h
  exact ⟨List.takeWhile_append_dropWhile.symm, List.all_takeWhile⟩

/-- The digits that are read are digits, if there is one. -/
theorem isDigits_of_spanDigits {cs ds rest : List Char} (h : spanDigits cs = (ds, rest))
    (hne : ds ≠ []) : IsDigits ds := ⟨hne, (spanDigits_eq h).2⟩

theorem fractionSpelling_of_readFraction {cs ds rest : List Char}
    (h : readFraction cs = some (ds, rest)) : ∃ f, cs = f ++ rest ∧ FractionSpelling ds f := by
  unfold readFraction at h
  split at h
  · next cs =>
      split at h
      · cases h
      · next hne =>
          have hspan := Option.some.inj h
          refine ⟨'.' :: ds, by rw [(spanDigits_eq hspan).1, List.cons_append], .some ?_⟩
          refine isDigits_of_spanDigits hspan ?_
          rintro rfl
          exact hne rest hspan
  · cases h
    exact ⟨[], rfl, .none⟩

/-- What is read behind the letter and the sign of an exponent are digits. -/
theorem isDigits_of_exponent {cs rest : List Char} {negative : Bool}
    {exponent : Option (Bool × List Char)}
    (h : (match spanDigits cs with
      | ([], _) => none
      | (ds, cs) => some (some (negative, ds), cs)) = some (exponent, rest)) :
    ∃ ds, exponent = some (negative, ds) ∧ cs = ds ++ rest ∧ IsDigits ds := by
  split at h
  · cases h
  · next ds tail hne hspan =>
      cases h
      refine ⟨ds, rfl, (spanDigits_eq hspan).1, isDigits_of_spanDigits hspan ?_⟩
      rintro rfl
      exact hne rfl

theorem exponentSpelling_of_readExponent {cs rest : List Char} {exponent : Option (Bool × List Char)}
    (h : readExponent cs = some (exponent, rest)) :
    ∃ e, cs = e ++ rest ∧ ExponentSpelling exponent e := by
  unfold readExponent at h
  split at h
  · next c cs =>
      split at h
      · next hletter =>
          have hc : c = 'e' ∨ c = 'E' := by simpa using hletter
          split at h
          next negative tail hsign =>
          obtain ⟨ds, rfl, rfl, hds⟩ := isDigits_of_exponent h
          split at hsign
          · cases hsign
            exact ⟨_, rfl, .minus hc hds⟩
          · cases hsign
            exact ⟨_, rfl, .plus hc hds⟩
          · cases hsign
            exact ⟨_, rfl, .plain hc hds⟩
      · cases h
        exact ⟨[], rfl, .none⟩
  · cases h
    exact ⟨[], rfl, .none⟩

/-- A whole part and what is read behind it are a number. -/
theorem numberSpelling_of_parts {neg : Bool} {whole cs rest : List Char} {n : Number}
    (hwhole : IsDigits whole) (hlead : whole.head? = some '0' → whole = ['0'])
    (h : ((readFraction cs).bind fun f => (readExponent f.2).bind fun e =>
      some (Number.mk neg whole f.1 e.1, e.2)) = some (n, rest)) :
    ∃ w, cs = w ++ rest ∧ NumberSpelling n ((if neg then ['-'] else []) ++ (whole ++ w)) := by
  obtain ⟨⟨fraction, tail⟩, hfraction, h⟩ := Option.bind_eq_some_iff.1 h
  obtain ⟨⟨exponent, tail'⟩, hexponent, h⟩ := Option.bind_eq_some_iff.1 h
  cases h
  obtain ⟨f, rfl, hf⟩ := fractionSpelling_of_readFraction hfraction
  obtain ⟨e, rfl, he⟩ := exponentSpelling_of_readExponent hexponent
  exact ⟨f ++ e, (List.append_assoc f e _).symm, .number neg hwhole hlead hf he⟩

theorem numberSpelling_of_readUnsigned {neg : Bool} {cs rest : List Char} {n : Number}
    (h : readUnsigned neg cs = some (n, rest)) :
    ∃ w, cs = w ++ rest ∧ NumberSpelling n ((if neg then ['-'] else []) ++ w) := by
  rw [readUnsigned] at h
  generalize hspan : spanDigits cs = r at h
  split at h
  · cases h
  · next tail =>
      obtain ⟨rfl, hall⟩ := spanDigits_eq hspan
      obtain ⟨w, rfl, hw⟩ := numberSpelling_of_parts ⟨List.cons_ne_nil _ _, hall⟩ (fun _ => rfl) h
      exact ⟨_, (List.append_assoc _ _ _).symm, hw⟩
  · cases h
  · next hnil _ hzero =>
      obtain ⟨whole, tail⟩ := r
      obtain ⟨rfl, hall⟩ := spanDigits_eq hspan
      have hne : whole ≠ [] := by
        rintro rfl
        exact hnil tail rfl
      have hlead : whole.head? = some '0' → whole = ['0'] := by
        intro hhead
        obtain ⟨ds, rfl⟩ := List.head?_eq_some_iff.1 hhead
        exact (hzero ds tail rfl).elim
      obtain ⟨w, rfl, hw⟩ := numberSpelling_of_parts ⟨hne, hall⟩ hlead h
      exact ⟨_, (List.append_assoc _ _ _).symm, hw⟩

/-- **What is read as a number is one.** -/
theorem numberSpelling_of_readNumber {cs rest : List Char} {n : Number}
    (h : readNumber cs = some (n, rest)) : ∃ w, cs = w ++ rest ∧ NumberSpelling n w := by
  by_cases hminus : ∃ tail, cs = '-' :: tail
  · obtain ⟨tail, rfl⟩ := hminus
    rw [readNumber_minus] at h
    obtain ⟨w, rfl, hw⟩ := numberSpelling_of_readUnsigned h
    exact ⟨_, rfl, hw⟩
  · have hunsigned : readNumber cs = readUnsigned false cs := by
      cases cs with
      | nil => rfl
      | cons c cs => exact readNumber_of_ne (fun hc => hminus ⟨cs, by rw [hc]⟩) cs
    rw [hunsigned] at h
    obtain ⟨w, rfl, hw⟩ := numberSpelling_of_readUnsigned h
    exact ⟨_, rfl, hw⟩

/-! ## Values -/

/-- A reader that takes nothing but values. -/
def Yields (item : List Char → Option (Value × List Char)) : Prop :=
  ∀ {cs : List Char} {v : Value} {rest : List Char}, item cs = some (v, rest) →
    ∃ w, cs = w ++ rest ∧ ∀ d, v.content? = some d → Spells d w

section Containers

variable {item : List Char → Option (Value × List Char)}

/-- White space before and behind a value belongs to it. -/
theorem Yields.spaced (hitem : Yields item) {cs : List Char} {v : Value} {rest : List Char}
    (h : item (skipBlank cs) = some (v, rest)) :
    ∃ w, cs = w ++ skipBlank rest ∧ ∀ d, v.content? = some d → Spaced Spells d w := by
  obtain ⟨b, hb, hcs⟩ := blank_skipBlank cs
  obtain ⟨w, hw, hspells⟩ := hitem h
  obtain ⟨b', hb', hrest⟩ := blank_skipBlank rest
  refine ⟨b ++ (w ++ b'), ?_, fun d hd => .spaced hb (hspells d hd) hb'⟩
  rw [List.append_assoc, List.append_assoc, ← hrest, ← hw, ← hcs]

/-- **What is read as the elements of an array are elements.** -/
theorem Yields.elements (hitem : Yields item) {fuel : Nat} {cs : List Char} {vs : List Value}
    {rest : List Char} (h : readElements item fuel cs = some (vs, rest)) :
    ∃ w, cs = w ++ ']' :: rest ∧
      ∀ ds, contentItems? vs = some ds → Listed (Spaced Spells) ds w := by
  induction fuel generalizing cs vs with
  | zero => cases h
  | succ fuel ih =>
      rw [readElements] at h
      obtain ⟨⟨v, tail⟩, hv, hbehind⟩ := Option.bind_eq_some_iff.1 h
      obtain ⟨w, rfl, hw⟩ := hitem.spaced hv
      dsimp only at hbehind
      generalize skipBlank tail = next at hbehind ⊢
      split at hbehind
      · obtain ⟨⟨vs, rest⟩, hvs, heq⟩ := Option.bind_eq_some_iff.1 hbehind
        cases heq
        obtain ⟨ws, rfl, hws⟩ := ih hvs
        refine ⟨w ++ ',' :: ws, by simp, fun ds hds => ?_⟩
        obtain ⟨d, es, hd, hes, rfl⟩ := contentItems?_cons hds
        exact .more (hw d hd) (hws es hes)
      · cases hbehind
        refine ⟨w, rfl, fun ds hds => ?_⟩
        obtain ⟨d, es, hd, hes, rfl⟩ := contentItems?_cons hds
        cases hes
        exact .one (hw d hd)
      · cases hbehind

/-- **What is read as the members of an object are members.** -/
theorem Yields.members (hitem : Yields item) {fuel : Nat} {cs : List Char}
    {vs : List (List Part × Value)} {rest : List Char}
    (h : readMembers item fuel cs = some (vs, rest)) :
    ∃ w, cs = w ++ '\x7d' :: rest ∧
      ∀ ms, contentMembers? vs = some ms → Listed (Member Spells) ms w := by
  induction fuel generalizing cs vs with
  | zero => cases h
  | succ fuel ih =>
      rw [readMembers] at h
      obtain ⟨b, hb, hcs⟩ := blank_skipBlank cs
      generalize skipBlank cs = first at h hcs
      subst hcs
      split at h
      swap
      · cases h
      obtain ⟨⟨k, behindKey⟩, hkey, hbehindKey⟩ := Option.bind_eq_some_iff.1 h
      obtain ⟨key, rfl, htext⟩ := textSpelling_of_readString hkey
      obtain ⟨b', hb', hcolon⟩ := blank_skipBlank behindKey
      dsimp only at hbehindKey
      generalize skipBlank behindKey = second at hbehindKey hcolon
      subst hcolon
      split at hbehindKey
      swap
      · cases hbehindKey
      rw [Option.bind_eq_bind, Option.bind_some] at hbehindKey
      obtain ⟨⟨v, tail⟩, hv, hbehind⟩ := Option.bind_eq_some_iff.1 hbehindKey
      obtain ⟨w, rfl, hw⟩ := hitem.spaced hv
      have hmember : ∀ text d, textOfParts? k = some text → v.content? = some d →
          Member Spells (String.ofList text, d) (b ++ '"' :: (key ++ '"' :: (b' ++ ':' :: w))) := by
        intro text d hk hd
        refine .member hb ?_ hb' (hw d hd)
        rw [String.toList_ofList]
        exact htext text hk
      dsimp only at hbehind
      generalize skipBlank tail = next at hbehind ⊢
      split at hbehind
      · obtain ⟨⟨vs, rest⟩, hvs, heq⟩ := Option.bind_eq_some_iff.1 hbehind
        cases heq
        obtain ⟨ws, rfl, hws⟩ := ih hvs
        refine ⟨(b ++ '"' :: (key ++ '"' :: (b' ++ ':' :: w))) ++ ',' :: ws, by simp, ?_⟩
        intro ms hms
        obtain ⟨text, d, es, hk, hd, hes, rfl⟩ := contentMembers?_cons hms
        exact .more (hmember text d hk hd) (hws es hes)
      · cases hbehind
        refine ⟨b ++ '"' :: (key ++ '"' :: (b' ++ ':' :: w)), by simp, fun ms hms => ?_⟩
        obtain ⟨text, d, es, hk, hd, hes, rfl⟩ := contentMembers?_cons hms
        cases hes
        exact .one (hmember text d hk hd)
      · cases hbehind

/-- **What is read at one level is a value** if it is on the level below. -/
theorem Yields.readOne (hitem : Yields item) : Yields (readOne item) := by
  intro cs v rest h
  unfold Json.readOne at h
  split at h
  · cases h
    refine ⟨['n', 'u', 'l', 'l'], rfl, fun d hd => ?_⟩
    cases hd
    exact .null
  · cases h
    refine ⟨['t', 'r', 'u', 'e'], rfl, fun d hd => ?_⟩
    cases hd
    exact .yes
  · cases h
    refine ⟨['f', 'a', 'l', 's', 'e'], rfl, fun d hd => ?_⟩
    cases hd
    exact .no
  · obtain ⟨⟨us, tail⟩, hread, heq⟩ := Option.map_eq_some_iff.1 h
    cases heq
    obtain ⟨w, rfl, hw⟩ := textSpelling_of_readString hread
    refine ⟨'"' :: (w ++ ['"']), by simp, fun d hd => ?_⟩
    obtain ⟨text, htext, rfl⟩ := Option.map_eq_some_iff.1 hd
    refine .text ?_
    rw [String.toList_ofList]
    exact hw text htext
  · next cs =>
      obtain ⟨b, hb, hcs⟩ := blank_skipBlank cs
      split at h
      · next tail hclose =>
          cases h
          refine ⟨'[' :: (b ++ [']']), by rw [hcs, hclose]; simp, fun d hd => ?_⟩
          cases hd
          exact .noItems hb
      · obtain ⟨⟨vs, tail⟩, hread, heq⟩ := Option.map_eq_some_iff.1 h
        cases heq
        obtain ⟨w, hw, hlisted⟩ := hitem.elements hread
        refine ⟨'[' :: (w ++ [']']), by rw [hw]; simp, fun d hd => ?_⟩
        obtain ⟨ds, hds, rfl⟩ := Option.map_eq_some_iff.1 hd
        exact .array (hlisted ds hds)
  · next cs =>
      obtain ⟨b, hb, hcs⟩ := blank_skipBlank cs
      split at h
      · next tail hclose =>
          cases h
          refine ⟨'\x7b' :: (b ++ ['\x7d']), by rw [hcs, hclose]; simp, fun d hd => ?_⟩
          cases hd
          exact .noMembers hb
      · obtain ⟨⟨vs, tail⟩, hread, heq⟩ := Option.map_eq_some_iff.1 h
        cases heq
        obtain ⟨w, hw, hlisted⟩ := hitem.members hread
        refine ⟨'\x7b' :: (w ++ ['\x7d']), by rw [hw]; simp, fun d hd => ?_⟩
        obtain ⟨ms, hms, rfl⟩ := Option.map_eq_some_iff.1 hd
        exact .object (hlisted ms hms)
  · obtain ⟨⟨n, tail⟩, hread, heq⟩ := Option.map_eq_some_iff.1 h
    cases heq
    obtain ⟨w, rfl, hw⟩ := numberSpelling_of_readNumber hread
    refine ⟨w, rfl, fun d hd => ?_⟩
    cases hd
    exact .number hw

end Containers

/-- **What is read as a value is one.** -/
theorem yields_readValue (n : Nat) : Yields (readValue n) := by
  induction n with
  | zero =>
      intro cs v rest h
      cases h
  | succ n ih => exact ih.readOne

/-- **The texts that are read are those that are JSON**, and what is read says what the text says. -/
theorem denotes_iff {s : String} {d : Content} :
    Denotes s d ↔ (parse? s).bind Value.content? = some d := by
  constructor
  · intro h
    obtain ⟨v, hread, hmeans⟩ := parse?_of_denotes h
    rw [hread]
    exact hmeans
  · intro h
    obtain ⟨v, hread, hmeans⟩ := Option.bind_eq_some_iff.1 h
    rw [parse?] at hread
    obtain ⟨⟨v', rest⟩, hv, hend⟩ := Option.bind_eq_some_iff.1 hread
    obtain ⟨w, hw, hspaced⟩ := Yields.spaced (yields_readValue _) hv
    dsimp only at hend
    split at hend
    · next hempty =>
        cases hend
        rw [List.isEmpty_iff.1 hempty, List.append_nil] at hw
        rw [Denotes, hw]
        exact hspaced d hmeans
    · cases hend

/-- **No text says two things.** -/
theorem Denotes.unique {s : String} {d d' : Content} (h : Denotes s d) (h' : Denotes s d') :
    d = d' := by
  rw [denotes_iff] at h h'
  rw [h] at h'
  exact Option.some.inj h'

end CountryLookup.Json
