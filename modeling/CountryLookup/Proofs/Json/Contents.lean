import CountryLookup.Proofs.Json.Grammar

/-!
# The grammar of JSON: values

The texts that are JSON are given here by rules, with what each of them says: a tree of texts,
numbers and words, in which strings are no longer written but are the texts that they stand for.
White space between tokens says nothing, and neither does the choice between the writings of a
character. Members of an object keep their order.

The reader agrees with the rules on each level if it does on the levels below. A text nests no deeper
than it is long, so the induction is on a length that bounds both.

What a text says may still be too much for somebody who asks for it: too many levels, or a number out
of the range of doubles.

## Main results

* `Reads.elements`, `Reads.members` — what is inside brackets is read up to the end of it.
* `reads_readValue` — a value is read up to what ends it.
* `parse?_of_denotes` — a text that is JSON is read, and what is read says what the text says.
* `sound_of_within` — what is within the limits makes sense.
-/

namespace CountryLookup.Json

open Text

/-! ## Values -/

/-- What a JSON text says: strings are the texts that they stand for, and numbers stay as they are
written. -/
inductive Content where
  | null
  | bool (b : Bool)
  | number (n : Number)
  | text (s : String)
  | array (items : List Content)
  | object (members : List (String × Content))

/-- One or more items with commas between them. -/
inductive Listed {α : Type} (R : α → List Char → Prop) : List α → List Char → Prop where
  | one {a : α} {w : List Char} (h : R a w) : Listed R [a] w
  | more {a : α} {as : List α} {w ws : List Char} (h : R a w) (hs : Listed R as ws) :
    Listed R (a :: as) (w ++ ',' :: ws)

/-- A value with white space around it. -/
inductive Spaced (R : Content → List Char → Prop) : Content → List Char → Prop where
  | spaced {b w b' : List Char} {d : Content} (hb : Blank b) (h : R d w) (hb' : Blank b') :
    Spaced R d (b ++ (w ++ b'))

/-- A member of an object: a key between quotes, a colon and a value, with white space around each. -/
inductive Member (R : Content → List Char → Prop) : String × Content → List Char → Prop where
  | member {b k b' w : List Char} {key : String} {d : Content} (hb : Blank b)
    (hk : TextSpelling key.toList k) (hb' : Blank b') (h : Spaced R d w) :
    Member R (key, d) (b ++ '"' :: (k ++ '"' :: (b' ++ ':' :: w)))

/-- The texts that are JSON values, with what each says. -/
inductive Spells : Content → List Char → Prop where
  | null : Spells .null ['n', 'u', 'l', 'l']
  | yes : Spells (.bool true) ['t', 'r', 'u', 'e']
  | no : Spells (.bool false) ['f', 'a', 'l', 's', 'e']
  | number {n : Number} {w : List Char} (h : NumberSpelling n w) : Spells (.number n) w
  | text {s : String} {w : List Char} (h : TextSpelling s.toList w) :
    Spells (.text s) ('"' :: (w ++ ['"']))
  | noItems {b : List Char} (hb : Blank b) : Spells (.array []) ('[' :: (b ++ [']']))
  | array {ds : List Content} {w : List Char} (h : Listed (Spaced Spells) ds w) :
    Spells (.array ds) ('[' :: (w ++ [']']))
  | noMembers {b : List Char} (hb : Blank b) : Spells (.object []) ('\x7b' :: (b ++ ['\x7d']))
  | object {ms : List (String × Content)} {w : List Char} (h : Listed (Member Spells) ms w) :
    Spells (.object ms) ('\x7b' :: (w ++ ['\x7d']))

mutual

/-- What a value says, if every string in it is a text. -/
def Value.content? : Value → Option Content
  | .null => some .null
  | .bool b => some (.bool b)
  | .number n => some (.number n)
  | .text us => (textOfParts? us).map fun cs => .text (String.ofList cs)
  | .array vs => (contentItems? vs).map .array
  | .object ms => (contentMembers? ms).map .object

/-- What the elements of an array say. -/
def contentItems? : List Value → Option (List Content)
  | [] => some []
  | v :: vs => do
    let d ← v.content?
    let ds ← contentItems? vs
    pure (d :: ds)

/-- What the members of an object say. -/
def contentMembers? : List (List Part × Value) → Option (List (String × Content))
  | [] => some []
  | (k, v) :: ms => do
    let key ← textOfParts? k
    let d ← v.content?
    let rest ← contentMembers? ms
    pure ((String.ofList key, d) :: rest)

end

/-- Elements say something if each of them does. -/
theorem contentItems?_cons {v : Value} {vs : List Value} {ds : List Content}
    (h : contentItems? (v :: vs) = some ds) : ∃ d es, v.content? = some d ∧
      contentItems? vs = some es ∧ ds = d :: es := by
  rw [contentItems?] at h
  obtain ⟨d, hv, h⟩ := Option.bind_eq_some_iff.1 h
  obtain ⟨es, hvs, h⟩ := Option.bind_eq_some_iff.1 h
  exact ⟨d, es, hv, hvs, (Option.some.inj h).symm⟩

/-- Members say something if each key and each value does. -/
theorem contentMembers?_cons {k : List Part} {v : Value} {vs : List (List Part × Value)}
    {ms : List (String × Content)} (h : contentMembers? ((k, v) :: vs) = some ms) :
    ∃ key d ns, textOfParts? k = some key ∧ v.content? = some d ∧
      contentMembers? vs = some ns ∧ ms = (String.ofList key, d) :: ns := by
  rw [contentMembers?] at h
  obtain ⟨key, hk, h⟩ := Option.bind_eq_some_iff.1 h
  obtain ⟨d, hv, h⟩ := Option.bind_eq_some_iff.1 h
  obtain ⟨ns, hvs, h⟩ := Option.bind_eq_some_iff.1 h
  exact ⟨key, d, ns, hk, hv, hvs, (Option.some.inj h).symm⟩

/-- What says an object is one. -/
theorem content?_eq_object {v : Value} {ms : List (String × Content)}
    (h : v.content? = some (.object ms)) : ∃ vs, v = .object vs ∧ contentMembers? vs = some ms := by
  cases v with
  | object vs =>
      obtain ⟨ns, hns, heq⟩ := Option.map_eq_some_iff.1 h
      cases heq
      exact ⟨vs, rfl, hns⟩
  | array vs =>
      obtain ⟨ds, -, heq⟩ := Option.map_eq_some_iff.1 h
      cases heq
  | text us =>
      obtain ⟨cs, -, heq⟩ := Option.map_eq_some_iff.1 h
      cases heq
  | _ => cases h

/-! ## Reading values -/

/-- A character with which a value may begin. -/
def isFirstChar (c : Char) : Bool :=
  isDigit 10 c || ['-', '"', '[', '\x7b', 'n', 't', 'f'].contains c

theorem NumberSpelling.first {n : Number} {w : List Char} (h : NumberSpelling n w) :
    ∃ c cs, w = c :: cs ∧ (c = '-' ∨ isDigit 10 c = true) := by
  cases h with
  | @number neg whole fraction f e exponent hwhole hlead hfraction hexponent =>
      cases neg with
      | true => exact ⟨_, _, rfl, .inl rfl⟩
      | false =>
          obtain ⟨d, tail, rfl⟩ := List.exists_cons_of_ne_nil hwhole.1
          have hall := hwhole.2
          rw [List.all_cons, Bool.and_eq_true] at hall
          exact ⟨_, _, rfl, .inr hall.1⟩

theorem Spells.first {d : Content} {w : List Char} (h : Spells d w) :
    ∃ c cs, w = c :: cs ∧ isFirstChar c = true := by
  cases h with
  | number h =>
      obtain ⟨c, cs, rfl, hc⟩ := h.first
      refine ⟨c, cs, rfl, ?_⟩
      rcases hc with rfl | hc
      · decide
      · rw [isFirstChar, hc, Bool.true_or]
  | _ => exact ⟨_, _, rfl, by decide⟩

/-- A number is read as one, since no word and no bracket begins like it. -/
theorem readOne_number (item : List Char → Option (Value × List Char)) {c : Char}
    (hc : c = '-' ∨ isDigit 10 c = true) (cs : List Char) :
    readOne item (c :: cs) = (readNumber (c :: cs)).map fun r => (.number r.1, r.2) := by
  have hne : ∀ d ∈ ['n', 't', 'f', '"', '[', '\x7b'], c ≠ d := by
    rintro d hd rfl
    rcases hc with rfl | hc
    · exact absurd hd (by decide)
    · have hall : ∀ d ∈ ['n', 't', 'f', '"', '[', '\x7b'], isDigit 10 d = false := by
        simp [isDigit, digitValue?]
      rw [hall c hd] at hc
      cases hc
  unfold readOne
  split
  all_goals first
    | rfl
    | (rename_i heq; exact absurd (List.cons.inj heq).1 (hne _ (by decide)))

/-- What stands behind a value with white space stops the value. -/
theorem Stops.blank {b rest : List Char} (hb : Blank b) (hrest : Stops rest) : Stops (b ++ rest) := by
  cases b with
  | nil => exact hrest
  | cons c b =>
      intro d hd
      rw [← Option.some.inj hd]
      have hall : ∀ c ∈ [' ', '\t', '\n', '\r'],
          c ∈ [' ', '\t', '\n', '\r', ',', ']', '\x7d'] := by simp
      exact hall c (hb c List.mem_cons_self)

theorem Stops.cons {c : Char} (h : c ∈ [',', ']', '\x7d']) (cs : List Char) : Stops (c :: cs) := by
  have hall : ∀ c ∈ [',', ']', '\x7d'], c ∈ [' ', '\t', '\n', '\r', ',', ']', '\x7d'] := by simp
  intro d hd
  rw [← Option.some.inj hd]
  exact hall c h

/-- A reader of values that are at most so long. -/
def Reads (item : List Char → Option (Value × List Char)) (n : Nat) : Prop :=
  ∀ {d : Content} {w : List Char}, Spells d w → w.length ≤ n → ∀ {rest : List Char}, Stops rest →
    ∃ v, item (w ++ rest) = some (v, rest) ∧ v.content? = some d

section Containers

variable {item : List Char → Option (Value × List Char)} {n : Nat}

theorem skipBlank_spells {d : Content} {w : List Char} (h : Spells d w) (rest : List Char) :
    skipBlank (w ++ rest) = w ++ rest := by
  obtain ⟨c, cs, rfl, hc⟩ := h.first
  refine skipBlank_cons ?_ (cs ++ rest)
  cases hblank : isBlankChar c with
  | false => rfl
  | true =>
      exfalso
      simp only [isBlankChar, Bool.or_eq_true, beq_iff_eq] at hblank
      rcases hblank with ((rfl | rfl) | rfl) | rfl <;> exact absurd hc (by decide)

/-- A value with white space around it is read, and some of the white space is left. -/
theorem Reads.spaced (hitem : Reads item n) {d : Content} {w : List Char} (h : Spaced Spells d w)
    (hn : w.length ≤ n) {rest : List Char} (hrest : Stops rest) :
    ∃ v b, Blank b ∧ item (skipBlank (w ++ rest)) = some (v, b ++ rest) ∧
      v.content? = some d := by
  cases h with
  | @spaced b w b' _ hb h hb' =>
      rw [List.length_append, List.length_append] at hn
      obtain ⟨v, hread, hmeans⟩ := hitem h (by omega) (hrest.blank hb')
      refine ⟨v, b', hb', ?_, hmeans⟩
      rw [List.append_assoc, List.append_assoc, skipBlank_blank hb, skipBlank_spells h, hread]

theorem length_pos_of_spaced {d : Content} {w : List Char} (h : Spaced Spells d w) :
    0 < w.length := by
  cases h with
  | spaced _ h _ =>
      obtain ⟨c, cs, rfl, -⟩ := h.first
      simp only [List.length_append, List.length_cons]
      omega

/-- **The elements of an array are read** up to its end. -/
theorem Reads.elements (hitem : Reads item n) {ds : List Content} {w : List Char}
    (h : Listed (Spaced Spells) ds w) (hn : w.length ≤ n) {fuel : Nat} (hf : w.length ≤ fuel)
    (rest : List Char) :
    ∃ vs, readElements item fuel (w ++ ']' :: rest) = some (vs, rest) ∧
      contentItems? vs = some ds := by
  induction h generalizing fuel with
  | @one d w h =>
      have hpos := length_pos_of_spaced h
      obtain ⟨fuel, rfl⟩ : ∃ k, fuel = k + 1 := ⟨fuel - 1, by omega⟩
      have hstops : Stops (']' :: rest) := .cons (by decide) rest
      obtain ⟨v, b, hb, hread, hmeans⟩ := hitem.spaced h hn hstops
      have hend : skipBlank (b ++ ']' :: rest) = ']' :: rest :=
        (skipBlank_blank hb _).trans (skipBlank_cons (by decide) rest)
      refine ⟨[v], ?_, ?_⟩
      · simp only [readElements, hread, hend, Option.bind_eq_bind, Option.bind_some, Option.pure_def]
      · simp [contentItems?, hmeans]
  | @more d ds w ws h _ ih =>
      rw [List.length_append, List.length_cons] at hn hf
      obtain ⟨fuel, rfl⟩ : ∃ k, fuel = k + 1 := ⟨fuel - 1, by omega⟩
      have hstops : Stops (',' :: (ws ++ ']' :: rest)) := .cons (by decide) _
      obtain ⟨v, b, hb, hread, hmeans⟩ := hitem.spaced h (by omega) hstops
      have hfuel : ws.length ≤ fuel := by omega
      obtain ⟨vs, hrest, hall⟩ := ih (by omega) hfuel
      have hcomma : skipBlank (b ++ ',' :: (ws ++ ']' :: rest)) = ',' :: (ws ++ ']' :: rest) :=
        (skipBlank_blank hb _).trans (skipBlank_cons (by decide) _)
      refine ⟨v :: vs, ?_, ?_⟩
      · simp only [List.append_assoc, List.cons_append, readElements, hread, hcomma, hrest,
          Option.bind_eq_bind, Option.bind_some, Option.pure_def]
      · simp [contentItems?, hmeans, hall]

/-- After a member come the other members or the end. -/
theorem Reads.member (hitem : Reads item n) {m : String × Content} {w : List Char}
    (h : Member Spells m w) (hn : w.length ≤ n) {rest : List Char} (hrest : Stops rest)
    (fuel : Nat) :
    ∃ us v, textOfParts? us = some m.1.toList ∧ v.content? = some m.2 ∧
      (∀ cs, rest = '\x7d' :: cs →
        readMembers item (fuel + 1) (w ++ rest) = some ([(us, v)], cs)) ∧
      ∀ cs, rest = ',' :: cs →
        readMembers item (fuel + 1) (w ++ rest) =
          (readMembers item fuel cs).map fun r => ((us, v) :: r.1, r.2) := by
  cases h with
  | @member b k b' w key d hb hk hb' h =>
      simp only [List.length_append, List.length_cons] at hn
      obtain ⟨v, b'', hb'', hvalue, hmeans⟩ := hitem.spaced h (by omega) hrest
      obtain ⟨us, hkey, htext⟩ := hk.readString (b' ++ ':' :: (w ++ rest))
      have hquote : skipBlank (b ++ '"' :: (k ++ '"' :: (b' ++ ':' :: (w ++ rest)))) =
          '"' :: (k ++ '"' :: (b' ++ ':' :: (w ++ rest))) :=
        (skipBlank_blank hb _).trans (skipBlank_cons (by decide) _)
      have hcolon : skipBlank (b' ++ ':' :: (w ++ rest)) = ':' :: (w ++ rest) :=
        (skipBlank_blank hb' _).trans (skipBlank_cons (by decide) _)
      refine ⟨us, v, htext, hmeans, ?_, ?_⟩
      · rintro cs rfl
        have hend : skipBlank (b'' ++ '\x7d' :: cs) = '\x7d' :: cs :=
          (skipBlank_blank hb'' _).trans (skipBlank_cons (by decide) _)
        simp only [List.append_assoc, List.cons_append, readMembers, hquote, hkey, hcolon, hvalue,
          hend, Option.bind_eq_bind, Option.bind_some, Option.pure_def]
      · rintro cs rfl
        have hcomma : skipBlank (b'' ++ ',' :: cs) = ',' :: cs :=
          (skipBlank_blank hb'' _).trans (skipBlank_cons (by decide) _)
        simp only [List.append_assoc, List.cons_append, readMembers, hquote, hkey, hcolon, hvalue,
          hcomma, Option.bind_eq_bind, Option.bind_some]
        cases readMembers item fuel cs <;> rfl

/-- **The members of an object are read** up to its end. -/
theorem Reads.members (hitem : Reads item n) {ms : List (String × Content)} {w : List Char}
    (h : Listed (Member Spells) ms w) (hn : w.length ≤ n) {fuel : Nat} (hf : w.length ≤ fuel)
    (rest : List Char) :
    ∃ vs, readMembers item fuel (w ++ '\x7d' :: rest) = some (vs, rest) ∧
      contentMembers? vs = some ms := by
  induction h generalizing fuel with
  | @one m w h =>
      have hpos : 0 < w.length := by
        cases h
        simp only [List.length_append, List.length_cons]
        omega
      obtain ⟨fuel, rfl⟩ : ∃ k, fuel = k + 1 := ⟨fuel - 1, by omega⟩
      have hstops : Stops ('\x7d' :: rest) := .cons (by decide) rest
      obtain ⟨us, v, hkey, hmeans, hlast, -⟩ := hitem.member h hn hstops fuel
      refine ⟨[(us, v)], hlast rest rfl, ?_⟩
      simp [contentMembers?, hkey, hmeans]
  | @more m ms w ws h _ ih =>
      rw [List.length_append, List.length_cons] at hn hf
      obtain ⟨fuel, rfl⟩ : ∃ k, fuel = k + 1 := ⟨fuel - 1, by omega⟩
      have hstops : Stops (',' :: (ws ++ '\x7d' :: rest)) := .cons (by decide) _
      obtain ⟨us, v, hkey, hmeans, -, hnext⟩ := hitem.member h (by omega) hstops fuel
      have hfuel : ws.length ≤ fuel := by omega
      obtain ⟨vs, hrest, hall⟩ := ih (by omega) hfuel
      refine ⟨(us, v) :: vs, ?_, ?_⟩
      · rw [List.append_assoc, List.cons_append, hnext _ rfl, hrest]
        rfl
      · simp [contentMembers?, hkey, hmeans, hall]

/-- A first element says that an array is not empty. -/
theorem readOne_elements {cs ds : List Char} {c : Char} (h : skipBlank cs = c :: ds)
    (hc : isFirstChar c = true) :
    readOne item ('[' :: cs) = (readElements item cs.length cs).map fun r => (.array r.1, r.2) := by
  simp only [readOne, h]
  split
  · rename_i heq
    cases (List.cons.inj heq).1
    cases hc
  · rfl

/-- A quote says that an object is not empty. -/
theorem readOne_members {cs ds : List Char} (h : skipBlank cs = '"' :: ds) :
    readOne item ('\x7b' :: cs) =
      (readMembers item cs.length cs).map fun r => (.object r.1, r.2) := by
  simp only [readOne, h]
  rfl

theorem skipBlank_spaced {d : Content} {w : List Char} (h : Spaced Spells d w) (rest : List Char) :
    ∃ c cs, skipBlank (w ++ rest) = c :: cs ∧ isFirstChar c = true := by
  cases h with
  | @spaced b w b' _ hb h hb' =>
      rw [List.append_assoc, skipBlank_blank hb, List.append_assoc, skipBlank_spells h]
      obtain ⟨c, cs, rfl, hc⟩ := h.first
      exact ⟨c, _, rfl, hc⟩

theorem skipBlank_elements {ds : List Content} {w : List Char} (h : Listed (Spaced Spells) ds w)
    (rest : List Char) : ∃ c cs, skipBlank (w ++ rest) = c :: cs ∧ isFirstChar c = true := by
  cases h with
  | one h => exact skipBlank_spaced h rest
  | more h _ =>
      rw [List.append_assoc]
      exact skipBlank_spaced h _

theorem skipBlank_member {m : String × Content} {w : List Char} (h : Member Spells m w)
    (rest : List Char) : ∃ cs, skipBlank (w ++ rest) = '"' :: cs := by
  cases h with
  | member hb _ _ _ =>
      rw [List.append_assoc, skipBlank_blank hb, List.cons_append, skipBlank_cons (by decide)]
      exact ⟨_, rfl⟩

theorem skipBlank_members {ms : List (String × Content)} {w : List Char}
    (h : Listed (Member Spells) ms w) (rest : List Char) :
    ∃ cs, skipBlank (w ++ rest) = '"' :: cs := by
  cases h with
  | one h => exact skipBlank_member h rest
  | more h _ =>
      rw [List.append_assoc]
      exact skipBlank_member h _

end Containers

/-- A value is read by a reader that nests as deep as the value is long. -/
theorem reads_readValue (n : Nat) : Reads (readValue n) n := by
  induction n with
  | zero =>
      intro d w h hn
      obtain ⟨c, cs, rfl, -⟩ := h.first
      cases hn
  | succ n ih =>
      intro d w h hn rest hrest
      cases h with
      | null => exact ⟨.null, rfl, rfl⟩
      | yes => exact ⟨.bool true, rfl, rfl⟩
      | no => exact ⟨.bool false, rfl, rfl⟩
      | number h =>
          obtain ⟨c, cs, rfl, hc⟩ := h.first
          refine ⟨.number _, ?_, rfl⟩
          rw [readValue, List.cons_append, readOne_number _ hc, ← List.cons_append,
            readNumber_spelling h hrest]
          rfl
      | @text s w h =>
          obtain ⟨us, hread, hmeans⟩ := h.readString rest
          refine ⟨.text us, ?_, ?_⟩
          · rw [readValue, List.cons_append, List.append_assoc, List.singleton_append, readOne, hread]
            rfl
          · rw [Value.content?, hmeans]
            simp
      | noItems hb =>
          refine ⟨.array [], ?_, rfl⟩
          have hend := (skipBlank_blank hb (']' :: rest)).trans (skipBlank_cons (by decide) rest)
          simp only [readValue, readOne, List.cons_append, List.append_assoc, List.nil_append, hend]
      | @array ds w h =>
          have hlen : w.length ≤ n := by
            simp only [List.length_append, List.length_cons, List.length_nil] at hn
            omega
          obtain ⟨c, cs, hfirst, hc⟩ := skipBlank_elements h (']' :: rest)
          have hfuel : w.length ≤ (w ++ ']' :: rest).length := by simp
          obtain ⟨vs, hread, hmeans⟩ := ih.elements h hlen hfuel rest
          refine ⟨.array vs, ?_, ?_⟩
          · rw [readValue, List.cons_append, List.append_assoc, List.singleton_append,
              readOne_elements hfirst hc, hread]
            rfl
          · rw [Value.content?, hmeans]
            rfl
      | noMembers hb =>
          refine ⟨.object [], ?_, rfl⟩
          have hend := (skipBlank_blank hb ('\x7d' :: rest)).trans (skipBlank_cons (by decide) rest)
          simp only [readValue, readOne, List.cons_append, List.append_assoc, List.nil_append, hend]
      | @object ms w h =>
          have hlen : w.length ≤ n := by
            simp only [List.length_append, List.length_cons, List.length_nil] at hn
            omega
          obtain ⟨cs, hfirst⟩ := skipBlank_members h ('\x7d' :: rest)
          have hfuel : w.length ≤ (w ++ '\x7d' :: rest).length := by simp
          obtain ⟨vs, hread, hmeans⟩ := ih.members h hlen hfuel rest
          refine ⟨.object vs, ?_, ?_⟩
          · rw [readValue, List.cons_append, List.append_assoc, List.singleton_append,
              readOne_members hfirst, hread]
            rfl
          · rw [Value.content?, hmeans]
            rfl

/-- A whole text is a value with white space around it. -/
def Denotes (s : String) (d : Content) : Prop := Spaced Spells d s.toList

/-- **A text that is JSON is read**, and what is read says what the text says. -/
theorem parse?_of_denotes {s : String} {d : Content} (h : Denotes s d) :
    ∃ v, parse? s = some v ∧ v.content? = some d := by
  unfold Denotes at h
  generalize hs : s.toList = cs at h
  cases h with
  | @spaced b w b' _ hb h hb' =>
      have hstops : Stops b' := by
        have hblank : Stops (b' ++ []) := .blank hb' (fun c hc => nomatch hc)
        rwa [List.append_nil] at hblank
      obtain ⟨v, hread, hmeans⟩ := reads_readValue ((w ++ b').length + 1) h (by simp; omega) hstops
      refine ⟨v, ?_, hmeans⟩
      rw [parse?, hs, skipBlank_blank hb, skipBlank_spells h]
      simp only [hread, Option.bind_eq_bind, Option.bind_some, skipBlank_all hb', List.isEmpty_nil,
        if_true, Option.pure_def]

/-! ## Limits -/

mutual

/-- How many arrays and objects nest at most. -/
def Content.depth : Content → Nat
  | .array ds => depthOfItems ds + 1
  | .object ms => depthOfMembers ms + 1
  | _ => 0

/-- How many nest in the elements of an array. -/
def depthOfItems : List Content → Nat
  | [] => 0
  | d :: ds => max d.depth (depthOfItems ds)

/-- How many nest in the members of an object. -/
def depthOfMembers : List (String × Content) → Nat
  | [] => 0
  | (_, d) :: ms => max d.depth (depthOfMembers ms)

end

mutual

/-- The numbers that stand anywhere. -/
def Content.numbers : Content → List Number
  | .number n => [n]
  | .array ds => numbersOfItems ds
  | .object ms => numbersOfMembers ms
  | _ => []

/-- The numbers in the elements of an array. -/
def numbersOfItems : List Content → List Number
  | [] => []
  | d :: ds => d.numbers ++ numbersOfItems ds

/-- The numbers in the members of an object. -/
def numbersOfMembers : List (String × Content) → List Number
  | [] => []
  | (_, d) :: ms => d.numbers ++ numbersOfMembers ms

end

/-- At most so many containers nest, and every number is in the range of doubles. -/
structure Content.Within (room : Nat) (d : Content) : Prop where
  depth : d.depth ≤ room
  numbers : ∀ n ∈ d.numbers, n.meaning?.isSome = true

instance (room : Nat) (d : Content) : Decidable (d.Within room) :=
  decidable_of_iff (d.depth ≤ room ∧ ∀ n ∈ d.numbers, n.meaning?.isSome = true)
    ⟨fun h => ⟨h.1, h.2⟩, fun h => ⟨h.depth, h.numbers⟩⟩

theorem depth_le_of_mem {ms : List (String × Content)} {m : String × Content} (h : m ∈ ms) :
    m.2.depth ≤ depthOfMembers ms := by
  induction ms with
  | nil => cases h
  | cons m' ms ih =>
      rw [depthOfMembers]
      rcases List.mem_cons.1 h with rfl | h
      · exact Nat.le_max_left _ _
      · exact Nat.le_trans (ih h) (Nat.le_max_right _ _)

theorem numbers_subset_of_mem {ms : List (String × Content)} {m : String × Content} (h : m ∈ ms) :
    m.2.numbers ⊆ numbersOfMembers ms := by
  induction ms with
  | nil => cases h
  | cons m' ms ih =>
      rw [numbersOfMembers]
      rcases List.mem_cons.1 h with rfl | h
      · exact List.subset_append_left _ _
      · exact List.Subset.trans (ih h) (List.subset_append_right _ _)

/-- The members of an object within the limits are within those of one level below. -/
theorem Content.Within.member {room : Nat} {ms : List (String × Content)} {m : String × Content}
    (h : (Content.object ms).Within room) (hm : m ∈ ms) : m.2.Within (room - 1) where
  depth := by
    have hle := depth_le_of_mem hm
    have hdepth := h.depth
    rw [Content.depth] at hdepth
    omega
  numbers n hn := h.numbers n (numbers_subset_of_mem hm hn)

mutual

/-- **A value within the limits makes sense.** -/
theorem sound_of_within {room : Nat} :
    ∀ {v : Value} {d : Content}, v.content? = some d → d.depth ≤ room →
      (∀ n ∈ d.numbers, n.meaning?.isSome = true) → v.sound room = true
  | .null, _, _, _, _ => rfl
  | .bool _, _, _, _, _ => rfl
  | .number n, d, h, _, hn => by
      cases h
      exact hn n List.mem_cons_self
  | .text us, d, h, _, _ => by
      obtain ⟨cs, hcs, -⟩ := Option.map_eq_some_iff.1 h
      rw [Value.sound, hcs]
      rfl
  | .array vs, d, h, hd, hn => by
      obtain ⟨ds, hds, rfl⟩ := Option.map_eq_some_iff.1 h
      rw [Content.depth] at hd
      rw [Value.sound, soundAll_of_within hds (by omega) hn, Bool.and_true, decide_eq_true_eq]
      omega
  | .object ms, d, h, hd, hn => by
      obtain ⟨ds, hds, rfl⟩ := Option.map_eq_some_iff.1 h
      rw [Content.depth] at hd
      rw [Value.sound, soundMembers_of_within hds (by omega) hn, Bool.and_true, decide_eq_true_eq]
      omega

theorem soundAll_of_within {room : Nat} :
    ∀ {vs : List Value} {ds : List Content}, contentItems? vs = some ds → depthOfItems ds ≤ room →
      (∀ n ∈ numbersOfItems ds, n.meaning?.isSome = true) → soundAll room vs = true
  | [], _, _, _, _ => rfl
  | v :: vs, ds, h, hd, hn => by
      obtain ⟨d, es, hv, hvs, rfl⟩ := contentItems?_cons h
      rw [depthOfItems] at hd
      rw [soundAll, sound_of_within hv (by omega) fun n hmem => hn n (List.mem_append_left _ hmem),
        soundAll_of_within hvs (by omega) fun n hmem => hn n (List.mem_append_right _ hmem)]
      rfl

theorem soundMembers_of_within {room : Nat} :
    ∀ {vs : List (List Part × Value)} {ms : List (String × Content)},
      contentMembers? vs = some ms → depthOfMembers ms ≤ room →
      (∀ n ∈ numbersOfMembers ms, n.meaning?.isSome = true) → soundMembers room vs = true
  | [], _, _, _, _ => rfl
  | (k, v) :: vs, ms, h, hd, hn => by
      obtain ⟨key, d, es, hk, hv, hvs, rfl⟩ := contentMembers?_cons h
      rw [depthOfMembers] at hd
      rw [soundMembers, hk,
        sound_of_within hv (by omega) fun n hmem => hn n (List.mem_append_left _ hmem),
        soundMembers_of_within hvs (by omega) fun n hmem => hn n (List.mem_append_right _ hmem)]
      rfl

end

end CountryLookup.Json
