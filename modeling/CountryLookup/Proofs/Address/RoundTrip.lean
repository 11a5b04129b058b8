import CountryLookup.Address.Parser
import CountryLookup.Proofs.Address.Shown
import CountryLookup.Proofs.Text.Digits

/-!
# Reading addresses back

The reader splits a text at its separators, the writer joins fields with them. No field that is
written is empty or holds a separator, so the fields are found again, and each is read as the
number that it was written for. Where zero groups are left out, the two colons in their place are
the first ones that stand together, and the groups that are missing from eight are the zeros.

## Main results

* `octet?_toDigits`, `group?_toDigits` — a written number is read as that number.
* `cutGap_joined` — fields that are not empty hide no gap.
* `parseChars?_of_shows` — every address is read back from its text.
* `of_mem_shows` — what the text of an address is made of.
* `parse_padded` — white space around the text is no part of it.
-/

namespace CountryLookup

open Text

/-! ## One number -/

theorem all_notDigit_eq_false {base : Nat} {cs : List Char} (h : cs.all (isDigit base) = true) :
    cs.any (fun c => !isDigit base c) = false := by
  rw [List.any_eq_false]
  intro c hc
  rw [List.all_eq_true.1 h c hc]
  decide

/-- **A written octet is read as that octet.** -/
theorem octet?_toDigits (b : UInt8) : octet? (Nat.toDigits 10 b.toNat) = some b := by
  have hb : b.toNat < 256 := b.toNat_lt
  have hlen : (Nat.toDigits 10 b.toNat).length ≤ 3 :=
    (Nat.length_toDigits_le_iff (by decide) (by decide)).2 (by omega)
  have hdigits := all_digits_toDigits (b := 10) (by decide) (by decide) b.toNat
  have hvalue := digitsValue_toDigits (b := 10) (by decide) (by decide) b.toNat
  obtain ⟨c, cs, he, -, -, hzero⟩ :=
    toDigits_shape (b := 10) (by decide) (by decide) b.toNat
  rw [he] at hlen hdigits hvalue ⊢
  have hlead : (1 < (c :: cs).length && (c :: cs).head? == some '0') = false := by
    by_cases hc : c = '0'
    · rw [(hzero hc).2]
      rfl
    · simp [hc]
  simp only [octet?, List.isEmpty_cons, Bool.false_or, all_notDigit_eq_false hdigits, Bool.or_false,
    decide_eq_true_eq, if_neg (Nat.not_lt.2 hlen), hlead, Bool.false_eq_true, if_false, hvalue,
    if_pos hb, UInt8.ofNat_toNat]

/-- **A written group is read as that group.** -/
theorem group?_toDigits (g : UInt16) : group? (Nat.toDigits 16 g.toNat) = some g := by
  have hg : g.toNat < 65536 := g.toNat_lt
  have hlen : (Nat.toDigits 16 g.toNat).length ≤ 4 :=
    (Nat.length_toDigits_le_iff (by decide) (by decide)).2 (by omega)
  have hdigits := all_digits_toDigits (b := 16) (by decide) (by decide) g.toNat
  have hne : (Nat.toDigits 16 g.toNat).isEmpty = false := by
    rw [List.isEmpty_eq_false_iff]
    exact Nat.toDigits_ne_nil
  simp only [group?, hne, Bool.false_or, all_notDigit_eq_false hdigits, Bool.or_false,
    decide_eq_true_eq, if_neg (Nat.not_lt.2 hlen),
    digitsValue_toDigits (b := 16) (by decide) (by decide), UInt16.ofNat_toNat]

theorem octet?_eq_none_of_mem {cs : List Char} {c : Char} (hc : c ∈ cs)
    (h : isDigit 10 c = false) : octet? cs = none := by
  have hany : cs.any (fun c => !isDigit 10 c) = true := List.any_eq_true.2 ⟨c, hc, by rw [h]; rfl⟩
  rw [octet?, if_pos (by rw [hany, Bool.or_true])]

theorem group?_eq_none_of_mem {cs : List Char} {c : Char} (hc : c ∈ cs)
    (h : isDigit 16 c = false) : group? cs = none := by
  have hany : cs.any (fun c => !isDigit 16 c) = true := List.any_eq_true.2 ⟨c, hc, by rw [h]; rfl⟩
  rw [group?, if_pos (by rw [hany, Bool.or_true])]

/-! ## Four numbers -/

/-- The separators are no digits. -/
theorem separator_not_mem_toDigits {base : Nat} (h1 : 1 < base) (hb : base ≤ 16) (n : Nat) :
    '.' ∉ Nat.toDigits base n ∧ ':' ∉ Nat.toDigits base n := by
  have hall : ∀ d < 16, Nat.digitChar d ≠ '.' ∧ Nat.digitChar d ≠ ':' := by decide
  have hd : ∀ c ∈ Nat.toDigits base n, c ≠ '.' ∧ c ≠ ':' := by
    intro c hc
    exact of_mem_toDigits (p := fun c => c ≠ '.' ∧ c ≠ ':') h1
      (fun d hd => hall d (by omega)) hc
  exact ⟨fun hc => (hd _ hc).1 rfl, fun hc => (hd _ hc).2 rfl⟩

theorem V4.fields_print (x : V4) :
    fields '.' x.print = x.octets.map fun b => Nat.toDigits 10 b.toNat := by
  refine fields_joined (by simp [V4.octets]) ?_
  intro f hf
  obtain ⟨b, -, rfl⟩ := List.mem_map.1 hf
  exact (separator_not_mem_toDigits (by decide) (by decide) _).1

theorem V4.parse?_print (x : V4) : V4.parse? x.print = some x := by
  rw [V4.parse?, x.fields_print]
  simp [V4.octets, octet?_toDigits, V4.ofOctets?]

/-- A character that is no separator stands in one of the fields. -/
theorem exists_mem_fields {sep c : Char} (h : c ≠ sep) {cs : List Char} (hc : c ∈ cs) :
    ∃ f ∈ fields sep cs, c ∈ f := by
  induction cs with
  | nil => cases hc
  | cons d cs ih =>
      rw [fields]
      by_cases hd : d = sep
      · have hc' : c ∈ cs := by
          rcases List.mem_cons.1 hc with rfl | hc'
          · exact absurd hd h
          · exact hc'
        obtain ⟨f, hf, hcf⟩ := ih hc'
        rw [if_pos hd]
        exact ⟨f, List.mem_cons_of_mem _ hf, hcf⟩
      · rw [if_neg hd]
        cases hfs : fields sep cs with
        | nil => exact absurd hfs (fields_ne_nil sep cs)
        | cons f fs =>
            rw [hfs] at ih
            rcases List.mem_cons.1 hc with rfl | hc'
            · exact ⟨c :: f, List.mem_cons_self, List.mem_cons_self⟩
            · obtain ⟨f', hf', hcf⟩ := ih hc'
              rcases List.mem_cons.1 hf' with rfl | hf'
              · exact ⟨d :: f', List.mem_cons_self, List.mem_cons_of_mem _ hcf⟩
              · exact ⟨f', List.mem_cons_of_mem _ hf', hcf⟩

theorem mapM_eq_none_of_mem {α β : Type} {f : α → Option β} {a : α} (h : f a = none)
    {as : List α} (ha : a ∈ as) : as.mapM f = none := by
  induction as with
  | nil => cases ha
  | cons b as ih =>
      rw [List.mapM_cons]
      rcases List.mem_cons.1 ha with rfl | ha
      · rw [h]
        rfl
      · rw [ih ha]
        cases f b <;> rfl

/-- A text with a colon in it is no four numbers. -/
theorem V4.parse?_eq_none_of_colon {cs : List Char} (h : ':' ∈ cs) : V4.parse? cs = none := by
  obtain ⟨f, hf, hc⟩ := exists_mem_fields (show ':' ≠ '.' by decide) h
  rw [V4.parse?, mapM_eq_none_of_mem (octet?_eq_none_of_mem hc (by decide)) hf]
  rfl

/-! ## Groups between colons -/

namespace V6

theorem cutGap_cons {c : Char} {cs : List Char} (h : c = ':' → cs.head? ≠ some ':') :
    cutGap (c :: cs) = (cutGap cs).map fun p => (c :: p.1, p.2) := by
  rw [cutGap]
  rintro cs' rfl rfl
  exact h rfl rfl

/-- The first gap behind a field without colons. -/
theorem cutGap_append {f : List Char} (h : ':' ∉ f) (rest : List Char) :
    cutGap (f ++ rest) = (cutGap rest).map fun p => (f ++ p.1, p.2) := by
  induction f with
  | nil => simp
  | cons c f ih =>
      rw [List.mem_cons, not_or] at h
      rw [List.cons_append, cutGap_cons (fun hc => absurd hc.symm h.1), ih h.2, Option.map_map]
      rfl

/-- **Fields that are not empty hide no gap.** -/
theorem cutGap_joined {fs : List (List Char)} (h : ∀ f ∈ fs, f ≠ [] ∧ ':' ∉ f)
    (rest : List Char) :
    cutGap (joined ':' fs ++ rest) = (cutGap rest).map fun p => (joined ':' fs ++ p.1, p.2) := by
  induction fs with
  | nil => simp [joined]
  | cons f fs ih =>
      have hf := h f List.mem_cons_self
      cases fs with
      | nil => exact cutGap_append hf.2 rest
      | cons g gs =>
          have hg := h g (List.mem_cons_of_mem _ List.mem_cons_self)
          have hhead : (joined ':' (g :: gs) ++ rest).head? ≠ some ':' := by
            cases g with
            | nil => exact absurd rfl hg.1
            | cons c g =>
                have hc : c ≠ ':' := fun hc => hg.2 (by rw [hc]; exact List.mem_cons_self)
                cases gs <;> simp [joined, hc]
          have hjoined : joined ':' (f :: g :: gs) = f ++ ':' :: joined ':' (g :: gs) := rfl
          rw [hjoined, List.append_assoc, cutGap_append hf.2, List.cons_append,
            cutGap_cons (fun _ => hhead), ih (fun f' hf' => h f' (List.mem_cons_of_mem _ hf')),
            Option.map_map, Option.map_map]
          congr 1
          funext p
          simp

theorem groupFields?_map (dotted : Bool) (gs : List UInt16) :
    groupFields? dotted (gs.map fun g => Nat.toDigits 16 g.toNat) = some gs := by
  induction gs with
  | nil => rfl
  | cons g gs ih =>
      cases gs with
      | nil => simp only [List.map_cons, List.map_nil, groupFields?, group?_toDigits]
      | cons g' gs =>
          have hrest : groupFields? dotted (Nat.toDigits 16 g'.toNat ::
              gs.map fun g => Nat.toDigits 16 g.toNat) = some (g' :: gs) := ih
          rw [List.map_cons, List.map_cons, groupFields?, group?_toDigits, hrest]
          · rfl
          · exact List.cons_ne_nil _ _

/-- A written group is a field: it is not empty and holds no colon. -/
theorem isField_toDigits {gs : List UInt16} {f : List Char}
    (hf : f ∈ gs.map fun g => Nat.toDigits 16 g.toNat) : f ≠ [] ∧ ':' ∉ f := by
  obtain ⟨g, -, rfl⟩ := List.mem_map.1 hf
  exact ⟨Nat.toDigits_ne_nil, (separator_not_mem_toDigits (by decide) (by decide) _).2⟩

/-- Groups are read back from what is written for them. -/
theorem groupList?_printGroups (dotted : Bool) (gs : List UInt16) :
    groupList? dotted (printGroups gs) = some gs := by
  cases gs with
  | nil => rfl
  | cons g gs =>
      have hfields : fields ':' (printGroups (g :: gs)) =
          (g :: gs).map fun g => Nat.toDigits 16 g.toNat :=
        fields_joined (by simp) (fun f hf => (isField_toDigits hf).2)
      have hne : (printGroups (g :: gs)).isEmpty = false := by
        rw [List.isEmpty_eq_false_iff]
        intro he
        rw [he] at hfields
        have hf : [] ∈ (g :: gs).map fun g => Nat.toDigits 16 g.toNat := by
          rw [← hfields]
          exact List.mem_singleton_self []
        exact (isField_toDigits hf).1 rfl
      rw [groupList?, if_neg (by rw [hne]; decide), hfields, groupFields?_map]

/-- Eight groups of which a run of zeros was left out. -/
theorem parse?_shortened {x : V6} {before after : List UInt16} {k : Nat} (hk : 1 < k)
    (h : x.groups = before ++ (List.replicate k 0 ++ after)) :
    parse? (printGroups before ++ (':' :: ':' :: printGroups after)) = some x := by
  have hcut : cutGap (printGroups before ++ (':' :: ':' :: printGroups after)) =
      some (printGroups before, printGroups after) := by
    rw [printGroups, cutGap_joined (fun f hf => isField_toDigits hf)]
    simp [cutGap, printGroups]
  have hlen := congrArg List.length h
  simp only [length_groups, List.length_append, List.length_replicate] at hlen
  have hrest : 8 - (before.length + after.length) = k := by omega
  simp only [parse?, hcut, groupList?_printGroups, Option.bind_eq_bind, Option.bind_some,
    if_pos (show before.length + after.length ≤ 7 by omega), hrest, List.append_assoc]
  rw [← h, ofGroups?_groups]

/-- All eight groups. -/
theorem parse?_printGroups (x : V6) : parse? (printGroups x.groups) = some x := by
  have hcut : cutGap (printGroups x.groups) = none := by
    have hjoined := cutGap_joined (fun f hf => @isField_toDigits x.groups f hf) []
    rw [List.append_nil] at hjoined
    rw [printGroups, hjoined]
    rfl
  simp only [parse?, hcut, groupList?_printGroups, Option.bind_some, ofGroups?_groups]

end V6

/-! ## Addresses -/

section Dotted

variable (a b c d : UInt8)

theorem mem_dotted {p : Char → Prop} (hdot : p '.') (h : ∀ n < 10, p (Nat.digitChar n)) {x : Char}
    (hx : x ∈ dotted a b c d) : p x := by
  have hdigits : ∀ y : UInt8, x ∈ Nat.toDigits 10 y.toNat → p x :=
    fun y hy => of_mem_toDigits (by decide) h hy
  simp only [dotted, List.mem_append, List.mem_cons] at hx
  rcases hx with hx | rfl | hx | rfl | hx | rfl | hx
  · exact hdigits a hx
  · exact hdot
  · exact hdigits b hx
  · exact hdot
  · exact hdigits c hx
  · exact hdot
  · exact hdigits d hx

theorem colon_not_mem_dotted : ':' ∉ dotted a b c d := by
  intro h
  exact mem_dotted a b c d (p := fun x => x ≠ ':') (by decide) (by decide) h rfl

/-- Four numbers behind `::ffff:` are the last two of eight groups. -/
theorem V6.parse?_mapped :
    V6.parse? ("::ffff:".toList ++ dotted a b c d) =
      some ⟨0, 0, 0, 0, 0, 0xFFFF, groupOf a b, groupOf c d⟩ := by
  have hcut : cutGap ("::ffff:".toList ++ dotted a b c d) =
      some ([], ['f', 'f', 'f', 'f'] ++ ':' :: dotted a b c d) := rfl
  have hfields : fields ':' (['f', 'f', 'f', 'f'] ++ ':' :: dotted a b c d) =
      [['f', 'f', 'f', 'f'], dotted a b c d] := by
    rw [fields_append_sep (by decide), fields_of_not_mem (colon_not_mem_dotted a b c d)]
  have hdot : '.' ∈ dotted a b c d := by simp [dotted]
  have hlast : groupFields? true [dotted a b c d] = some [groupOf a b, groupOf c d] := by
    have hparse : V4.parse? (dotted a b c d) = some ⟨a, b, c, d⟩ := V4.parse?_print ⟨a, b, c, d⟩
    simp only [groupFields?, group?_eq_none_of_mem hdot (by decide), hparse, if_true]
    rfl
  have hback : groupList? true (['f', 'f', 'f', 'f'] ++ ':' :: dotted a b c d) =
      some [0xFFFF, groupOf a b, groupOf c d] := by
    have hfirst : group? ['f', 'f', 'f', 'f'] = some 0xFFFF := by decide
    rw [groupList?, if_neg (by simp), hfields, groupFields?, hfirst, hlast]
    · rfl
    · exact List.cons_ne_nil _ _
  have hfront : groupList? false [] = some [] := rfl
  simp only [parse?, hcut, hfront, hback]
  rfl

end Dotted

namespace Address

/-- Only an address of the sixth version has colons in its text. -/
theorem colon_mem_of_shows {x : V6} {cs : List Char} (h : Shows (.v6 x) cs) : ':' ∈ cs := by
  cases h with
  | mapped a b c d => exact List.mem_cons_self
  | shortened hm hk hg => simp
  | full hm hg => simp [V6.printGroups, V6.groups, joined]

/-- **Every text that shows an address is read as that address.** -/
theorem parseChars?_of_shows {x : Address} {cs : List Char} (h : x.Shows cs) :
    parseChars? cs = some x := by
  cases x with
  | v4 x =>
      cases h with
      | numbers a b c d =>
          have hparse : V4.parse? (dotted a b c d) = some ⟨a, b, c, d⟩ :=
            V4.parse?_print ⟨a, b, c, d⟩
          rw [parseChars?, hparse]
  | v6 x =>
      have hparse : V6.parse? cs = some x := by
        cases h with
        | mapped a b c d => exact V6.parse?_mapped a b c d
        | shortened hm hk hg => exact V6.parse?_shortened hk hg.split
        | full hm hg => exact V6.parse?_printGroups x
      rw [parseChars?, V4.parse?_eq_none_of_colon (colon_mem_of_shows h), hparse]
      rfl

/-! ## White space around a text -/

theorem mem_joined {sep c : Char} {fs : List (List Char)} (h : c ∈ joined sep fs) :
    c = sep ∨ ∃ f ∈ fs, c ∈ f := by
  induction fs with
  | nil => cases h
  | cons f fs ih =>
      cases fs with
      | nil => exact .inr ⟨f, List.mem_singleton_self f, h⟩
      | cons g gs =>
          have hjoined : joined sep (f :: g :: gs) = f ++ sep :: joined sep (g :: gs) := rfl
          rw [hjoined, List.mem_append, List.mem_cons] at h
          rcases h with h | h | h
          · exact .inr ⟨f, List.mem_cons_self, h⟩
          · exact .inl h
          · rcases ih h with h | ⟨f', hf', hc⟩
            · exact .inl h
            · exact .inr ⟨f', List.mem_cons_of_mem _ hf', hc⟩

/-- **What the text of an address is made of**: digits, dots and colons. What holds of these holds
of every character of the text. -/
theorem of_mem_shows {p : Char → Prop} (hdot : p '.') (hcolon : p ':')
    (hdigit : ∀ n < 16, p (Nat.digitChar n)) {x : Address} {cs : List Char} (h : x.Shows cs)
    {c : Char} (hc : c ∈ cs) : p c := by
  have hdotted : ∀ a b c' d, c ∈ dotted a b c' d → p c := fun a b c' d hc =>
    mem_dotted a b c' d hdot (fun n hn => hdigit n (by omega)) hc
  have hgroups : ∀ gs : List UInt16, c ∈ V6.printGroups gs → p c := by
    intro gs hc
    rcases mem_joined hc with rfl | ⟨f, hf, hc⟩
    · exact hcolon
    · obtain ⟨g, -, rfl⟩ := List.mem_map.1 hf
      exact of_mem_toDigits (by decide) hdigit hc
  cases h with
  | numbers a b c' d => exact hdotted a b c' d hc
  | mapped a b c' d =>
      rcases List.mem_append.1 hc with hc | hc
      · have hfront : c = ':' ∨ c = Nat.digitChar 15 := by
          have hall : ("::ffff:".toList.all fun c => c = ':' ∨ c = Nat.digitChar 15) = true := by
            decide
          exact of_decide_eq_true (List.all_eq_true.1 hall c hc)
        rcases hfront with rfl | rfl
        · exact hcolon
        · exact hdigit 15 (by decide)
      · exact hdotted a b c' d hc
  | shortened hm hk hg =>
      simp only [List.mem_append, List.mem_cons] at hc
      rcases hc with hc | rfl | rfl | hc
      · exact hgroups _ hc
      · exact hcolon
      · exact hcolon
      · exact hgroups _ hc
  | full hm hg => exact hgroups _ hc

/-- No text of an address has white space in it. -/
theorem notSpace_of_shows {x : Address} {cs : List Char} (h : x.Shows cs) :
    ∀ c ∈ cs, isSpace c = false := by
  intro c hc
  exact of_mem_shows (p := fun c => isSpace c = false) (by decide) (by decide) (by decide) h hc

theorem ne_nil_of_shows {x : Address} {cs : List Char} (h : x.Shows cs) : cs ≠ [] := by
  cases x with
  | v4 x =>
      cases h with
      | numbers a b c d => simp [dotted]
  | v6 x => exact List.ne_nil_of_mem (colon_mem_of_shows h)

/-- Trimming takes off the white space around a text that has none in it. -/
theorem trimChars_padded {ws vs cs : List Char} (hw : ws.all isSpace = true)
    (hv : vs.all isSpace = true) (hne : cs ≠ []) (hcs : ∀ c ∈ cs, isSpace c = false) :
    trimChars (ws ++ cs ++ vs) = cs := by
  have hsplit := List.dropLast_concat_getLast hne
  rw [← hsplit]
  refine trimChars_append_space hw hv ?_ (hcs _ (List.getLast_mem hne))
  rw [hsplit]
  cases cs with
  | nil => exact absurd rfl hne
  | cons c cs => simp [hcs c List.mem_cons_self]

/-- **White space around the text of an address is no part of it.** -/
theorem parse_padded (x : Address) {w v : String} (hw : isBlank w = true)
    (hv : isBlank v = true) : parse (w ++ x.render ++ v) = .ok x := by
  have hshows := x.shows_print
  have htrim : trimChars (w ++ x.render ++ v).toList = x.print := by
    rw [String.toList_append, String.toList_append, render, String.toList_ofList]
    exact trimChars_padded hw hv (ne_nil_of_shows hshows) (notSpace_of_shows hshows)
  have hne : x.print.isEmpty = false := by
    rw [List.isEmpty_eq_false_iff]
    exact ne_nil_of_shows hshows
  simp only [parse, htrim, hne, Bool.false_eq_true, if_false, parseChars?_of_shows hshows]

end Address

end CountryLookup
