import CountryLookup.Proofs.Address.RoundTrip
import CountryLookup.Proofs.Exchanges
import CountryLookup.Proofs.Text.Numerals
import CountryLookup.Resolver
import Mathlib.Data.List.Forall2

/-!
# The grammar of addresses

The texts that are addresses are given here by rules, with the address that each denotes: a rule for
one number, one for four numbers with dots, one for groups with colons, and one for what may stand
on each side of `::`. Nothing is said of separators being looked for, of fields or of an order in
which the forms are tried.

The reader agrees with the rules because a rule and a step of the reader cut a text in the same
place. No number holds a separator, so the fields of a text that the rules build are the numbers it
was built from; no side of a `::` holds another one or ends with a colon, so the first `::` of the
text is the one of the rule.

## Main results

* `octet?_eq_some_iff`, `group?_eq_some_iff` — one number.
* `V4.parse?_eq_some_iff` — four numbers with dots.
* `V6.groupFields?_fields` — groups with colons.
* `Side.cutGap` — where a text is cut at `::`.
* `parseChars?_eq_some_iff` — the reader accepts what the rules build, and gives what it denotes.
* `parse_grammar` — the same of a text with white space around it, and what becomes of all others.
-/

namespace CountryLookup

open Text

/-! ## The rules -/

/-- One of four numbers: one to three decimal digits, at most 255, with no zero in front of another
digit. -/
structure Octet (cs : List Char) (b : UInt8) : Prop where
  numeral : Numeral 10 cs b.toNat
  length_le : cs.length ≤ 3
  lead : cs.head? = some '0' → cs = ['0']

/-- A group: one to four hexadecimal digits of either case. -/
structure Group (cs : List Char) (g : UInt16) : Prop where
  numeral : Numeral 16 cs g.toNat
  length_le : cs.length ≤ 4

/-- Four numbers with dots between. -/
inductive FourNumbers : List Char → V4 → Prop where
  | numbers {a b c d : List Char} {x : V4} (ha : Octet a x.a) (hb : Octet b x.b) (hc : Octet c x.c)
    (hd : Octet d x.d) : FourNumbers (a ++ '.' :: (b ++ '.' :: (c ++ '.' :: d))) x

/-- Groups with colons between. The last two may be written as four numbers if `ending` says so. -/
inductive Groups (ending : Bool) : List Char → List UInt16 → Prop where
  | group {cs : List Char} {g : UInt16} (h : Group cs g) : Groups ending cs [g]
  | numbers {cs : List Char} {x : V4} (he : ending = true) (h : FourNumbers cs x) :
    Groups ending cs x.groups
  | more {cs ds : List Char} {g : UInt16} {gs : List UInt16} (h : Group cs g)
    (hds : Groups ending ds gs) : Groups ending (cs ++ ':' :: ds) (g :: gs)

/-- What may stand on a side of `::`: groups, or nothing. -/
inductive Side (ending : Bool) : List Char → List UInt16 → Prop where
  | nothing : Side ending [] []
  | groups {cs : List Char} {gs : List UInt16} (h : Groups ending cs gs) : Side ending cs gs

/-- The texts that are addresses, with the address that each denotes. -/
inductive Address.Denotes : List Char → Address → Prop where
  | numbers {cs : List Char} {x : V4} (h : FourNumbers cs x) : Denotes cs (.v4 x)
  | full {cs : List Char} {x : V6} (h : Groups true cs x.groups) : Denotes cs (.v6 x)
  | shortened {before after : List Char} {front back : List UInt16} {k : Nat} {x : V6}
    (hbefore : Side false before front) (hafter : Side true after back) (hk : 0 < k)
    (hx : x.groups = front ++ (List.replicate k 0 ++ back)) :
    Denotes (before ++ ':' :: ':' :: after) (.v6 x)

/-! ## One number -/

/-- What is asked of the characters of a number. -/
theorem digits_iff {base n : Nat} {cs : List Char} :
    (cs.isEmpty || decide (n < cs.length) || cs.any (fun c => !isDigit base c)) = false ↔
      cs ≠ [] ∧ cs.length ≤ n ∧ ∀ c ∈ cs, isDigit base c = true := by
  simp [and_assoc]

/-- **The numbers of an address of four.** -/
theorem octet?_eq_some_iff {cs : List Char} {b : UInt8} : octet? cs = some b ↔ Octet cs b := by
  have hlead : (decide (1 < cs.length) && cs.head? == some '0') = false ↔
      (cs.head? = some '0' → cs = ['0']) := by
    cases cs with
    | nil => simp
    | cons c cs => cases cs <;> simp
  rw [octet?]
  constructor
  · intro h
    split at h
    · cases h
    · rename_i hcs
      obtain ⟨hne, hle, hall⟩ := digits_iff.1 (Bool.eq_false_iff.2 hcs)
      split at h
      · cases h
      · rename_i hfirst
        obtain ⟨hlt, hb⟩ := Option.ite_none_right_eq_some.1 h
        have hvalue : digitsValue 10 cs = b.toNat := by
          rw [← Option.some.inj hb, UInt8.toNat_ofNat']
          omega
        exact ⟨(numeral_iff (by decide)).2 ⟨hne, hall, hvalue⟩, hle,
          hlead.1 (Bool.eq_false_iff.2 hfirst)⟩
  · rintro ⟨hnumeral, hle, hzero⟩
    obtain ⟨hne, hall, hvalue⟩ := (numeral_iff (by decide)).1 hnumeral
    have hb : b.toNat < 256 := b.toNat_lt
    rw [digits_iff.2 ⟨hne, hle, hall⟩, hlead.2 hzero]
    simp only [Bool.false_eq_true, if_false, hvalue, if_pos hb, UInt8.ofNat_toNat]

/-- **The groups of an address of eight.** -/
theorem group?_eq_some_iff {cs : List Char} {g : UInt16} : group? cs = some g ↔ Group cs g := by
  rw [group?]
  constructor
  · intro h
    split at h
    · cases h
    · rename_i hcs
      obtain ⟨hne, hle, hall⟩ := digits_iff.1 (Bool.eq_false_iff.2 hcs)
      -- four digits are not too many for a group
      have hnumeral := (numeral_iff (by decide)).2 ⟨hne, hall, rfl⟩
      have hpow : (16 : Nat) ^ cs.length ≤ 16 ^ 4 := Nat.pow_le_pow_right (by decide) hle
      have hlt := hnumeral.lt_pow
      have hvalue : digitsValue 16 cs = g.toNat := by
        rw [← Option.some.inj h, UInt16.toNat_ofNat']
        omega
      exact ⟨hvalue ▸ hnumeral, hle⟩
  · rintro ⟨hnumeral, hle⟩
    obtain ⟨hne, hall, hvalue⟩ := (numeral_iff (by decide)).1 hnumeral
    rw [digits_iff.2 ⟨hne, hle, hall⟩]
    simp only [Bool.false_eq_true, if_false, hvalue, UInt16.ofNat_toNat]

theorem Octet.dot_not_mem {cs : List Char} {b : UInt8} (h : Octet cs b) : '.' ∉ cs :=
  h.numeral.not_mem (by decide) (by decide)

theorem Group.colon_not_mem {cs : List Char} {g : UInt16} (h : Group cs g) : ':' ∉ cs :=
  h.numeral.not_mem (by decide) (by decide)

theorem Group.dot_not_mem {cs : List Char} {g : UInt16} (h : Group cs g) : '.' ∉ cs :=
  h.numeral.not_mem (by decide) (by decide)

/-! ## Four numbers -/

theorem forall₂_of_mapM {α β : Type} {f : α → Option β} {as : List α} {bs : List β}
    (h : as.mapM f = some bs) : List.Forall₂ (fun a b => f a = some b) as bs := by
  induction as generalizing bs with
  | nil =>
      cases h
      exact .nil
  | cons a as ih =>
      simp only [List.mapM_cons, Option.bind_eq_bind, Option.bind_eq_some_iff, Option.pure_def,
        Option.some.injEq] at h
      obtain ⟨b, ha, bs', has, rfl⟩ := h
      exact .cons ha (ih has)

theorem V4.octets_of_ofOctets? {bs : List UInt8} {x : V4} (h : V4.ofOctets? bs = some x) :
    bs = [x.a, x.b, x.c, x.d] := by
  unfold V4.ofOctets? at h
  split at h
  · cases h
    rfl
  · cases h

/-- **Four numbers with dots.** -/
theorem V4.parse?_eq_some_iff {cs : List Char} {x : V4} :
    V4.parse? cs = some x ↔ FourNumbers cs x := by
  constructor
  · intro h
    obtain ⟨bs, hbs, hx⟩ := Option.bind_eq_some_iff.1 h
    have hfields := forall₂_of_mapM hbs
    rw [V4.octets_of_ofOctets? hx] at hfields
    simp only [List.forall₂_cons_right_iff, List.forall₂_nil_right_iff] at hfields
    obtain ⟨a, _, ha, ⟨b, _, hb, ⟨c, _, hc, ⟨d, _, hd, rfl, rfl⟩, rfl⟩, rfl⟩, hcs⟩ := hfields
    have hjoined := joined_fields '.' cs
    rw [hcs] at hjoined
    rw [← hjoined]
    exact .numbers (octet?_eq_some_iff.1 ha) (octet?_eq_some_iff.1 hb) (octet?_eq_some_iff.1 hc)
      (octet?_eq_some_iff.1 hd)
  · rintro ⟨ha, hb, hc, hd⟩
    rw [V4.parse?, fields_append_sep ha.dot_not_mem, fields_append_sep hb.dot_not_mem,
      fields_append_sep hc.dot_not_mem, fields_of_not_mem hd.dot_not_mem]
    simp [octet?_eq_some_iff.2 ha, octet?_eq_some_iff.2 hb, octet?_eq_some_iff.2 hc,
      octet?_eq_some_iff.2 hd, V4.ofOctets?]

theorem FourNumbers.dot_mem {cs : List Char} {x : V4} (h : FourNumbers cs x) : '.' ∈ cs := by
  cases h
  simp

theorem FourNumbers.colon_not_mem {cs : List Char} {x : V4} (h : FourNumbers cs x) :
    ':' ∉ cs := by
  intro hc
  have hparse := V4.parse?_eq_some_iff.2 h
  rw [V4.parse?_eq_none_of_colon hc] at hparse
  cases hparse

theorem FourNumbers.group?_eq_none {cs : List Char} {x : V4} (h : FourNumbers cs x) :
    group? cs = none := group?_eq_none_of_mem h.dot_mem (by decide)

/-! ## Groups with colons -/

variable {ending : Bool} {cs : List Char} {gs : List UInt16}

theorem groupFields?_cons {f f' : List Char} {fs : List (List Char)} :
    V6.groupFields? ending (f :: f' :: fs) = some gs ↔
      ∃ g gs', group? f = some g ∧ V6.groupFields? ending (f' :: fs) = some gs' ∧ gs = g :: gs' := by
  rw [V6.groupFields?]
  · simp only [Option.bind_eq_bind, Option.bind_eq_some_iff, Option.pure_def, Option.some.injEq,
      exists_and_left, @eq_comm _ gs]
  · exact List.cons_ne_nil _ _

/-- The fields of a text that is read as groups, joined, are built by the rule. -/
theorem groups_joined {fs : List (List Char)} (hne : fs ≠ [])
    (h : V6.groupFields? ending fs = some gs) : Groups ending (joined ':' fs) gs := by
  induction fs generalizing gs with
  | nil => exact absurd rfl hne
  | cons f fs ih =>
      cases fs with
      | nil =>
          rw [V6.groupFields?] at h
          cases hg : group? f with
          | some g =>
              rw [hg] at h
              cases h
              exact .group (group?_eq_some_iff.1 hg)
          | none =>
              rw [hg] at h
              obtain ⟨he, h⟩ := Option.ite_none_right_eq_some.1 h
              obtain ⟨x, hx, rfl⟩ := Option.map_eq_some_iff.1 h
              exact .numbers he (V4.parse?_eq_some_iff.1 hx)
      | cons f' fs =>
          obtain ⟨g, gs', hg, hgs, rfl⟩ := groupFields?_cons.1 h
          exact .more (group?_eq_some_iff.1 hg) (ih (List.cons_ne_nil _ _) hgs)

/-- **Groups with colons.** -/
theorem V6.groupFields?_fields :
    groupFields? ending (fields ':' cs) = some gs ↔ Groups ending cs gs := by
  constructor
  · intro h
    have hgroups := groups_joined (fields_ne_nil ':' cs) h
    rwa [joined_fields] at hgroups
  · intro h
    induction h with
    | group h =>
        rw [fields_of_not_mem h.colon_not_mem, groupFields?, group?_eq_some_iff.2 h]
    | numbers he h =>
        rw [fields_of_not_mem h.colon_not_mem, groupFields?, h.group?_eq_none, if_pos he,
          V4.parse?_eq_some_iff.2 h]
        rfl
    | @more _ ds _ _ h _ ih =>
        rw [fields_append_sep h.colon_not_mem]
        cases hds : fields ':' ds with
        | nil => exact absurd hds (fields_ne_nil ':' ds)
        | cons f fs =>
            rw [hds] at ih
            exact groupFields?_cons.2 ⟨_, _, group?_eq_some_iff.2 h, ih, rfl⟩

/-- No field between the colons is empty. -/
theorem Groups.isField (h : Groups ending cs gs) : ∀ f ∈ fields ':' cs, f ≠ [] ∧ ':' ∉ f := by
  induction h with
  | group h =>
      rw [fields_of_not_mem h.colon_not_mem]
      intro f hf
      rw [List.mem_singleton.1 hf]
      exact ⟨h.numeral.ne_nil, h.colon_not_mem⟩
  | numbers _ h =>
      rw [fields_of_not_mem h.colon_not_mem]
      intro f hf
      rw [List.mem_singleton.1 hf]
      exact ⟨List.ne_nil_of_mem h.dot_mem, h.colon_not_mem⟩
  | more h _ ih =>
      rw [fields_append_sep h.colon_not_mem]
      intro f hf
      rcases List.mem_cons.1 hf with rfl | hf
      · exact ⟨h.numeral.ne_nil, h.colon_not_mem⟩
      · exact ih f hf

theorem Groups.ne_nil (h : Groups ending cs gs) : cs ≠ [] := by
  rintro rfl
  exact (h.isField [] (List.mem_singleton_self [])).1 rfl

/-- **A side of `::`.** -/
theorem V6.groupList?_eq_some_iff : groupList? ending cs = some gs ↔ Side ending cs gs := by
  constructor
  · intro h
    by_cases hcs : cs = []
    · rw [hcs] at h ⊢
      cases h
      exact .nothing
    · rw [groupList?, if_neg (by simpa using hcs)] at h
      exact .groups (groupFields?_fields.1 h)
  · intro h
    cases h with
    | nothing => rfl
    | groups h =>
        rw [groupList?, if_neg (by simpa using h.ne_nil)]
        exact groupFields?_fields.2 h

/-! ## The gap -/

/-- What is cut off is what stands around two colons. -/
theorem V6.eq_of_cutGap {before after : List Char} (h : cutGap cs = some (before, after)) :
    cs = before ++ ':' :: ':' :: after := by
  induction cs using cutGap.induct generalizing before with
  | case1 cs =>
      cases h
      rfl
  | case2 c cs hgap ih =>
      rw [cutGap] at h
      · obtain ⟨p, hp, he⟩ := Option.map_eq_some_iff.1 h
        cases he
        rw [ih hp]
        rfl
      · exact hgap
  | case3 => cases h

/-- The groups in front of the rest of a text hide no gap. -/
theorem Groups.cutGap_append (h : Groups ending cs gs) (rest : List Char) :
    V6.cutGap (cs ++ rest) = (V6.cutGap rest).map fun p => (cs ++ p.1, p.2) := by
  have hjoined := V6.cutGap_joined h.isField rest
  rwa [joined_fields] at hjoined

/-- **A text is cut where the rule put the gap.** -/
theorem Side.cutGap (h : Side ending cs gs) (after : List Char) :
    V6.cutGap (cs ++ ':' :: ':' :: after) = some (cs, after) := by
  cases h with
  | nothing => rfl
  | groups h =>
      rw [h.cutGap_append]
      simp [V6.cutGap]

/-- **Eight groups, or fewer around a gap.** -/
theorem V6.parse?_eq_some_iff {x : V6} : parse? cs = some x ↔ Address.Denotes cs (.v6 x) := by
  constructor
  · intro h
    rw [parse?] at h
    cases hcut : cutGap cs with
    | none =>
        rw [hcut] at h
        obtain ⟨gs, hgs, hx⟩ := Option.bind_eq_some_iff.1 h
        cases groupList?_eq_some_iff.1 hgs with
        | nothing => cases hx
        | groups hgroups => exact .full (groups_of_ofGroups? hx ▸ hgroups)
    | some p =>
        obtain ⟨before, after⟩ := p
        rw [hcut] at h
        simp only [Option.bind_eq_bind, Option.bind_eq_some_iff] at h
        obtain ⟨front, hfront, back, hback, h⟩ := h
        obtain ⟨hle, hx⟩ := Option.ite_none_right_eq_some.1 h
        rw [eq_of_cutGap hcut]
        have hgroups := groups_of_ofGroups? hx
        rw [List.append_assoc] at hgroups
        exact .shortened (groupList?_eq_some_iff.1 hfront) (groupList?_eq_some_iff.1 hback)
          (Nat.sub_pos_of_lt (Nat.lt_succ_of_le hle)) hgroups
  · intro h
    cases h with
    | full h =>
        have hcut := h.cutGap_append []
        rw [List.append_nil] at hcut
        rw [parse?, hcut]
        simp only [cutGap, Option.map_none]
        rw [groupList?_eq_some_iff.2 (.groups h)]
        simp
    | @shortened before after front back k x hbefore hafter hk hx =>
        have hlen := congrArg List.length hx
        simp only [length_groups, List.length_append, List.length_replicate] at hlen
        have hzeros : 8 - (front.length + back.length) = k := by omega
        rw [parse?, hbefore.cutGap]
        simp only [groupList?_eq_some_iff.2 hbefore, groupList?_eq_some_iff.2 hafter,
          Option.bind_eq_bind, Option.bind_some, hzeros, List.append_assoc]
        rw [if_pos (by omega), ← hx, ofGroups?_groups]

/-! ## Addresses -/

/-- Groups in which no colon stands are two at most. -/
theorem Groups.colon_mem (h : Groups ending cs gs) (hlen : 2 < gs.length) : ':' ∈ cs := by
  cases h with
  | group h => simp at hlen
  | numbers _ h => simp [V4.groups] at hlen
  | more h hds => simp

theorem Address.Denotes.colon_mem {x : V6} (h : Denotes cs (.v6 x)) : ':' ∈ cs := by
  cases h with
  | full h => exact h.colon_mem (by rw [V6.length_groups]; decide)
  | shortened hbefore hafter hk hx => simp

/-- **The reader accepts what the rules build, and gives what it denotes.** -/
theorem Address.parseChars?_eq_some_iff {x : Address} : parseChars? cs = some x ↔ Denotes cs x := by
  rw [parseChars?]
  constructor
  · intro h
    cases hv4 : V4.parse? cs with
    | some y =>
        rw [hv4] at h
        cases h
        exact .numbers (V4.parse?_eq_some_iff.1 hv4)
    | none =>
        rw [hv4] at h
        obtain ⟨y, hy, rfl⟩ := Option.map_eq_some_iff.1 h
        exact V6.parse?_eq_some_iff.1 hy
  · intro h
    cases x with
    | v4 x =>
        cases h with
        | numbers h => rw [V4.parse?_eq_some_iff.2 h]
    | v6 x =>
        rw [V4.parse?_eq_none_of_colon h.colon_mem]
        simp only [V6.parse?_eq_some_iff.2 h, Option.map_some]

/-! ## What is no address -/

/-- A character of an address. -/
def isAddressChar (c : Char) : Bool := isDigit 16 c || c == '.' || c == ':'

theorem of_isAddressChar {p : Char → Prop}
    (hdigit : ∀ d < 16, p (Nat.digitChar d) ∧ p (Nat.digitChar d).toUpper) (hdot : p '.')
    (hcolon : p ':') {c : Char} (h : isAddressChar c = true) : p c := by
  simp only [isAddressChar, Bool.or_eq_true, beq_iff_eq] at h
  rcases h with (h | rfl) | rfl
  · exact of_isDigit_base (Nat.le_refl 16) hdigit h
  · exact hdot
  · exact hcolon

theorem Octet.all_chars {cs : List Char} {b : UInt8} (h : Octet cs b) :
    cs.all isAddressChar = true := by
  rw [List.all_eq_true]
  intro c hc
  exact of_isDigit_base (p := fun c => isAddressChar c = true) (by decide) (by decide)
    (h.numeral.all_isDigit (by decide) c hc)

theorem FourNumbers.all_chars {cs : List Char} {x : V4} (h : FourNumbers cs x) :
    cs.all isAddressChar = true := by
  obtain ⟨ha, hb, hc, hd⟩ := h
  have hdot : isAddressChar '.' = true := by decide
  simp only [List.all_append, List.all_cons, ha.all_chars, hb.all_chars, hc.all_chars, hd.all_chars,
    hdot, Bool.and_self]

theorem Groups.all_chars (h : Groups ending cs gs) : cs.all isAddressChar = true := by
  have hcolon : isAddressChar ':' = true := by decide
  have hgroup : ∀ {cs : List Char} {g : UInt16}, Group cs g → cs.all isAddressChar = true := by
    intro cs g h
    rw [List.all_eq_true]
    intro c hc
    simp [isAddressChar, h.numeral.all_isDigit (by decide) c hc]
  induction h with
  | group h => exact hgroup h
  | numbers _ h => exact h.all_chars
  | more h _ ih => simp only [List.all_append, List.all_cons, hgroup h, hcolon, ih, Bool.and_self]

theorem Side.all_chars (h : Side ending cs gs) : cs.all isAddressChar = true := by
  cases h with
  | nothing => rfl
  | groups h => exact h.all_chars

/-- **An address is made of hexadecimal digits, dots and colons.** -/
theorem Address.Denotes.all_chars {x : Address} (h : Denotes cs x) :
    cs.all isAddressChar = true := by
  have hcolon : isAddressChar ':' = true := by decide
  cases h with
  | numbers h => exact h.all_chars
  | full h => exact h.all_chars
  | shortened hbefore hafter hk hx =>
      simp only [List.all_append, List.all_cons, hbefore.all_chars, hafter.all_chars, hcolon,
        Bool.and_self]

/-- Four numbers stand only at the end: what other fields follow is a group. -/
theorem Groups.group_of_fields (h : Groups ending cs gs) {f : List Char} {fs : List (List Char)}
    (hfields : fields ':' cs = f :: fs) (hmore : ending = false ∨ fs ≠ []) : ∃ g, Group f g := by
  cases h with
  | @group cs g h =>
      rw [fields_of_not_mem h.colon_not_mem] at hfields
      cases hfields
      exact ⟨g, h⟩
  | numbers he h =>
      rw [fields_of_not_mem h.colon_not_mem] at hfields
      cases hfields
      rcases hmore with hfalse | hne
      · rw [he] at hfalse
        cases hfalse
      · exact absurd rfl hne
  | @more cs ds g gs h hds =>
      rw [fields_append_sep h.colon_not_mem] at hfields
      cases hfields
      exact ⟨g, h⟩

/-- **Four numbers with a port are no address.** -/
theorem FourNumbers.not_denotes {host port : List Char} {y : V4} (h : FourNumbers host y)
    (x : Address) : ¬ Address.Denotes (host ++ ':' :: port) x := by
  have hgroup : ∀ g, ¬ Group host g := fun g hg => hg.dot_not_mem h.dot_mem
  have hfields : fields ':' (host ++ ':' :: port) = host :: fields ':' port :=
    fields_append_sep h.colon_not_mem port
  generalize ht : host ++ ':' :: port = t at hfields
  intro hx
  cases hx with
  | numbers hnumbers => exact hnumbers.colon_not_mem (by simp [← ht])
  | full hfull =>
      obtain ⟨g, hg⟩ := hfull.group_of_fields hfields (.inr (fields_ne_nil ':' port))
      exact hgroup g hg
  | @shortened before _ _ _ _ _ hbefore _ _ _ =>
      rw [fields_append] at hfields
      cases hfirst : fields ':' before with
      | nil => exact fields_ne_nil ':' before hfirst
      | cons f fs =>
          rw [hfirst] at hfields
          obtain rfl : f = host := (List.cons.inj hfields).1
          cases hbefore with
          | nothing =>
              cases hfirst
              exact absurd h.dot_mem List.not_mem_nil
          | groups hgroups =>
              obtain ⟨g, hg⟩ := hgroups.group_of_fields hfirst (.inl rfl)
              exact hgroup g hg

namespace Address

/-- What is often written with an address and does not belong to it: the marks of a zone, of a length
of a prefix and of a sign, brackets, white space inside, and a port behind four numbers. -/
inductive Decorated : List Char → Prop where
  | mark {cs : List Char} {c : Char} (hc : c ∈ cs) (h : c ∈ "%/+-[]".toList) : Decorated cs
  | space {cs : List Char} {c : Char} (hc : c ∈ cs) (h : isSpace c = true) : Decorated cs
  | port {host port : List Char} {y : V4} (h : FourNumbers host y) :
    Decorated (host ++ ':' :: port)

theorem Decorated.not_denotes (h : Decorated cs) (x : Address) : ¬ Denotes cs x := by
  intro hx
  have hchars : ∀ c ∈ cs, c ∉ "%/+-[]".toList ∧ isSpace c = false := fun c hc =>
    of_isAddressChar (p := fun c => c ∉ "%/+-[]".toList ∧ isSpace c = false) (by decide)
      (by decide) (by decide) (List.all_eq_true.1 hx.all_chars c hc)
  cases h with
  | mark hc hmark => exact (hchars _ hc).1 hmark
  | space hc hspace =>
      rw [(hchars _ hc).2] at hspace
      cases hspace
  | port h => exact h.not_denotes x hx

/-! ## Texts -/

/-- How a text is refused that is no address. -/
def refusal (t : List Char) : LookupError where
  kind := .invalidInput
  message :=
    if t = [] then "empty ip address" else "invalid ip address: " ++ String.ofList t

/-- A text is read without the white space around it. -/
theorem parse_eq (s : String) :
    parse s = match parseChars? (trimChars s.toList) with
      | some x => .ok x
      | none => .error (refusal (trimChars s.toList)) := by
  rw [parse]
  by_cases hcs : trimChars s.toList = []
  · rw [hcs]
    rfl
  · cases parseChars? (trimChars s.toList) with
    | some x => simp only [List.isEmpty_iff, hcs, if_false]
    | none => simp only [List.isEmpty_iff, hcs, if_false, refusal]

theorem parse_eq_ok_iff {s : String} {x : Address} :
    parse s = .ok x ↔ Denotes (trimChars s.toList) x := by
  rw [← parseChars?_eq_some_iff, parse_eq]
  cases parseChars? (trimChars s.toList) <;> simp

theorem parse_of_not_denotes {s : String} (h : ∀ x, ¬ Denotes (trimChars s.toList) x) :
    parse s = .error (refusal (trimChars s.toList)) := by
  cases hread : parseChars? (trimChars s.toList) with
  | some x => exact absurd (parseChars?_eq_some_iff.1 hread) (h x)
  | none => rw [parse_eq, hread]

/-- **The grammar of addresses.** Let a text without the white space around it be given. The text is
read as an address exactly if the rules build what is given, and then as the address that it
denotes. If they do not, the text is refused as invalid input; a resolver and a client refuse it in
the same way, the one in every state, which it does not change, and the other without asking. And
what is often written with an address and does not belong to it makes it none. -/
theorem parse_grammar (s : String) :
    ∃ t, Trimmed s.toList t ∧
      (∀ x, parse s = .ok x ↔ Denotes t x) ∧
      ((∀ x, ¬ Denotes t x) → parse s = .error (refusal t) ∧
        (∀ (r : Resolver) (file : Option Entry) (st : ResolverState),
          r.lookupText file s st = (.returns (.error (refusal t)), st)) ∧
        ∀ (m : Type → Type) [Monad m] (ask : String → m Exchange) (c : Client),
          Client.lookupTextBy ask c s = return .error (refusal t)) ∧
      (Decorated t → ∀ x, ¬ Denotes t x) := by
  refine ⟨_, trimmed_trimChars s.toList, fun x => parse_eq_ok_iff, ?_, Decorated.not_denotes⟩
  intro h
  have hparse := parse_of_not_denotes h
  exact ⟨hparse, fun r file st => r.lookupText_of_error file st hparse,
    fun m _ ask c => Client.lookupTextBy_of_error ask c hparse⟩

/-- A gap in front of a group in capitals and four numbers is an address, with an ideographic space
and the end of a line around it; with a zone it is none. -/
theorem parse_grammar_zone :
    Denotes "::FFFF:1.2.3.4".toList (.v6 ⟨0, 0, 0, 0, 0, 0xFFFF, 0x0102, 0x0304⟩) ∧
      parse "\u3000::FFFF:1.2.3.4\n" = .ok (.v6 ⟨0, 0, 0, 0, 0, 0xFFFF, 0x0102, 0x0304⟩) ∧
      Decorated "::FFFF:1.2.3.4%eth0".toList ∧
      parse "::FFFF:1.2.3.4%eth0" =
        .error ⟨.invalidInput, "invalid ip address: ::FFFF:1.2.3.4%eth0"⟩ := by
  have hnumbers : FourNumbers "1.2.3.4".toList ⟨1, 2, 3, 4⟩ :=
    .numbers (a := ['1']) (b := ['2']) (c := ['3']) (d := ['4'])
      (octet?_eq_some_iff.1 (by decide)) (octet?_eq_some_iff.1 (by decide))
      (octet?_eq_some_iff.1 (by decide)) (octet?_eq_some_iff.1 (by decide))
  have hgroup : Group "FFFF".toList 0xFFFF := group?_eq_some_iff.1 (by decide)
  have hdenotes : Denotes "::FFFF:1.2.3.4".toList
      (.v6 ⟨0, 0, 0, 0, 0, 0xFFFF, 0x0102, 0x0304⟩) :=
    .shortened (k := 5) .nothing (.groups (.more hgroup (.numbers rfl hnumbers))) (by decide)
      (by decide)
  have hzone : Decorated "::FFFF:1.2.3.4%eth0".toList := .mark (c := '%') (by decide) (by decide)
  obtain ⟨t, ht, hread, -⟩ := parse_grammar "\u3000::FFFF:1.2.3.4\n"
  obtain rfl : t = "::FFFF:1.2.3.4".toList := (trimmed_iff.1 ht).trans (by decide)
  obtain ⟨u, hu, -, hrefused, hdecorated⟩ := parse_grammar "::FFFF:1.2.3.4%eth0"
  obtain rfl : u = "::FFFF:1.2.3.4%eth0".toList := (trimmed_iff.1 hu).trans (by decide)
  exact ⟨hdenotes, (hread _).2 hdenotes, hzone, (hrefused (hdecorated hzone)).1⟩

end Address

end CountryLookup
