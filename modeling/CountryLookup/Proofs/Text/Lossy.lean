import CountryLookup.Proofs.Text.Utf8

/-!
# What becomes of bytes that are no text

Bytes that are not UTF-8 have each broken sequence in them replaced by a mark. Which bytes form one
broken sequence is a matter of definition, and the usual one is that of Unicode: as many bytes as
still begin the encoding of some character, and at least one. The machine decides it byte by byte,
with the bounds that it keeps for the next byte. Here it is said without a machine, in terms of the
encodings of characters alone.

The form of an encoding is what ties the two. A first byte of several fixes the bounds of the second
and the number of those that follow, which have the same bounds everywhere. So the bounds of the
machine are never wider and never narrower than they have to be.

## Main results

* `begins_iff` — the bytes with which an encoding begins, by their bounds.
* `decodes_iff` — the machine cuts bytes into characters and broken sequences as it should.
-/

namespace CountryLookup.Text.Utf8

/-! ## Broken sequences -/

/-- Bytes with which the encoding of some character begins. -/
def Begins (bs : List UInt8) : Prop := ∃ c : Char, bs <+: String.utf8EncodeChar c

/-- A broken sequence in front of other bytes: a single byte, or bytes that begin an encoding and
are none, and the next byte does not go on with it. -/
structure IsBroken (seq rest : List UInt8) : Prop where
  ne_nil : seq ≠ []
  begins : seq.length = 1 ∨ Begins seq
  incomplete : ∀ c, seq ≠ String.utf8EncodeChar c
  longest : ∀ b, rest.head? = some b → ¬ Begins (seq ++ [b])

/-- Bytes cut into encodings of characters and broken sequences. -/
inductive Decodes : List UInt8 → List Piece → Prop where
  | nil : Decodes [] []
  | char (c : Char) {bs : List UInt8} {ps : List Piece} (h : Decodes bs ps) :
    Decodes (String.utf8EncodeChar c ++ bs) (.char c :: ps)
  | broken {seq bs : List UInt8} {ps : List Piece} (hseq : IsBroken seq bs) (h : Decodes bs ps) :
    Decodes (seq ++ bs) (.broken :: ps)

theorem Begins.of_append {bs cs : List UInt8} (h : Begins (bs ++ cs)) : Begins bs := by
  obtain ⟨c, hc⟩ := h
  exact ⟨c, (List.prefix_append bs cs).trans hc⟩

/-- No encoding begins another. -/
theorem eq_of_encodeChar_prefix {c d : Char}
    (h : String.utf8EncodeChar c <+: String.utf8EncodeChar d) : c = d := by
  obtain ⟨rest, hrest⟩ := h
  have hd := pieces_encodeChar d []
  rw [List.append_nil, ← hrest, pieces_encodeChar] at hd
  exact Piece.char.inj (List.cons.inj hd).1

/-! ## There is one way to cut -/

/-- A broken sequence and an encoding do not stand in one place. -/
theorem IsBroken.not_encodeChar {seq rest bs : List UInt8} {c : Char} (h : IsBroken seq rest)
    (e : seq ++ rest = String.utf8EncodeChar c ++ bs) : False := by
  have hseq : seq <+: seq ++ rest := List.prefix_append seq rest
  have hc : String.utf8EncodeChar c <+: seq ++ rest := e ▸ List.prefix_append _ bs
  rcases List.prefix_or_prefix_of_prefix hseq hc with ⟨t, ht⟩ | hlong
  · -- the encoding goes on behind the sequence, with the byte that must not
    cases t with
    | nil => exact h.incomplete c (by rw [← ht, List.append_nil])
    | cons b t =>
        rw [← ht, List.append_assoc] at e
        have hrest := List.append_cancel_left e
        refine h.longest b (by rw [hrest]; rfl) ⟨c, t, ?_⟩
        rw [← ht, List.append_assoc]
        rfl
  · rcases h.begins with hone | ⟨d, hd⟩
    · have hlength : seq.length ≤ (String.utf8EncodeChar c).length := by
        rw [hone, String.length_utf8EncodeChar]
        exact Char.utf8Size_pos c
      exact h.incomplete c (hlong.eq_of_length_le hlength).symm
    · obtain rfl := eq_of_encodeChar_prefix (hlong.trans hd)
      exact h.incomplete c (hd.eq_of_length_le hlong.length_le)

/-- No broken sequence is the start of a longer one in the same place. -/
theorem IsBroken.length_le {seq seq' rest rest' : List UInt8} (h : IsBroken seq rest)
    (h' : IsBroken seq' rest') (e : seq ++ rest = seq' ++ rest') : seq'.length ≤ seq.length := by
  apply Nat.le_of_not_lt
  intro hlt
  obtain ⟨t, ht⟩ := List.prefix_of_prefix_length_le (List.prefix_append seq rest)
    (e ▸ List.prefix_append seq' rest') (Nat.le_of_lt hlt)
  have hpos := List.length_pos_iff.2 h.ne_nil
  cases t with
  | nil => rw [← ht, List.append_nil] at hlt; exact absurd hlt (Nat.lt_irrefl _)
  | cons b t =>
      have hbegins : Begins seq' := by
        rcases h'.begins with hone | hbegins
        · omega
        · exact hbegins
      rw [← ht, List.append_assoc] at e
      have hrest := List.append_cancel_left e
      rw [← ht, ← List.singleton_append, ← List.append_assoc] at hbegins
      exact h.longest b (by rw [hrest]; rfl) hbegins.of_append

/-- **There is one way to cut bytes.** -/
theorem Decodes.unique {bs : List UInt8} {ps qs : List Piece} (hp : Decodes bs ps)
    (hq : Decodes bs qs) : ps = qs := by
  induction hp generalizing qs with
  | nil =>
      generalize hbs : ([] : List UInt8) = bs at hq
      cases hq with
      | nil => rfl
      | char c h => exact absurd (List.append_eq_nil_iff.1 hbs.symm).1 String.utf8EncodeChar_ne_nil
      | broken hseq h => exact absurd (List.append_eq_nil_iff.1 hbs.symm).1 hseq.ne_nil
  | @char c bs ps _ ih =>
      generalize hcut : String.utf8EncodeChar c ++ bs = whole at hq
      cases hq with
      | nil => exact absurd (List.append_eq_nil_iff.1 hcut).1 String.utf8EncodeChar_ne_nil
      | char d h =>
          have hchar := congrArg pieces hcut
          rw [pieces_encodeChar, pieces_encodeChar] at hchar
          obtain rfl := Piece.char.inj (List.cons.inj hchar).1
          rw [ih (List.append_cancel_left hcut ▸ h)]
      | broken hseq h => exact (hseq.not_encodeChar hcut.symm).elim
  | @broken seq bs ps hseq _ ih =>
      generalize hcut : seq ++ bs = whole at hq
      cases hq with
      | nil => exact absurd (List.append_eq_nil_iff.1 hcut).1 hseq.ne_nil
      | char d h => exact (hseq.not_encodeChar hcut).elim
      | broken hseq' h =>
          have hlength := Nat.le_antisymm (hseq'.length_le hseq hcut.symm)
            (hseq.length_le hseq' hcut)
          obtain ⟨rfl, rfl⟩ := List.append_inj hcut hlength
          rw [ih h]

/-! ## The form of an encoding -/

/-- A first byte of several: how many follow the second, the bounds of the second, and what the
first one contributes to the code point. -/
inductive Leads : UInt8 → Nat → UInt8 → UInt8 → Nat → Prop where
  | two {a : UInt8} (hlo : 0xC2 ≤ a.toNat) (hhi : a.toNat < 0xE0) :
    Leads a 0 0x80 0xBF (a.toNat - 0xC0)
  | three {a : UInt8} (hlo : 0xE0 ≤ a.toNat) (hhi : a.toNat < 0xF0) :
    Leads a 1 (leastOfThree a.toNat) (greatestOfThree a.toNat) (a.toNat - 0xE0)
  | four {a : UInt8} (hlo : 0xF0 ≤ a.toNat) (hhi : a.toNat ≤ 0xF4) :
    Leads a 2 (leastOfFour a.toNat) (greatestOfFour a.toNat) (a.toNat - 0xF0)

/-- A byte within bounds. -/
def Within (lo hi b : UInt8) : Prop := lo.toNat ≤ b.toNat ∧ b.toNat ≤ hi.toNat

/-- A byte behind the second. -/
def IsTail (b : UInt8) : Prop := Within 0x80 0xBF b

/-- The code point so far, with the bytes that follow. -/
def collect (acc : Nat) (bs : List UInt8) : Nat :=
  bs.foldl (fun acc b => acc * 64 + (b.toNat - 0x80)) acc

/-- The machine knows the first bytes. -/
theorem Leads.lead {a lo hi : UInt8} {more m : Nat} (h : Leads a more lo hi m) :
    Utf8.lead a = ([], .inside more lo hi m) := by
  cases h with
  | two hlo hhi => exact lead_two hlo hhi
  | three hlo hhi => exact lead_three hlo hhi
  | four hlo hhi => exact lead_four hlo hhi

/-- A first byte says one thing. -/
theorem Leads.unique {a lo hi lo' hi' : UInt8} {more m more' m' : Nat} (h : Leads a more lo hi m)
    (h' : Leads a more' lo' hi' m') : more' = more ∧ lo' = lo ∧ hi' = hi ∧ m' = m := by
  have hlead := h'.lead
  rw [h.lead] at hlead
  cases hlead
  exact ⟨rfl, rfl, rfl, rfl⟩

/-- The bounds of a second byte leave room. -/
theorem Leads.within {a lo hi : UInt8} {more m : Nat} (h : Leads a more lo hi m) :
    Within lo hi lo := by
  refine ⟨Nat.le_refl _, ?_⟩
  cases h with
  | two hlo hhi => decide
  | three hlo hhi =>
      rw [toNat_leastOfThree, toNat_greatestOfThree]
      split <;> split <;> omega
  | four hlo hhi =>
      rw [toNat_leastOfFour, toNat_greatestOfFour]
      split <;> split <;> omega

/-- A byte is a character by itself, or the first of several, or begins nothing. -/
theorem lead_cases (a : UInt8) :
    a < 0x80 ∨ (∃ more lo hi m, Leads a more lo hi m) ∨
      (Utf8.lead a = ([.broken], .start) ∧ ¬ a < 0x80 ∧ ∀ more lo hi m, ¬ Leads a more lo hi m) := by
  by_cases h1 : a < 0x80
  · exact .inl h1
  by_cases hlead : ∃ more lo hi m, Leads a more lo hi m
  · exact .inr (.inl hlead)
  have hnone : ∀ more lo hi m, ¬ Leads a more lo hi m := fun more lo hi m h =>
    hlead ⟨more, lo, hi, m, h⟩
  refine .inr (.inr ⟨?_, h1, hnone⟩)
  have hall : ∀ n < 256, n < 0x80 ∨ (0xC2 ≤ n ∧ n < 0xE0) ∨ (0xE0 ≤ n ∧ n < 0xF0) ∨
      (0xF0 ≤ n ∧ n ≤ 0xF4) ∨ Utf8.lead (UInt8.ofNat n) = ([.broken], .start) := by
    decide +kernel
  rcases hall a.toNat a.toNat_lt with h | h | h | h | h
  · exact absurd (UInt8.lt_iff_toNat_lt.2 h) h1
  · exact absurd (.two h.1 h.2) (hnone _ _ _ _)
  · exact absurd (.three h.1 h.2) (hnone _ _ _ _)
  · exact absurd (.four h.1 h.2) (hnone _ _ _ _)
  · rwa [UInt8.ofNat_toNat] at h

/-- **The form of an encoding.** -/
theorem encodeChar_form (c : Char) :
    (c.toNat < 0x80 ∧ String.utf8EncodeChar c = [UInt8.ofNat c.toNat]) ∨
      ∃ a b t more lo hi m, String.utf8EncodeChar c = a :: b :: t ∧ Leads a more lo hi m ∧
        Within lo hi b ∧ t.length = more ∧ ∀ x ∈ t, IsTail x := by
  have hr : c.val.toNat < 0xD800 ∨ (0xE000 ≤ c.val.toNat ∧ c.val.toNat < 0x110000) :=
    codePoint_range c
  unfold String.utf8EncodeChar
  show (c.val.toNat < 0x80 ∧ _ = [UInt8.ofNat c.val.toNat]) ∨ _
  revert hr
  generalize c.val.toNat = v
  intro hr
  have htail : ∀ n, IsTail (UInt8.ofNat (n % 64 + 128)) := by
    intro n
    rw [IsTail, Within, toNat_byte (n := n % 64 + 128) rfl (by omega)]
    exact ⟨Nat.le_add_left _ _, by rw [toNat_greatest]; omega⟩
  by_cases h1 : v ≤ 0x7f
  · exact .inl ⟨by omega, by simp only [if_pos h1]⟩
  refine .inr ?_
  by_cases h2 : v ≤ 0x7ff
  · have ha : (UInt8.ofNat (v / 64 % 32 + 192)).toNat = v / 64 + 192 :=
      toNat_byte (by omega) (by omega)
    refine ⟨_, _, [], _, _, _, _, by simp only [if_neg h1, if_pos h2]; rfl, .two ?_ ?_,
      htail v, rfl, ?_⟩
    · rw [ha]; omega
    · rw [ha]; omega
    · intro x hx
      cases hx
  by_cases h3 : v ≤ 0xffff
  · have ha : (UInt8.ofNat (v / 4096 % 16 + 224)).toNat = v / 4096 + 224 :=
      toNat_byte (by omega) (by omega)
    have hb : (UInt8.ofNat (v / 64 % 64 + 128)).toNat = v / 64 % 64 + 128 :=
      toNat_byte rfl (by omega)
    refine ⟨_, _, [_], _, _, _, _, by simp only [if_neg h1, if_neg h2, if_pos h3]; rfl,
      .three ?_ ?_, ⟨?_, ?_⟩, rfl, ?_⟩
    · rw [ha]; omega
    · rw [ha]; omega
    · rw [toNat_leastOfThree, ha, hb]
      split <;> omega
    · rw [toNat_greatestOfThree, ha, hb]
      split <;> omega
    · intro x hx
      rw [List.mem_singleton.1 hx]
      exact htail v
  · have ha : (UInt8.ofNat (v / 262144 % 8 + 240)).toNat = v / 262144 + 240 :=
      toNat_byte (by omega) (by omega)
    have hb : (UInt8.ofNat (v / 4096 % 64 + 128)).toNat = v / 4096 % 64 + 128 :=
      toNat_byte rfl (by omega)
    refine ⟨_, _, [_, _], _, _, _, _, by simp only [if_neg h1, if_neg h2, if_neg h3]; rfl,
      .four ?_ ?_, ⟨?_, ?_⟩, rfl, ?_⟩
    · rw [ha]; omega
    · rw [ha]; omega
    · rw [toNat_leastOfFour, ha, hb]
      split <;> omega
    · rw [toNat_greatestOfFour, ha, hb]
      split <;> omega
    · intro x hx
      simp only [List.mem_cons, List.not_mem_nil, or_false] at hx
      rcases hx with rfl | rfl
      · exact htail (v / 64)
      · exact htail v

/-- The character of a code point. -/
theorem val_ofNat {v : Nat} (h : v < 0xD800 ∨ (0xE000 ≤ v ∧ v < 0x110000)) :
    (Char.ofNat v).val.toNat = v := by
  have hvalid : v.isValidChar := by
    rw [Nat.isValidChar]
    omega
  rw [Char.ofNat, dif_pos hvalid]
  rfl

/-- A byte with the number for which it is written. -/
theorem ofNat_of_toNat {a : UInt8} {n : Nat} (h : a.toNat = n) : UInt8.ofNat n = a := by
  rw [← h, UInt8.ofNat_toNat]

/-- One byte. -/
theorem encodeChar_one {a : UInt8} (h : a < 0x80) :
    String.utf8EncodeChar (Char.ofNat a.toNat) = [a] := by
  have hlt := UInt8.lt_iff_toNat_lt.1 h
  rw [toNat_least] at hlt
  unfold String.utf8EncodeChar
  rw [val_ofNat (by omega)]
  simp only [if_pos (show a.toNat ≤ 0x7f by omega)]
  rw [ofNat_of_toNat rfl]

/-- Two bytes. -/
theorem encodeChar_two {a b : UInt8} {v : Nat} (ha : a.toNat = v / 64 + 0xC0)
    (hb : b.toNat = v % 64 + 0x80) (hlo : 0x80 ≤ v) (hhi : v < 0x800) :
    String.utf8EncodeChar (Char.ofNat v) = [a, b] := by
  unfold String.utf8EncodeChar
  rw [val_ofNat (by omega)]
  simp only [if_neg (show ¬ v ≤ 0x7f by omega), if_pos (show v ≤ 0x7ff by omega)]
  rw [ofNat_of_toNat (a := a) (by omega), ofNat_of_toNat hb]

/-- Three bytes. -/
theorem encodeChar_three {a b c : UInt8} {v : Nat} (ha : a.toNat = v / 4096 + 0xE0)
    (hb : b.toNat = v / 64 % 64 + 0x80) (hc : c.toNat = v % 64 + 0x80) (hlo : 0x800 ≤ v)
    (hhi : v < 0x10000) (hpair : v < 0xD800 ∨ 0xE000 ≤ v) :
    String.utf8EncodeChar (Char.ofNat v) = [a, b, c] := by
  unfold String.utf8EncodeChar
  rw [val_ofNat (by omega)]
  simp only [if_neg (show ¬ v ≤ 0x7f by omega), if_neg (show ¬ v ≤ 0x7ff by omega),
    if_pos (show v ≤ 0xffff by omega)]
  rw [ofNat_of_toNat (a := a) (by omega), ofNat_of_toNat hb, ofNat_of_toNat hc]

/-- Four bytes. -/
theorem encodeChar_four {a b c d : UInt8} {v : Nat} (ha : a.toNat = v / 262144 + 0xF0)
    (hb : b.toNat = v / 4096 % 64 + 0x80) (hc : c.toNat = v / 64 % 64 + 0x80)
    (hd : d.toNat = v % 64 + 0x80) (hlo : 0x10000 ≤ v) (hhi : v < 0x110000) :
    String.utf8EncodeChar (Char.ofNat v) = [a, b, c, d] := by
  unfold String.utf8EncodeChar
  rw [val_ofNat (by omega)]
  simp only [if_neg (show ¬ v ≤ 0x7f by omega), if_neg (show ¬ v ≤ 0x7ff by omega),
    if_neg (show ¬ v ≤ 0xffff by omega)]
  rw [ofNat_of_toNat (a := a) (by omega), ofNat_of_toNat hb, ofNat_of_toNat hc, ofNat_of_toNat hd]

/-- A tail holds six bits. -/
theorem IsTail.bits {b : UInt8} (h : IsTail b) : 0x80 ≤ b.toNat ∧ b.toNat ≤ 0xBF := h

/-- **Bytes of that form are an encoding.** -/
theorem encodeChar_collect {a b lo hi : UInt8} {t : List UInt8} {more m : Nat}
    (h : Leads a more lo hi m) (hb : Within lo hi b) (hlength : t.length = more)
    (ht : ∀ x ∈ t, IsTail x) :
    String.utf8EncodeChar (Char.ofNat (collect m (b :: t))) = a :: b :: t := by
  cases h with
  | two hlo hhi =>
      obtain rfl := List.eq_nil_of_length_eq_zero hlength
      have hb := IsTail.bits hb
      exact encodeChar_two (by simp only [collect, List.foldl]; omega)
        (by simp only [collect, List.foldl]; omega) (by simp only [collect, List.foldl]; omega)
        (by simp only [collect, List.foldl]; omega)
  | three hlo hhi =>
      obtain ⟨c, rfl⟩ := List.length_eq_one_iff.1 hlength
      have hc := (ht c (by simp)).bits
      obtain ⟨hleast, hgreatest⟩ := hb
      rw [toNat_leastOfThree] at hleast
      rw [toNat_greatestOfThree] at hgreatest
      have hb : 0x80 ≤ b.toNat ∧ b.toNat ≤ 0xBF ∧ (a.toNat = 0xE0 → 0xA0 ≤ b.toNat) ∧
          (a.toNat = 0xED → b.toNat ≤ 0x9F) := by
        split at hleast <;> split at hgreatest <;> omega
      simp only [collect, List.foldl]
      refine encodeChar_three ?_ ?_ ?_ ?_ ?_ ?_ <;> omega
  | four hlo hhi =>
      obtain ⟨c, t, rfl⟩ := List.exists_cons_of_length_eq_add_one hlength
      obtain ⟨d, rfl⟩ := List.length_eq_one_iff.1 (Nat.succ.inj hlength)
      have hc := (ht c (by simp)).bits
      have hd := (ht d (by simp)).bits
      obtain ⟨hleast, hgreatest⟩ := hb
      rw [toNat_leastOfFour] at hleast
      rw [toNat_greatestOfFour] at hgreatest
      have hb : 0x80 ≤ b.toNat ∧ b.toNat ≤ 0xBF ∧ (a.toNat = 0xF0 → 0x90 ≤ b.toNat) ∧
          (a.toNat = 0xF4 → b.toNat ≤ 0x8F) := by
        split at hleast <;> split at hgreatest <;> omega
      simp only [collect, List.foldl]
      refine encodeChar_four ?_ ?_ ?_ ?_ ?_ ?_ <;> omega

/-! ## How far an encoding can go -/

theorem isTail_least : IsTail 0x80 := ⟨Nat.le_refl _, by decide⟩

theorem isTail_concat {t : List UInt8} {b : UInt8} (ht : ∀ x ∈ t, IsTail x) (hb : IsTail b) :
    ∀ x ∈ t ++ [b], IsTail x := List.forall_mem_append.2 ⟨ht, List.forall_mem_singleton.2 hb⟩

/-- **The bytes with which an encoding begins**, by their bounds. -/
theorem begins_iff {a lo hi : UInt8} {more m : Nat} (h : Leads a more lo hi m) {b : UInt8}
    {t : List UInt8} :
    Begins (a :: b :: t) ↔ Within lo hi b ∧ t.length ≤ more ∧ ∀ x ∈ t, IsTail x := by
  constructor
  · rintro ⟨c, hc⟩
    rcases encodeChar_form c with ⟨-, hone⟩ | ⟨a', b', t', more', lo', hi', m', he, hl, hb, hlen, ht⟩
    · rw [hone] at hc
      have hlength := hc.length_le
      simp at hlength
    · rw [he, List.cons_prefix_cons, List.cons_prefix_cons] at hc
      obtain ⟨rfl, rfl, htail⟩ := hc
      obtain ⟨rfl, rfl, rfl, rfl⟩ := h.unique hl
      exact ⟨hb, hlen ▸ htail.length_le, fun x hx => ht x (htail.mem hx)⟩
  · rintro ⟨hb, hlen, ht⟩
    -- what is missing is filled with the least tails
    have hleast : ∀ x ∈ List.replicate (more - t.length) 0x80, IsTail x := by
      intro x hx
      rw [List.eq_of_mem_replicate hx]
      exact isTail_least
    have hfull := encodeChar_collect (t := t ++ List.replicate (more - t.length) 0x80) h hb
      (by rw [List.length_append, List.length_replicate]; omega)
      (List.forall_mem_append.2 ⟨ht, hleast⟩)
    exact ⟨_, List.replicate (more - t.length) 0x80, hfull.symm⟩

/-- A byte that begins nothing. -/
theorem not_begins {a : UInt8} (h : ¬ a < 0x80) (hnone : ∀ more lo hi m, ¬ Leads a more lo hi m) :
    ¬ Begins [a] := by
  rintro ⟨c, hc⟩
  rcases encodeChar_form c with ⟨hlt, hone⟩ | ⟨a', b, t, more, lo, hi, m, he, hl, -⟩
  · rw [hone, List.cons_prefix_cons] at hc
    apply h
    rw [hc.1, UInt8.lt_iff_toNat_lt, toNat_byte rfl (by omega), toNat_least]
    exact hlt
  · rw [he, List.cons_prefix_cons] at hc
    exact hnone _ _ _ _ (hc.1 ▸ hl)

/-! ## The machine inside a character -/

/-- What the machine has read when it is inside a character. -/
inductive Partway : List UInt8 → State → Prop where
  | first {a lo hi : UInt8} {more m : Nat} (h : Leads a more lo hi m) :
    Partway [a] (.inside more lo hi m)
  | later {a b lo hi : UInt8} {t : List UInt8} {more m : Nat}
    (h : Leads a (more + 1 + t.length) lo hi m) (hb : Within lo hi b) (ht : ∀ x ∈ t, IsTail x) :
    Partway (a :: b :: t) (.inside more 0x80 0xBF (collect m (b :: t)))

theorem collect_concat (acc : Nat) (bs : List UInt8) (b : UInt8) :
    collect acc (bs ++ [b]) = collect acc bs * 64 + (b.toNat - 0x80) := by
  rw [collect, List.foldl_append]
  rfl

namespace Partway

variable {seq : List UInt8} {more acc : Nat} {lo hi b : UInt8}

/-- The bounds of the machine are those of the encodings. -/
theorem begins_concat (h : Partway seq (.inside more lo hi acc)) :
    Begins (seq ++ [b]) ↔ Within lo hi b := by
  cases h with
  | first h =>
      rw [List.singleton_append, begins_iff h]
      simp
  | @later a b' lo' hi' t _ m h hb ht =>
      rw [List.cons_append, List.cons_append, begins_iff h]
      constructor
      · rintro ⟨-, -, hall⟩
        exact hall b (by simp)
      · intro hwithin
        exact ⟨hb, by rw [List.length_append, List.length_singleton]; omega,
          isTail_concat ht hwithin⟩

/-- The last byte of a character. -/
theorem last (h : Partway seq (.inside 0 lo hi acc)) (hb : Within lo hi b) :
    seq ++ [b] = String.utf8EncodeChar (Char.ofNat (acc * 64 + (b.toNat - 0x80))) := by
  cases h with
  | first h =>
      have hcode := encodeChar_collect (t := []) h hb rfl (by simp)
      exact hcode.symm
  | @later a b' lo' hi' t _ m h hb' ht =>
      have hcode := encodeChar_collect (t := t ++ [b]) h hb'
        (by rw [List.length_append, List.length_singleton]; omega) (isTail_concat ht hb)
      rw [← List.cons_append, collect_concat] at hcode
      exact hcode.symm

/-- A byte that is not the last. -/
theorem next (h : Partway seq (.inside (more + 1) lo hi acc)) (hb : Within lo hi b) :
    Partway (seq ++ [b]) (.inside more 0x80 0xBF (acc * 64 + (b.toNat - 0x80))) := by
  cases h with
  | first h => exact .later (t := []) h hb (by simp)
  | @later a b' lo' hi' t _ m h hb' ht =>
      rw [← collect_concat]
      have hcount : more + 1 + (t ++ [b]).length = more + 1 + 1 + t.length := by
        rw [List.length_append, List.length_singleton]
        omega
      exact .later (t := t ++ [b]) (hcount ▸ h) hb' (isTail_concat ht hb)

/-- There is always a byte that goes on. -/
theorem begins_least (h : Partway seq (.inside more lo hi acc)) : Begins (seq ++ [lo]) := by
  rw [h.begins_concat]
  cases h with
  | first h => exact h.within
  | later h hb ht => exact isTail_least

/-- What the machine has read is broken if what follows does not go on with it. -/
theorem isBroken (h : Partway seq (.inside more lo hi acc)) {rest : List UInt8}
    (hrest : ∀ b, rest.head? = some b → ¬ Within lo hi b) : IsBroken seq rest where
  ne_nil := by cases h <;> exact List.cons_ne_nil _ _
  begins := .inr h.begins_least.of_append
  incomplete := by
    rintro c rfl
    obtain ⟨d, hd⟩ := h.begins_least
    obtain rfl := eq_of_encodeChar_prefix ((List.prefix_append _ _).trans hd)
    have hlength := hd.length_le
    rw [List.length_append, List.length_singleton] at hlength
    omega
  longest b hb hbegins := hrest b hb (h.begins_concat.1 hbegins)

end Partway

theorem bounds_of_within {lo hi b : UInt8} (h : Within lo hi b) : (lo ≤ b && b ≤ hi) = true := by
  simp [UInt8.le_iff_toNat_le, h.1, h.2]

/-- The step that ends a character. -/
theorem step_last {lo hi b : UInt8} (h : Within lo hi b) (acc : Nat) :
    step (.inside 0 lo hi acc) b =
      ([.char (Char.ofNat (acc * 64 + (b.toNat - 0x80)))], .start) := by
  rw [step, if_pos (bounds_of_within h)]

/-- A step that goes on with a character. -/
theorem step_next {lo hi b : UInt8} (h : Within lo hi b) (more acc : Nat) :
    step (.inside (more + 1) lo hi acc) b =
      ([], .inside more 0x80 0xBF (acc * 64 + (b.toNat - 0x80))) := by
  rw [step, if_pos (bounds_of_within h)]

/-- A step that breaks a character off. -/
theorem step_broken {lo hi b : UInt8} (h : ¬ Within lo hi b) (more acc : Nat) :
    step (.inside more lo hi acc) b = (.broken :: (lead b).1, (lead b).2) := by
  have hbounds : ¬ (lo ≤ b && b ≤ hi) = true := by
    simpa [UInt8.le_iff_toNat_le, Within] using h
  rw [step, if_neg hbounds]

/-- **The machine cuts bytes as it should**: from between characters, and from inside one with the
bytes that it has read of it. -/
theorem decodes_piecesFrom (bs : List UInt8) :
    Decodes bs (pieces bs) ∧
      ∀ seq s, Partway seq s → Decodes (seq ++ bs) (piecesFrom s bs) := by
  induction bs with
  | nil =>
      refine ⟨.nil, ?_⟩
      intro seq s h
      cases s with
      | start => cases h
      | inside more lo hi acc =>
          exact .broken (h.isBroken (by intro b hb; cases hb)) .nil
  | cons b bs ih =>
      obtain ⟨ihstart, ihinside⟩ := ih
      have hstart : Decodes (b :: bs) (pieces (b :: bs)) := by
        rcases lead_cases b with hlt | ⟨more, lo, hi, m, hl⟩ | ⟨hlead, hge, hnone⟩
        · rw [pieces_ascii hlt, ← List.singleton_append, ← encodeChar_one hlt]
          exact .char _ ihstart
        · rw [pieces_of_lead hl.lead]
          exact ihinside [b] _ (.first hl)
        · rw [pieces, piecesFrom_cons, step, hlead, ← List.singleton_append]
          refine .broken ⟨List.cons_ne_nil _ _, .inl rfl, ?_, ?_⟩ ihstart
          · intro c hc
            exact not_begins hge hnone ⟨c, hc ▸ List.prefix_refl _⟩
          · intro b' _ hbegins
            exact not_begins hge hnone hbegins.of_append
      refine ⟨hstart, ?_⟩
      intro seq s h
      cases s with
      | start => cases h
      | inside more lo hi acc =>
          rw [piecesFrom_cons]
          by_cases hb : Within lo hi b
          · rw [List.append_cons]
            cases more with
            | zero =>
                rw [step_last hb, h.last hb]
                exact .char _ ihstart
            | succ more =>
                rw [step_next hb]
                exact ihinside _ _ (h.next hb)
          · rw [step_broken hb]
            have hbroken : IsBroken seq (b :: bs) := h.isBroken (by
              intro b' hb'
              cases hb'
              exact hb)
            have hlead : pieces (b :: bs) = (lead b).1 ++ piecesFrom (lead b).2 bs := by
              rw [pieces, piecesFrom_cons, step]
            rw [List.cons_append, ← hlead]
            exact .broken hbroken hstart

/-- **Bytes are cut into characters and broken sequences in one way**, and the machine finds it. -/
theorem decodes_iff {bs : List UInt8} {ps : List Piece} : Decodes bs ps ↔ ps = pieces bs := by
  constructor
  · intro h
    exact h.unique (decodes_piecesFrom bs).1
  · rintro rfl
    exact (decodes_piecesFrom bs).1

end CountryLookup.Text.Utf8
