import CountryLookup.Text.Utf8

/-!
# Reading UTF-8 back

A character is written in one to four bytes, by its code point. The machine that reads bytes has
one table for the first byte of a character and narrower bounds for the second, which keep out
code points that are written too long, halves of pairs and numbers beyond the last code point. A
code point of a character avoids all three, so its bytes pass every bound, and the number that the
machine collects is the code point.

## Main results

* `pieces_encodeChar` — the bytes of a character are read as that character, whatever follows.
* `decode?_encode`, `decodeWith_encode` — the bytes of a text are read as that text.
-/

namespace CountryLookup.Text.Utf8

/-! ## First bytes -/

private theorem not_lt_of_toNat_le {b c : UInt8} (h : c.toNat ≤ b.toNat) : ¬ b < c := by
  rw [UInt8.lt_iff_toNat_lt]
  omega

/-- The first of two bytes. -/
theorem lead_two {b : UInt8} (hlo : 0xC2 ≤ b.toNat) (hhi : b.toNat < 0xE0) :
    lead b = ([], .inside 0 0x80 0xBF (b.toNat - 0xC0)) := by
  have h1 : ¬ b < 0x80 := not_lt_of_toNat_le (Nat.le_trans (by decide) hlo)
  have h2 : ¬ b < 0xC2 := not_lt_of_toNat_le hlo
  have h3 : b < 0xE0 := UInt8.lt_iff_toNat_lt.2 hhi
  rw [lead, if_neg h1, if_neg h2, if_pos h3]

/-- The least second byte of three: below it the code point would have two. -/
def leastOfThree (n : Nat) : UInt8 := if n = 0xE0 then 0xA0 else 0x80

/-- The greatest second byte of three: above it are the halves of pairs. -/
def greatestOfThree (n : Nat) : UInt8 := if n = 0xED then 0x9F else 0xBF

theorem toNat_leastOfThree (n : Nat) :
    (leastOfThree n).toNat = if n = 0xE0 then 0xA0 else 0x80 := by
  unfold leastOfThree
  split
  · rfl
  · rfl

theorem toNat_greatestOfThree (n : Nat) :
    (greatestOfThree n).toNat = if n = 0xED then 0x9F else 0xBF := by
  unfold greatestOfThree
  split
  · rfl
  · rfl

/-- The first of three bytes. -/
theorem lead_three {b : UInt8} (hlo : 0xE0 ≤ b.toNat) (hhi : b.toNat < 0xF0) :
    lead b =
      ([], .inside 1 (leastOfThree b.toNat) (greatestOfThree b.toNat) (b.toNat - 0xE0)) := by
  have h1 : ¬ b < 0x80 := not_lt_of_toNat_le (Nat.le_trans (by decide) hlo)
  have h2 : ¬ b < 0xC2 := not_lt_of_toNat_le (Nat.le_trans (by decide) hlo)
  have h3 : ¬ b < 0xE0 := not_lt_of_toNat_le hlo
  rw [lead, if_neg h1, if_neg h2, if_neg h3]
  by_cases h4 : b = 0xE0
  · subst h4
    decide
  · rw [if_neg h4]
    have n4 : b.toNat ≠ 0xE0 := fun e => h4 (UInt8.toNat_inj.1 e)
    rw [leastOfThree, if_neg n4, greatestOfThree]
    by_cases h5 : b = 0xED
    · subst h5
      decide
    · have n5 : b.toNat ≠ 0xED := fun e => h5 (UInt8.toNat_inj.1 e)
      have h6 : b < 0xF0 := UInt8.lt_iff_toNat_lt.2 hhi
      rw [if_neg h5, if_pos h6, if_neg n5]

/-- The least second byte of four: below it the code point would have three. -/
def leastOfFour (n : Nat) : UInt8 := if n = 0xF0 then 0x90 else 0x80

/-- The greatest second byte of four: above it there are no code points. -/
def greatestOfFour (n : Nat) : UInt8 := if n = 0xF4 then 0x8F else 0xBF

theorem toNat_leastOfFour (n : Nat) :
    (leastOfFour n).toNat = if n = 0xF0 then 0x90 else 0x80 := by
  unfold leastOfFour
  split
  · rfl
  · rfl

theorem toNat_greatestOfFour (n : Nat) :
    (greatestOfFour n).toNat = if n = 0xF4 then 0x8F else 0xBF := by
  unfold greatestOfFour
  split
  · rfl
  · rfl

/-- The first of four bytes. -/
theorem lead_four {b : UInt8} (hlo : 0xF0 ≤ b.toNat) (hhi : b.toNat ≤ 0xF4) :
    lead b =
      ([], .inside 2 (leastOfFour b.toNat) (greatestOfFour b.toNat) (b.toNat - 0xF0)) := by
  obtain h | h | h | h | h : b = 0xF0 ∨ b = 0xF1 ∨ b = 0xF2 ∨ b = 0xF3 ∨ b = 0xF4 := by
    simp only [← UInt8.toNat_inj, UInt8.reduceToNat]
    omega
  all_goals
    subst h
    decide

/-! ## Later bytes -/

theorem piecesFrom_cons (s : State) (b : UInt8) (bs : List UInt8) :
    piecesFrom s (b :: bs) = (step s b).1 ++ piecesFrom (step s b).2 bs := by
  cases s <;> rfl

/-- A first byte that owes others leaves the machine inside the character. -/
theorem pieces_of_lead {b : UInt8} {s : State} (h : lead b = ([], s)) (bs : List UInt8) :
    pieces (b :: bs) = piecesFrom s bs := by
  rw [pieces, piecesFrom_cons, step, h]
  rfl

/-- A last byte within its bounds ends the character. -/
theorem piecesFrom_last {lo hi b : UInt8} {n : Nat} (acc : Nat) (hb : b.toNat = n + 0x80)
    (hlo : lo.toNat ≤ n + 0x80) (hhi : n + 0x80 ≤ hi.toNat) (bs : List UInt8) :
    piecesFrom (.inside 0 lo hi acc) (b :: bs) =
      .char (Char.ofNat (acc * 64 + n)) :: pieces bs := by
  have h : (lo ≤ b && b ≤ hi) = true := by
    simp [UInt8.le_iff_toNat_le, hb, hlo, hhi]
  rw [piecesFrom_cons, step, if_pos h, hb, Nat.add_sub_cancel]
  rfl

/-- Another byte within its bounds is collected. -/
theorem piecesFrom_more {lo hi b : UInt8} {n : Nat} (more acc : Nat) (hb : b.toNat = n + 0x80)
    (hlo : lo.toNat ≤ n + 0x80) (hhi : n + 0x80 ≤ hi.toNat) (bs : List UInt8) :
    piecesFrom (.inside (more + 1) lo hi acc) (b :: bs) =
      piecesFrom (.inside more 0x80 0xBF (acc * 64 + n)) bs := by
  have h : (lo ≤ b && b ≤ hi) = true := by
    simp [UInt8.le_iff_toNat_le, hb, hlo, hhi]
  rw [piecesFrom_cons, step, if_pos h, hb, Nat.add_sub_cancel]
  rfl

/-! ## Characters -/

theorem toNat_least : (0x80 : UInt8).toNat = 0x80 := rfl

theorem toNat_greatest : (0xBF : UInt8).toNat = 0xBF := rfl

/-- Two bytes. -/
theorem pieces_two {a b : UInt8} {v : Nat} (ha : a.toNat = v / 64 + 0xC0)
    (hb : b.toNat = v % 64 + 0x80) (hlo : 0x80 ≤ v) (hhi : v < 0x800) (bs : List UInt8) :
    pieces (a :: b :: bs) = .char (Char.ofNat v) :: pieces bs := by
  have hv : (a.toNat - 0xC0) * 64 + v % 64 = v := by omega
  rw [pieces_of_lead (lead_two (by omega) (by omega)),
    piecesFrom_last _ hb (by rw [toNat_least]; omega) (by rw [toNat_greatest]; omega), hv]

/-- Three bytes. The bounds of the second keep out what two bytes can say and halves of pairs. -/
theorem pieces_three {a b c : UInt8} {v : Nat} (ha : a.toNat = v / 4096 + 0xE0)
    (hb : b.toNat = v / 64 % 64 + 0x80) (hc : c.toNat = v % 64 + 0x80) (hlo : 0x800 ≤ v)
    (hhi : v < 0x10000) (hpair : v < 0xD800 ∨ 0xE000 ≤ v) (bs : List UInt8) :
    pieces (a :: b :: c :: bs) = .char (Char.ofNat v) :: pieces bs := by
  have hleast : (leastOfThree a.toNat).toNat ≤ v / 64 % 64 + 0x80 := by
    rw [toNat_leastOfThree]
    split <;> omega
  have hgreatest : v / 64 % 64 + 0x80 ≤ (greatestOfThree a.toNat).toNat := by
    rw [toNat_greatestOfThree]
    split <;> omega
  have hv : ((a.toNat - 0xE0) * 64 + v / 64 % 64) * 64 + v % 64 = v := by omega
  rw [pieces_of_lead (lead_three (by omega) (by omega)),
    piecesFrom_more 0 _ hb hleast hgreatest,
    piecesFrom_last _ hc (by rw [toNat_least]; omega) (by rw [toNat_greatest]; omega), hv]

/-- Four bytes. The bounds of the second keep out what three bytes can say and what lies beyond
the last code point. -/
theorem pieces_four {a b c d : UInt8} {v : Nat} (ha : a.toNat = v / 262144 + 0xF0)
    (hb : b.toNat = v / 4096 % 64 + 0x80) (hc : c.toNat = v / 64 % 64 + 0x80)
    (hd : d.toNat = v % 64 + 0x80) (hlo : 0x10000 ≤ v) (hhi : v < 0x110000) (bs : List UInt8) :
    pieces (a :: b :: c :: d :: bs) = .char (Char.ofNat v) :: pieces bs := by
  have hleast : (leastOfFour a.toNat).toNat ≤ v / 4096 % 64 + 0x80 := by
    rw [toNat_leastOfFour]
    split <;> omega
  have hgreatest : v / 4096 % 64 + 0x80 ≤ (greatestOfFour a.toNat).toNat := by
    rw [toNat_greatestOfFour]
    split <;> omega
  have hv : (((a.toNat - 0xF0) * 64 + v / 4096 % 64) * 64 + v / 64 % 64) * 64 + v % 64 = v := by
    omega
  rw [pieces_of_lead (lead_four (by omega) (by omega)),
    piecesFrom_more 1 _ hb hleast hgreatest,
    piecesFrom_more 0 _ hc (by rw [toNat_least]; omega) (by rw [toNat_greatest]; omega),
    piecesFrom_last _ hd (by rw [toNat_least]; omega) (by rw [toNat_greatest]; omega), hv]

/-- A byte that is written for a number below 256 has that number. -/
theorem toNat_byte {n m : Nat} (hn : n = m) (h : m < 256) : (UInt8.ofNat n).toNat = m := by
  rw [UInt8.toNat_ofNat', hn]
  omega

/-- A code point is no half of a pair, and there are not more than seventeen planes of them. -/
theorem codePoint_range (c : Char) :
    c.toNat < 0xD800 ∨ (0xE000 ≤ c.toNat ∧ c.toNat < 0x110000) := by
  have h := c.valid
  simp only [UInt32.isValidChar, Nat.isValidChar] at h
  show c.val.toNat < _ ∨ (_ ≤ c.val.toNat ∧ c.val.toNat < _)
  omega

/-- **The bytes of a character are read as that character.** -/
theorem pieces_encodeChar (c : Char) (bs : List UInt8) :
    pieces (String.utf8EncodeChar c ++ bs) = .char c :: pieces bs := by
  have hr : c.val.toNat < 0xD800 ∨ (0xE000 ≤ c.val.toNat ∧ c.val.toNat < 0x110000) :=
    codePoint_range c
  have hc : Char.ofNat c.val.toNat = c := Char.ofNat_toNat c
  unfold String.utf8EncodeChar
  -- from here on the code point is a number `v` with the range of one
  revert hr hc
  generalize c.val.toNat = v
  intro hr hc
  rw [← hc]
  by_cases h1 : v ≤ 0x7f
  · have hb : (UInt8.ofNat v).toNat = v := toNat_byte rfl (by omega)
    have hlt : UInt8.ofNat v < 0x80 := by
      rw [UInt8.lt_iff_toNat_lt, hb, toNat_least]
      omega
    simp only [if_pos h1, List.singleton_append]
    rw [pieces_ascii hlt, hb]
  · by_cases h2 : v ≤ 0x7ff
    · simp only [if_neg h1, if_pos h2, List.cons_append, List.nil_append]
      exact pieces_two (toNat_byte (by omega) (by omega)) (toNat_byte rfl (by omega)) (by omega)
        (by omega) bs
    · by_cases h3 : v ≤ 0xffff
      · simp only [if_neg h1, if_neg h2, if_pos h3, List.cons_append, List.nil_append]
        exact pieces_three (toNat_byte (by omega) (by omega)) (toNat_byte rfl (by omega))
          (toNat_byte rfl (by omega)) (by omega) (by omega) (by omega) bs
      · simp only [if_neg h1, if_neg h2, if_neg h3, List.cons_append, List.nil_append]
        exact pieces_four (toNat_byte (by omega) (by omega)) (toNat_byte rfl (by omega))
          (toNat_byte rfl (by omega)) (toNat_byte rfl (by omega)) (by omega) (by omega) bs

/-! ## Texts -/

theorem pieces_encode (cs : List Char) :
    pieces (cs.flatMap String.utf8EncodeChar) = cs.map .char := by
  induction cs with
  | nil => rfl
  | cons c cs ih =>
      rw [List.flatMap_cons, pieces_encodeChar, ih, List.map_cons]

theorem chars?_map_char (cs : List Char) : chars? (cs.map .char) = some cs := by
  induction cs with
  | nil => rfl
  | cons c cs ih =>
      rw [List.map_cons, chars?, ih]
      rfl

/-- **The bytes of a text spell that text.** -/
theorem decode?_encode (s : String) : decode? (encode s) = some s := by
  rw [decode?, encode, pieces_encode, chars?_map_char, Option.map_some, String.ofList_toList]

/-- No sequence of the bytes of a text is broken. -/
theorem decodeWith_encode (mark : Char) (s : String) : decodeWith mark (encode s) = s := by
  rw [decodeWith, encode, pieces_encode, List.map_map]
  show String.ofList (s.toList.map id) = s
  rw [List.map_id, String.ofList_toList]

theorem encode_append (s s' : String) : encode (s ++ s') = encode s ++ encode s' := by
  rw [encode, String.toList_append, List.flatMap_append]
  rfl

end CountryLookup.Text.Utf8
