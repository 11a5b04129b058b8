import CountryLookup.Address.Printer

/-!
# How addresses are shown

The writer finds the zero groups to leave out by walking over the groups once. What it finds is
said here without the walk: of all runs of zero groups the longest, and of several longest ones the
first. With that the text of an address is one of four: four decimal numbers, the same behind
`::ffff:`, groups with one run left out, or all eight groups.

## Main results

* `gap_zeroRun` — the walk finds the first longest run of zero groups.
* `shows_print` — every address is shown in the form that its octets ask for.
-/

namespace CountryLookup

namespace V6

/-! ## The groups that are left out -/

/-- A list of groups around its longest run of zero groups, of several the first. -/
structure Gap (gs before : List UInt16) (k : Nat) (after : List UInt16) : Prop where
  split : gs = before ++ (List.replicate k 0 ++ after)
  longest : ∀ a n b, gs = a ++ (List.replicate n 0 ++ b) →
    n ≤ k ∧ (n = k → before.length ≤ a.length)

/-- The zero groups in front, and the rest. -/
theorem zeroLead_split (gs : List UInt16) :
    gs = List.replicate (zeroLead gs) 0 ++ gs.drop (zeroLead gs) := by
  induction gs with
  | nil => rfl
  | cons g gs ih =>
      by_cases hg : g = 0
      · have hl : zeroLead (g :: gs) = zeroLead gs + 1 := by simp [zeroLead, hg]
        rw [hl, List.replicate_succ, List.drop_succ_cons, List.cons_append, ← ih, hg]
      · have hl : zeroLead (g :: gs) = 0 := by simp [zeroLead, hg]
        rw [hl]
        rfl

/-- No run of zero groups in front is longer than the one that is counted. -/
theorem le_zeroLead (n : Nat) (b : List UInt16) : n ≤ zeroLead (List.replicate n 0 ++ b) := by
  induction n with
  | zero => exact Nat.zero_le _
  | succ n ih =>
      have hl : zeroLead (List.replicate (n + 1) 0 ++ b) =
          zeroLead (List.replicate n 0 ++ b) + 1 := by simp [zeroLead, List.replicate_succ]
      omega

/-- The first group belongs to the run that is found, or to what stands before it. -/
theorem Gap.cons {gs before after : List UInt16} {k : Nat} (h : Gap gs before k after)
    (g : UInt16) :
    (zeroLead (g :: gs) < k → Gap (g :: gs) (g :: before) k after) ∧
      (k ≤ zeroLead (g :: gs) →
        Gap (g :: gs) [] (zeroLead (g :: gs)) ((g :: gs).drop (zeroLead (g :: gs)))) := by
  constructor
  · intro hk
    refine ⟨by rw [h.split]; rfl, ?_⟩
    intro a n b he
    cases a with
    | nil =>
        have hn := le_zeroLead n b
        rw [List.nil_append] at he
        rw [← he] at hn
        exact ⟨by omega, by omega⟩
    | cons x a =>
        obtain ⟨hle, heq⟩ := h.longest a n b (List.cons.inj he).2
        exact ⟨hle, fun hn => Nat.succ_le_succ (heq hn)⟩
  · intro hk
    refine ⟨zeroLead_split (g :: gs), ?_⟩
    intro a n b he
    refine ⟨?_, fun _ => Nat.zero_le _⟩
    cases a with
    | nil =>
        have hn := le_zeroLead n b
        rw [List.nil_append] at he
        rwa [← he] at hn
    | cons x a => exact Nat.le_trans (h.longest a n b (List.cons.inj he).2).1 hk

/-- **The walk finds the first longest run of zero groups.** -/
theorem gap_zeroRun (i : Nat) (gs : List UInt16) :
    ∃ before after, Gap gs before (zeroRun i gs).2 after ∧
      (zeroRun i gs).1 = i + before.length := by
  induction gs generalizing i with
  | nil =>
      refine ⟨[], [], ⟨rfl, ?_⟩, rfl⟩
      intro a n b he
      have hlen := congrArg List.length he
      simp only [List.length_nil, List.length_append, List.length_replicate] at hlen
      exact ⟨by simp only [zeroRun]; omega, fun _ => Nat.zero_le _⟩
  | cons g gs ih =>
      obtain ⟨before, after, hgap, hstart⟩ := ih (i + 1)
      have hcons := hgap.cons g
      simp only [zeroRun]
      by_cases hk : zeroLead (g :: gs) < (zeroRun (i + 1) gs).2
      · rw [if_pos hk]
        refine ⟨g :: before, after, hcons.1 hk, ?_⟩
        rw [hstart, List.length_cons]
        omega
      · rw [if_neg hk]
        exact ⟨[], _, hcons.2 (by omega), rfl⟩

/-- The text of an address that carries no other: a run of two or more zero groups is left out. -/
theorem print_of_not_mapped {x : V6} (h : x.mapped? = none) :
    ∃ before k after, Gap x.groups before k after ∧
      x.print = if 1 < k then printGroups before ++ (':' :: ':' :: printGroups after)
        else printGroups x.groups := by
  obtain ⟨before, after, hgap, hstart⟩ := gap_zeroRun 0 x.groups
  refine ⟨before, (zeroRun 0 x.groups).2, after, hgap, ?_⟩
  have hbefore : x.groups.take (zeroRun 0 x.groups).1 = before := by
    rw [hstart, Nat.zero_add]
    exact (congrArg (List.take before.length) hgap.split).trans List.take_left
  have hafter :
      x.groups.drop ((zeroRun 0 x.groups).1 + (zeroRun 0 x.groups).2) = after := by
    have hdrop := (congrArg (List.drop before.length) hgap.split).trans List.drop_left
    rw [hstart, Nat.zero_add, ← List.drop_drop, hdrop]
    exact List.drop_left' List.length_replicate
  simp only [print, h, hbefore, hafter, List.append_assoc]
  rfl

end V6

/-! ## The four forms -/

/-- Four decimal numbers with dots between. -/
def dotted (a b c d : UInt8) : List Char :=
  Nat.toDigits 10 a.toNat ++ ('.' :: (Nat.toDigits 10 b.toNat ++ ('.' ::
    (Nat.toDigits 10 c.toNat ++ ('.' :: Nat.toDigits 10 d.toNat)))))

/-- How an address is shown. -/
inductive Address.Shows : Address → List Char → Prop where
  | numbers (a b c d : UInt8) : Shows (.v4 ⟨a, b, c, d⟩) (dotted a b c d)
  | mapped (a b c d : UInt8) :
    Shows (.v6 ⟨0, 0, 0, 0, 0, 0xFFFF, groupOf a b, groupOf c d⟩)
      ("::ffff:".toList ++ dotted a b c d)
  | shortened {x : V6} {before after : List UInt16} {k : Nat} (hm : x.mapped? = none)
      (hk : 1 < k) (hg : V6.Gap x.groups before k after) :
    Shows (.v6 x) (V6.printGroups before ++ (':' :: ':' :: V6.printGroups after))
  | full {x : V6} (hm : x.mapped? = none)
      (hg : ∀ a n b, x.groups = a ++ (List.replicate n 0 ++ b) → n ≤ 1) :
    Shows (.v6 x) (V6.printGroups x.groups)

theorem V4.print_eq_dotted (x : V4) : x.print = dotted x.a x.b x.c x.d := rfl

/-- An address that carries four octets is built from them. -/
theorem V6.eq_of_mapped? {x : V6} {y : V4} (h : x.mapped? = some y) :
    x = ⟨0, 0, 0, 0, 0, 0xFFFF, groupOf y.a y.b, groupOf y.c y.d⟩ := by
  unfold V6.mapped? at h
  split at h
  · rename_i hz
    obtain ⟨ha, hb, hc, hd, he, hf⟩ := hz
    obtain ⟨a, b, c, d, e, f, g, i⟩ := x
    rw [← Option.some.inj h]
    simp only at ha hb hc hd he hf
    simp only [ha, hb, hc, hd, he, hf, groupOf_octets]
  · cases h

/-- **Every address is shown in the form that its octets ask for.** -/
theorem Address.shows_print (x : Address) : x.Shows x.print := by
  cases x with
  | v4 x => exact .numbers x.a x.b x.c x.d
  | v6 x =>
      cases hm : x.mapped? with
      | some y =>
          have hx := V6.eq_of_mapped? hm
          have hp : (Address.v6 x).print = "::ffff:".toList ++ dotted y.a y.b y.c y.d := by
            simp only [Address.print, V6.print, hm, V4.print_eq_dotted]
          rw [hp, hx]
          exact .mapped y.a y.b y.c y.d
      | none =>
          obtain ⟨before, k, after, hgap, hp⟩ := V6.print_of_not_mapped hm
          change Shows (.v6 x) x.print
          rw [hp]
          by_cases hk : 1 < k
          · rw [if_pos hk]
            exact .shortened hm hk hgap
          · rw [if_neg hk]
            refine .full hm ?_
            intro a n b he
            have hn := (hgap.longest a n b he).1
            omega

end CountryLookup
