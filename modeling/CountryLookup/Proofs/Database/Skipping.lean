import Mathlib.Data.Fintype.Card
import CountryLookup.Proofs.Database.Items

/-!
# Passing over needs no more levels than there are bytes

A value is passed over level by level, and the levels are bounded by fuel. A value that ends can be
passed over with as many levels as the data have bytes, however its containers and pointers nest. Each
level that is needed has an offset at which one level less is too little, and no offset has this for
two levels. So there are no more such levels than bytes, and from the first one without such an
offset on, more levels change nothing.

## Main results

* `exists_settled` — from some level on, more of them change nothing.
* `pass_of_passOver` — a value that is passed over with any number of levels is passed over.
-/

namespace CountryLookup.Database

variable {data : Bytes} {fuel fuel' : Nat}

/-! ## Readers that read more -/

/-- Whatever a first reader reads, a second one reads as well. -/
def Refines {α : Type} (r r' : Except Failure α) : Prop := ∀ a, r = .ok a → r' = .ok a

theorem Refines.refl {α : Type} {r : Except Failure α} : Refines r r := fun _ h => h

theorem Refines.trans {α : Type} {r r' r'' : Except Failure α} (h : Refines r r')
    (h' : Refines r' r'') : Refines r r'' := fun a ha => h' a (h a ha)

theorem Refines.bind {α β : Type} {r r' : Except Failure α} {f f' : α → Except Failure β}
    (h : Refines r r') (hf : ∀ a, Refines (f a) (f' a)) : Refines (r >>= f) (r' >>= f') := by
  intro b hb
  cases r with
  | error e => cases hb
  | ok a =>
      rw [h a rfl]
      exact hf a b hb

theorem refines_passMany {item item' : Nat → Except Failure Nat}
    (hitem : ∀ pos, Refines (item pos) (item' pos)) (n pos : Nat) :
    Refines (passMany item n pos) (passMany item' n pos) := by
  induction n generalizing pos with
  | zero => exact .refl
  | succ n ih =>
      rw [passMany_succ, passMany_succ]
      exact (hitem pos).bind ih

/-! ## More levels -/

/-- If more is passed over inside a value, more is passed over. -/
theorem refines_passOver_succ
    (h : ∀ pos, Refines (passOver data fuel pos) (passOver data fuel' pos)) (pos : Nat) :
    Refines (passOver data (fuel + 1) pos) (passOver data (fuel' + 1) pos) := by
  have hpair : ∀ pos, Refines (passPair (passOver data fuel) pos)
      (passPair (passOver data fuel') pos) := fun pos => (h pos).bind h
  rw [passOver, passOver]
  refine Refines.refl.bind fun hd => ?_
  cases Kind.ofNumber? hd.number with
  | none => exact .refl
  | some kind =>
      cases kind with
      | pointer => exact (h _).bind fun _ => .refl
      | map => exact refines_passMany hpair hd.size hd.pos
      | array => exact refines_passMany h hd.size hd.pos
      | _ => exact .refl

/-- More levels are passed over where fewer are. -/
theorem refines_passOver (h : fuel ≤ fuel') (pos : Nat) :
    Refines (passOver data fuel pos) (passOver data fuel' pos) := by
  induction fuel generalizing fuel' pos with
  | zero =>
      intro a ha
      cases ha
  | succ fuel ih =>
      obtain ⟨fuel', rfl⟩ : ∃ n, fuel' = n + 1 := ⟨fuel' - 1, by omega⟩
      exact refines_passOver_succ (fun pos => ih (by omega) pos) pos

/-- One more level changes nothing. -/
def Settled (data : Bytes) (fuel : Nat) : Prop :=
  ∀ pos, Refines (passOver data (fuel + 1) pos) (passOver data fuel pos)

/-- Then no more levels do. -/
theorem Settled.refines (h : Settled data fuel) (more pos : Nat) :
    Refines (passOver data (fuel + more) pos) (passOver data fuel pos) := by
  induction more generalizing pos with
  | zero => exact .refl
  | succ more ih => exact (refines_passOver_succ (fun pos => ih pos) pos).trans (h pos)

theorem lt_size_of_passOver {pos next : Nat} (h : passOver data (fuel + 1) pos = .ok next) :
    pos < data.size := by
  rw [passOver, header, byteAt] at h
  cases hb : data[pos]? with
  | some b => exact (Array.getElem?_eq_some_iff.1 hb).1
  | none =>
      rw [hb] at h
      cases h

/-- **From some level on, more of them change nothing.** Otherwise each of the first levels would
have an offset of its own at which it is the least that is enough, and there are not so many. -/
theorem exists_settled (data : Bytes) : ∃ fuel ≤ data.size, Settled data fuel := by
  by_contra hnone
  have hneed : ∀ k : Fin (data.size + 1), ∃ pos next,
      passOver data (k + 1) pos = .ok next ∧ passOver data k pos ≠ .ok next := by
    intro k
    have hk : ¬ Settled data k := fun h => hnone ⟨k, Nat.lt_succ_iff.1 k.2, h⟩
    simpa [Settled, Refines] using hk
  choose pos next hread hmissing using hneed
  have hinjective : Function.Injective
      fun k => (⟨pos k, lt_size_of_passOver (hread k)⟩ : Fin data.size) := by
    have hne : ∀ j k : Fin (data.size + 1), j < k → pos j ≠ pos k := by
      intro j k hjk heq
      -- what `j` levels are enough for, `k` levels are
      have hk : passOver data k (pos j) = .ok (next j) :=
        refines_passOver (Nat.succ_le_of_lt hjk) (pos j) _ (hread j)
      have hmore : passOver data (k + 1) (pos j) = .ok (next j) :=
        refines_passOver (Nat.le_succ k) (pos j) _ hk
      have hsame : next j = next k := by
        rw [heq, hread k] at hmore
        exact (Except.ok.inj hmore).symm
      exact hmissing k (by rw [← heq, ← hsame]; exact hk)
    intro j k hjk
    have hpos : pos j = pos k := congrArg Fin.val hjk
    rcases lt_trichotomy j k with h | h | h
    · exact absurd hpos (hne j k h)
    · exact h
    · exact absurd hpos.symm (hne k j h)
  have hcard := Fintype.card_le_of_injective _ hinjective
  rw [Fintype.card_fin, Fintype.card_fin] at hcard
  omega

/-- **A value that is passed over with any number of levels is passed over.** -/
theorem pass_of_passOver {pos next : Nat} (h : passOver data fuel pos = .ok next) :
    pass data pos = .ok next := by
  obtain ⟨k, hk, hsettled⟩ := exists_settled data
  have hmore : passOver data (k + fuel) pos = .ok next :=
    refines_passOver (Nat.le_add_left fuel k) pos _ h
  exact refines_passOver (Nat.le_succ_of_le hk) pos _ (hsettled.refines fuel pos _ hmore)

end CountryLookup.Database
