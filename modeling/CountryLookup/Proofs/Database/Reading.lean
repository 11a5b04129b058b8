import CountryLookup.Proofs.Database.Grammar

/-!
# Reading values of the grammar

What the grammar says to stand at an offset is read there, up to its end: values in full, and texts as
keys. Of the values some are refused, those with a number of 128 bits in them, and the first of these
numbers is named.

## Main results

* `readValue_of_placed` — a value is read in full, unless it is refused.
* `readKey_of_placed` — a key is read as its bytes.
* `Direct.pairs` — the entries of a map.
-/

namespace CountryLookup.Database

open Text

/-! ## Numbers of 128 bits -/

mutual

/-- The first number of 128 bits in a value. -/
def Value.wide? : Value → Option Nat
  | .scalar (.uint128 n) => some n
  | .scalar _ => none
  | .array vs => wideIn? vs
  | .map es => wideAmong? es

/-- The first number of 128 bits in values one after the other. -/
def wideIn? : List Value → Option Nat
  | [] => none
  | v :: vs => v.wide?.or (wideIn? vs)

/-- The first number of 128 bits in keys and values one after the other. -/
def wideAmong? : List (Value × Value) → Option Nat
  | [] => none
  | (k, v) :: es => (k.wide?.or v.wide?).or (wideAmong? es)

end

/-- Why a number of 128 bits is refused. -/
def Failure.wide (n : Nat) : Failure := .wrongType (.integer128 n) "any value"

/-- What reading comes to if it meets a number of 128 bits, or none. -/
def unlessWide {α : Type} (wide : Option Nat) (a : α) : Except Failure α :=
  match wide with
  | none => .ok a
  | some n => .error (.wide n)

/-- Of two steps the first one that meets such a number counts. -/
theorem unlessWide_bind {α β : Type} {wide wide' : Option Nat} {a : α} {b : β}
    {f : α → Except Failure β} (h : f a = unlessWide wide' b) :
    unlessWide wide a >>= f = unlessWide (wide.or wide') b := by
  cases wide with
  | none => exact h
  | some n => rfl

theorem unlessWide_map {α β : Type} {wide : Option Nat} {a : α} {b : β}
    {f : α → Except Failure β} (h : f a = .ok b) :
    unlessWide wide a >>= f = unlessWide wide b := by
  have hbind : unlessWide wide a >>= f = unlessWide (wide.or none) b := unlessWide_bind h
  rwa [Option.or_none] at hbind

/-! ## Reading in full -/

variable {data : Bytes} {room pos next : Nat}

theorem Kind.number_ne_one {kind : Kind} (h : kind ≠ .pointer) : kind.number ≠ 1 := by
  cases kind <;> first | exact absurd rfl h | decide

/-- A scalar is its own head. -/
theorem Content.headAt {s : Scalar} {kind : Kind} {size : Nat} {bs : List UInt8}
    (h : Content s kind size bs) (hb : HasBytes data pos (controlBytes kind size ++ bs)) :
    HeadAt data pos (.scalar s) (pos + (controlBytes kind size ++ bs).length) := by
  have hend := hb.le_size (by simp [controlBytes_ne_nil])
  rw [List.length_append, ← Nat.add_assoc] at hend ⊢
  exact ⟨_, h.header hb, Kind.number_ne_one h.kind_ne_pointer, h.readHead hb.right hend⟩

/-- Whoever reads a value that is no pointer goes on from its head. -/
theorem HeadAt.bind_eq {α : Type} {head : Head} (h : HeadAt data pos head next)
    (follow : Header → Except Failure α) (go : Head × Nat → Except Failure α) :
    (header data pos >>= fun hd => if hd.number = 1 then follow hd else readHead data hd >>= go) =
      go (head, next) := by
  obtain ⟨hd, hheader, hnumber, hhead⟩ := h
  rw [hheader]
  show (if hd.number = 1 then _ else _) = _
  rw [if_neg hnumber, hhead]
  rfl

theorem HeadAt.readStep_scalar {s : Scalar} (h : HeadAt data pos (.scalar s) next)
    (inner : Option (Nat → Except Failure (Value × Nat))) :
    readStep data inner pos = unlessWide (Value.scalar s).wide? (.scalar s, next) := by
  rw [readStep]
  refine (h.bind_eq _ _).trans ?_
  cases s <;> rfl

theorem HeadAt.readStep_array {n : Nat} (h : HeadAt data pos (.array n) next)
    (inner : Nat → Except Failure (Value × Nat)) :
    readStep data (some inner) pos =
      readMany inner n next >>= fun r => .ok (.array r.1, r.2) := by
  rw [readStep]
  exact h.bind_eq _ _

theorem HeadAt.readStep_map {n : Nat} (h : HeadAt data pos (.map n) next)
    (inner : Nat → Except Failure (Value × Nat)) :
    readStep data (some inner) pos =
      readMany (readPair inner) n next >>= fun r => .ok (.map r.1, r.2) := by
  rw [readStep]
  exact h.bind_eq _ _

section Items

variable {item : Nat → Except Failure (Value × Nat)}
  (hitem : ∀ {pos v next}, Placed data room pos v next →
    item pos = unlessWide v.wide? (v, next))
include hitem

theorem Row.readMany {vs : List Value} (h : Row data room pos vs next) :
    readMany item vs.length pos = unlessWide (wideIn? vs) (vs, next) := by
  induction vs generalizing pos with
  | nil =>
      cases h
      rfl
  | cons v vs ih =>
      cases h with
      | cons hv hvs =>
          rw [List.length_cons, Database.readMany, hitem hv, wideIn?]
          refine unlessWide_bind ?_
          show (Database.readMany item vs.length _ >>= _) = _
          rw [ih hvs]
          exact unlessWide_map rfl

theorem readPair_of_placed {k : String} {v : Value} {mid : Nat}
    (hk : Placed data room pos (.ofText k) mid) (hv : Placed data room mid v next) :
    readPair item pos = unlessWide v.wide? ((.ofText k, v), next) := by
  rw [readPair, hitem hk]
  show (item mid >>= _) = _
  rw [hitem hv]
  exact unlessWide_map rfl

theorem Pairs.readMany {es : List (String × Value)} (h : Pairs data room pos es next) :
    Database.readMany (readPair item) es.length pos =
      unlessWide (Value.ofMembers es).wide? (es.map fun e => (.ofText e.1, e.2), next) := by
  rw [Value.ofMembers, Value.wide?]
  induction es generalizing pos with
  | nil =>
      cases h
      rfl
  | cons e es ih =>
      cases h with
      | @cons _ _ _ _ _ k v _ hk hv hes =>
          have hkey : (Value.ofText k).wide? = none := rfl
          rw [List.length_cons, Database.readMany, readPair_of_placed hitem hk hv, List.map_cons,
            wideAmong?, hkey, Option.none_or]
          refine unlessWide_bind ?_
          show (Database.readMany (readPair item) es.length _ >>= _) = _
          rw [ih hes]
          exact unlessWide_map rfl

end Items

/-- **Reading a value of the grammar in full** gives the value and its end, unless there is a number
of 128 bits in it. -/
theorem readValue_of_placed {v : Value} (h : Placed data room pos v next) :
    readValue data room pos = unlessWide v.wide? (v, next) := by
  induction room generalizing pos v next with
  | zero =>
      cases h with
      | direct h =>
          cases h with
          | scalar h hb => exact (h.headAt hb).readStep_scalar none
  | succ room ih =>
      rw [readValue]
      cases h with
      | direct h =>
          cases h with
          | scalar h hb => exact (h.headAt hb).readStep_scalar _
          | array hsize hb hvs =>
              rw [(headAt_array hb hsize).readStep_array, hvs.readMany ih, Value.wide?]
              exact unlessWide_map rfl
          | map hsize hb hes =>
              rw [(headAt_map hb hsize).readStep_map, hes.readMany ih]
              exact unlessWide_map rfl
      | pointer hp hb h =>
          obtain ⟨hd, hheader, hnumber, htarget⟩ := hp.header hb
          have hinner := ih (.direct h)
          rw [readStep, hheader]
          simp only [bind, Except.bind, hnumber, if_true, htarget, hinner]
          cases v.wide? <;> rfl

/-! ## Keys -/

/-- The text that stands at an offset, and its bytes. -/
theorem Direct.text {k : String} (h : Direct data room pos (.ofText k) next) :
    ∃ start, header data pos = .ok ⟨2, (Utf8.encode k).length, start⟩ ∧
      slice? data start (Utf8.encode k).length = some (Utf8.encode k) ∧
      start + (Utf8.encode k).length = next := by
  generalize hv : Value.ofText k = v at h
  cases h with
  | scalar h hb =>
      cases hv
      cases h with
      | text hk =>
          have hbytes : HasBytes data pos (Value.ofText k).encode := by
            rw [Value.ofText, Value.encode, Scalar.encode]
            exact hb
          obtain ⟨start, hheader, hslice, hend⟩ := header_ofText hbytes hk
          refine ⟨start, hheader, hslice, ?_⟩
          rw [hend, Value.ofText, Value.encode, Scalar.encode]
  | array hsize hb hvs => cases hv
  | map hsize hb hes => cases hv

/-- **A key is read as its bytes,** also if a pointer leads to it. -/
theorem readKey_of_placed {k : String} (h : Placed data room pos (.ofText k) next) :
    readKey data pos = .ok (.name (Utf8.encode k), next) := by
  cases h with
  | direct h =>
      obtain ⟨start, hheader, hslice, hend⟩ := h.text
      rw [readKey, hheader]
      show readKeyAt data ⟨2, (Utf8.encode k).length, start⟩ = _
      simp only [readKeyAt, Kind.ofNumber?, hslice, hend]
  | pointer hp hb h =>
      obtain ⟨hd, hpointer, hnumber, htarget⟩ := hp.header hb
      obtain ⟨start, hheader, hslice, -⟩ := h.text
      rw [readKey, hpointer]
      simp only [bind, Except.bind, hnumber, if_true, htarget, hheader, readKeyAt, Kind.ofNumber?,
        hslice]
      rfl

/-! ## Maps -/

theorem Value.ofMembers_inj {es es' : List (String × Value)}
    (h : Value.ofMembers es = Value.ofMembers es') : es = es' := by
  have hpair : Function.Injective
      fun e : String × Value => (Value.ofText e.1, e.2) := by
    rintro ⟨k, v⟩ ⟨k', v'⟩ heq
    simp only [Value.ofText, Prod.mk.injEq, Value.scalar.injEq, Scalar.text.injEq] at heq
    rw [heq.1, heq.2]
  exact List.map_injective_iff.2 hpair (Value.map.inj h)

/-- The entries of a map stand behind its control bytes. -/
theorem Direct.pairs {es : List (String × Value)}
    (h : Direct data room pos (.ofMembers es) next) :
    ∃ inner, room = inner + 1 ∧ es.length ≤ maxSize ∧
      HasBytes data pos (controlBytes .map es.length) ∧
      Pairs data inner (pos + (controlBytes .map es.length).length) es next := by
  generalize hv : Value.ofMembers es = v at h
  cases h with
  | scalar h hb => cases hv
  | array hsize hb hvs => cases hv
  | map hsize hb hes =>
      obtain rfl := Value.ofMembers_inj hv
      exact ⟨_, rfl, hsize, hb, hes⟩

end CountryLookup.Database
