import CountryLookup.Proofs.Database.Skipping
import CountryLookup.Proofs.Database.Values

/-!
# The grammar of values

Which values stand in some data is said here by the bytes of the format, without a reader. Every
value has control bytes with its kind and its size. Behind them a scalar has its contents, and a
container has its entries one after the other. Instead of a value there may be a pointer to one, of
one of four lengths, but not to another pointer. Numbers may have leading zeros, and the keys of maps
are texts. Nesting is counted: each container and each pointer takes a unit of room.

What is passed over need not be understood, but its end must be found. For every value of the
grammar the end that is found is the end of the value.

## Main results

* `placed_encode` — what is written is of the grammar.
* `Content.header`, `PointsTo.header` — control bytes of scalars and of pointers are read back.
* `pass_of_placed` — a value is passed over up to its end.
-/

namespace CountryLookup.Database

open Text

variable {data : Bytes}

/-! ## Scalars -/

/-- The kinds of numbers without a sign, with the most bytes that they have. -/
inductive IsUnsigned : Kind → Nat → Prop
  | uint16 : IsUnsigned .uint16 2
  | uint32 : IsUnsigned .uint32 4
  | uint64 : IsUnsigned .uint64 8

/-- The contents of a scalar, behind control bytes with a kind and a size. -/
inductive Content : Scalar → Kind → Nat → List UInt8 → Prop
  | text {s : String} (h : TextFits s) :
      Content (.text s) .text (Utf8.encode s).length (Utf8.encode s)
  | bytes {bs : List UInt8} (h : bs.length ≤ maxSize) : Content (.bytes bs) .bytes bs.length bs
  | double {n : Nat} (h : n < twoTo 64) : Content (.double n) .double 8 (bigEndianBytes 8 n)
  | float {n : Nat} (h : n < twoTo 32) : Content (.float n) .float 4 (bigEndianBytes 4 n)
  | unsigned {kind : Kind} {width size n : Nat} (hk : IsUnsigned kind width) (hs : size ≤ width)
      (hn : n < twoTo (8 * size)) : Content (.unsigned n) kind size (bigEndianBytes size n)
  | int32 {size n : Nat} (hs : size ≤ 4) (hn : n < twoTo (8 * size)) :
      Content (.int32 (signed32 n)) .int32 size (bigEndianBytes size n)
  | uint128 {size n : Nat} (hs : size ≤ 16) (hn : n < twoTo (8 * size)) :
      Content (.uint128 n) .uint128 size (bigEndianBytes size n)
  | bool (b : Bool) : Content (.bool b) .bool (if b then 1 else 0) []

variable {s : Scalar} {kind : Kind} {size pos : Nat} {bs : List UInt8}

theorem Content.kind_ne_pointer (h : Content s kind size bs) : kind ≠ .pointer := by
  cases h with
  | unsigned hk => cases hk <;> decide
  | _ => decide

theorem Content.size_le (h : Content s kind size bs) : size ≤ maxSize := by
  have hroom : 16 ≤ maxSize := by decide
  cases h with
  | text h => exact h
  | bytes h => exact h
  | double h => exact Nat.le_trans (by decide) hroom
  | float h => exact Nat.le_trans (by decide) hroom
  | unsigned hk hs =>
      cases hk <;> omega
  | int32 hs => omega
  | uint128 hs => omega
  | bool b => cases b <;> decide

/-- **The control bytes of a scalar are read back.** -/
theorem Content.header (h : Content s kind size bs)
    (hb : HasBytes data pos (controlBytes kind size ++ bs)) :
    header data pos = .ok ⟨kind.number, size, pos + (controlBytes kind size).length⟩ :=
  hb.left.header h.kind_ne_pointer h.size_le

/-- The contents of a scalar are read back. -/
theorem Content.readHead (h : Content s kind size bs) (hb : HasBytes data pos bs)
    (hend : pos + bs.length ≤ data.size) :
    readHead data ⟨kind.number, size, pos⟩ = .ok (.scalar s, pos + bs.length) := by
  have hexact : ∀ {name : String} {width n : Nat}, HasBytes data pos (bigEndianBytes width n) →
      pos + width ≤ data.size → n < twoTo (8 * width) →
      readExact data name width ⟨kind.number, width, pos⟩ = .ok (n, pos + width) := by
    intro name width n hn hsize hlt
    rw [readExact, if_neg (by simp only; omega)]
    exact hn.bigEndian_of_lt hlt
  have hword : ∀ {name : String} {width n : Nat}, HasBytes data pos (bigEndianBytes size n) →
      size ≤ width → n < twoTo (8 * size) →
      readWord data name width ⟨kind.number, size, pos⟩ = .ok (n, pos + size) := by
    intro name width n hn hsize hlt
    rw [readWord, if_neg (Nat.not_lt.2 hsize)]
    exact hn.bigEndian_of_lt hlt
  cases h with
  | text h =>
      simp only [Database.readHead, Kind.ofNumber?_number, readBytes, hb.slice? hend, bind,
        Except.bind, Utf8.decode?_encode]
  | bytes h =>
      simp only [Database.readHead, Kind.ofNumber?_number, readBytes, hb.slice? hend, bind,
        Except.bind]
  | double h =>
      rw [length_bigEndianBytes] at hend ⊢
      simp only [Database.readHead, Kind.ofNumber?_number, hexact hb hend h, bind, Except.bind]
  | float h =>
      rw [length_bigEndianBytes] at hend ⊢
      simp only [Database.readHead, Kind.ofNumber?_number, hexact hb hend h, bind, Except.bind]
  | unsigned hk hs hn =>
      rw [length_bigEndianBytes]
      cases hk <;>
        simp only [Database.readHead, Kind.ofNumber?_number, hword hb hs hn, bind, Except.bind]
  | int32 hs hn =>
      rw [length_bigEndianBytes]
      simp only [Database.readHead, Kind.ofNumber?_number, hword hb hs hn, bind, Except.bind]
  | uint128 hs hn =>
      rw [length_bigEndianBytes]
      simp only [Database.readHead, Kind.ofNumber?_number, hword hb hs hn, bind, Except.bind]
  | bool b => cases b <;> rfl

/-- The contents of a scalar are passed over. -/
theorem Content.passOver {start : Nat} (h : Content s kind size bs)
    (hheader : Database.header data pos = .ok ⟨kind.number, size, start⟩) (fuel : Nat) :
    passOver data (fuel + 1) pos = .ok (start + bs.length) := by
  rw [Database.passOver, hheader]
  cases h with
  | unsigned hk hs hn => cases hk <;> rw [length_bigEndianBytes] <;> rfl
  | int32 hs hn => rw [length_bigEndianBytes]; rfl
  | uint128 hs hn => rw [length_bigEndianBytes]; rfl
  | _ => rfl

/-! ## Pointers -/

/-- What is added to the number of a pointer, as the shorter ones reach what is nearer. -/
def pointerBase (width : Nat) : Nat :=
  if width = 2 then 2048 else if width = 3 then 526336 else 0

/-- The bytes of a pointer and the offset that it leads to. The three low bits of its first byte are
the highest of its number, unless there are four more bytes, which have room for all of it. -/
inductive PointsTo : List UInt8 → Nat → Prop
  | short {width high low : Nat} (hw : 1 ≤ width ∧ width ≤ 3) (hh : high < 8)
      (hl : low < twoTo (8 * width)) :
      PointsTo (UInt8.ofNat (32 + ((width - 1) * 8 + high)) :: bigEndianBytes width low)
        (high * twoTo (8 * width) + low + pointerBase width)
  | full {high low : Nat} (hh : high < 8) (hl : low < twoTo 32) :
      PointsTo (UInt8.ofNat (32 + (24 + high)) :: bigEndianBytes 4 low) low

/-- The header of a pointer. -/
theorem header_pointer {low : Nat} (h : HasBytes data pos (UInt8.ofNat (32 + low) :: bs))
    (hlow : low < 32) : header data pos = .ok ⟨1, low, pos + 1⟩ := by
  have hcontrol : (UInt8.ofNat (32 + low)).toNat = 32 + low := by
    rw [UInt8.toNat_ofNat']
    omega
  have hhigh : (32 + low) / 32 = 1 := by omega
  have hrest : (32 + low) % 32 = low := by omega
  rw [header, h.byteAt, hcontrol]
  show (if (32 + low) / 32 = 1 then _ else _) = _
  rw [if_pos hhigh, hrest]

/-- **The bytes of a pointer are read back.** -/
theorem PointsTo.header {target : Nat} (h : PointsTo bs target) (hb : HasBytes data pos bs) :
    ∃ hd, header data pos = .ok hd ∧ hd.number = 1 ∧
      pointerTarget data hd = (target, pos + bs.length) := by
  cases h with
  | @short width high low hw hh hl =>
      have hwidth : ((width - 1) * 8 + high) / 8 % 4 + 1 = width := by omega
      have hbits : ((width - 1) * 8 + high) % 8 = high := by omega
      refine ⟨_, header_pointer hb (by omega), rfl, ?_⟩
      have hread := hb.tail.bigEndian high
      rw [Nat.mod_eq_of_lt hl] at hread
      simp only [pointerTarget, hwidth, hbits, if_neg (show ¬ width = 4 by omega), hread,
        List.length_cons, length_bigEndianBytes, pointerBase]
      rw [Nat.add_assoc pos, Nat.add_comm 1]
  | @full high low hh hl =>
      have hwidth : (24 + high) / 8 % 4 + 1 = 4 := by omega
      refine ⟨_, header_pointer hb (by omega), rfl, ?_⟩
      have hread := hb.tail.bigEndian_of_lt hl
      simp only [pointerTarget, hwidth, if_true, hread, List.length_cons, length_bigEndianBytes]
      rfl

/-! ## Values -/

/-- A map with texts as keys. -/
def Value.ofMembers (es : List (String × Value)) : Value :=
  .map (es.map fun e => (.ofText e.1, e.2))

mutual

/-- A value stands at an offset and ends at another one, with room for what it holds. -/
inductive Direct (data : Bytes) : Nat → Nat → Value → Nat → Prop
  | scalar {room pos size : Nat} {s : Scalar} {kind : Kind} {bs : List UInt8}
      (h : Content s kind size bs) (hb : HasBytes data pos (controlBytes kind size ++ bs)) :
      Direct data room pos (.scalar s) (pos + (controlBytes kind size ++ bs).length)
  | array {room pos next : Nat} {vs : List Value} (hsize : vs.length ≤ maxSize)
      (hb : HasBytes data pos (controlBytes .array vs.length))
      (hvs : Row data room (pos + (controlBytes .array vs.length).length) vs next) :
      Direct data (room + 1) pos (.array vs) next
  | map {room pos next : Nat} {es : List (String × Value)} (hsize : es.length ≤ maxSize)
      (hb : HasBytes data pos (controlBytes .map es.length))
      (hes : Pairs data room (pos + (controlBytes .map es.length).length) es next) :
      Direct data (room + 1) pos (.ofMembers es) next

/-- A value, or a pointer to one, stands at an offset. -/
inductive Placed (data : Bytes) : Nat → Nat → Value → Nat → Prop
  | direct {room pos next : Nat} {v : Value} (h : Direct data room pos v next) :
      Placed data room pos v next
  | pointer {room pos target next : Nat} {bs : List UInt8} {v : Value}
      (hp : PointsTo bs target) (hb : HasBytes data pos bs) (h : Direct data room target v next) :
      Placed data (room + 1) pos v (pos + bs.length)

/-- Values stand one after the other. -/
inductive Row (data : Bytes) : Nat → Nat → List Value → Nat → Prop
  | nil {room pos : Nat} : Row data room pos [] pos
  | cons {room pos mid next : Nat} {v : Value} {vs : List Value} (hv : Placed data room pos v mid)
      (hvs : Row data room mid vs next) : Row data room pos (v :: vs) next

/-- Keys and values stand one after the other. -/
inductive Pairs (data : Bytes) : Nat → Nat → List (String × Value) → Nat → Prop
  | nil {room pos : Nat} : Pairs data room pos [] pos
  | cons {room pos mid mid' next : Nat} {k : String} {v : Value} {es : List (String × Value)}
      (hk : Placed data room pos (.ofText k) mid) (hv : Placed data room mid v mid')
      (hes : Pairs data room mid' es next) : Pairs data room pos ((k, v) :: es) next

end

/-! ## Written values -/

/-- A value with maps that have texts as keys, in which all sizes can be expressed and every number
fits, and which needs no more than some room. -/
inductive Writable : Nat → Value → Prop
  | scalar {room size : Nat} {s : Scalar} {kind : Kind} {bs : List UInt8}
      (h : Content s kind size bs) (hs : s.encode = controlBytes kind size ++ bs) :
      Writable room (.scalar s)
  | array {room : Nat} {vs : List Value} (hsize : vs.length ≤ maxSize)
      (hvs : ∀ v ∈ vs, Writable room v) : Writable (room + 1) (.array vs)
  | map {room : Nat} {es : List (String × Value)} (hsize : es.length ≤ maxSize)
      (hkeys : ∀ e ∈ es, TextFits e.1) (hes : ∀ e ∈ es, Writable room e.2) :
      Writable (room + 1) (.ofMembers es)

theorem writable_ofText {room : Nat} {t : String} (h : TextFits t) : Writable room (.ofText t) :=
  .scalar (.text h) rfl

section Written

variable {room : Nat} (hplaced : ∀ {v : Value} {pos : Nat}, Writable room v →
  HasBytes data pos v.encode → Placed data room pos v (pos + v.encode.length))
include hplaced

theorem row_encodeAll {vs : List Value} (hvs : ∀ v ∈ vs, Writable room v) {pos : Nat}
    (h : HasBytes data pos (encodeAll vs)) :
    Row data room pos vs (pos + (encodeAll vs).length) := by
  induction vs generalizing pos with
  | nil => exact .nil
  | cons v vs ih =>
      rw [encodeAll] at h ⊢
      rw [List.length_append, ← Nat.add_assoc]
      exact .cons (hplaced (hvs v List.mem_cons_self) h.left)
        (ih (fun w hw => hvs w (List.mem_cons_of_mem v hw)) h.right)

theorem pairs_encodeEntries {es : List (String × Value)} (hkeys : ∀ e ∈ es, TextFits e.1)
    (hes : ∀ e ∈ es, Writable room e.2) {pos : Nat}
    (h : HasBytes data pos (encodeEntries (es.map fun e => (.ofText e.1, e.2)))) :
    Pairs data room pos es
      (pos + (encodeEntries (es.map fun e => (.ofText e.1, e.2))).length) := by
  induction es generalizing pos with
  | nil => exact .nil
  | cons e es ih =>
      rw [List.map_cons, encodeEntries, List.append_assoc] at h ⊢
      rw [List.length_append, List.length_append, ← Nat.add_assoc, ← Nat.add_assoc]
      exact .cons (hplaced (writable_ofText (hkeys e List.mem_cons_self)) h.left)
        (hplaced (hes e List.mem_cons_self) h.right.left)
        (ih (fun f hf => hkeys f (List.mem_cons_of_mem e hf))
          (fun f hf => hes f (List.mem_cons_of_mem e hf)) h.right.right)

end Written

/-- What is written stands there itself, not as a pointer. -/
theorem direct_encode {room pos : Nat} {v : Value} (hv : Writable room v)
    (h : HasBytes data pos v.encode) : Direct data room pos v (pos + v.encode.length) := by
  induction room generalizing pos v with
  | zero =>
      cases hv with
      | scalar hs hencode =>
          rw [Value.encode, hencode] at h ⊢
          exact .scalar hs h
  | succ room ih =>
      have hplaced : ∀ {v : Value} {pos : Nat}, Writable room v → HasBytes data pos v.encode →
          Placed data room pos v (pos + v.encode.length) := fun hv h => .direct (ih hv h)
      cases hv with
      | scalar hs hencode =>
          rw [Value.encode, hencode] at h ⊢
          exact .scalar hs h
      | array hsize hvs =>
          rw [Value.encode] at h ⊢
          rw [List.length_append, ← Nat.add_assoc]
          exact .array hsize h.left (row_encodeAll hplaced hvs h.right)
      | @map _ es hsize hkeys hes =>
          rw [Value.ofMembers, Value.encode, List.length_map] at h
          have hpairs := pairs_encodeEntries hplaced hkeys hes h.right
          have hlength : (Value.ofMembers es).encode.length = (controlBytes .map es.length).length
              + (encodeEntries (es.map fun e => (.ofText e.1, e.2))).length := by
            rw [Value.ofMembers, Value.encode, List.length_map, List.length_append]
          rw [hlength, ← Nat.add_assoc]
          exact .map hsize h.left hpairs

/-- **What is written is of the grammar.** -/
theorem placed_encode {room pos : Nat} {v : Value} (hv : Writable room v)
    (h : HasBytes data pos v.encode) : Placed data room pos v (pos + v.encode.length) :=
  .direct (direct_encode hv h)

/-! ## Passing over -/

section Pass

variable {room next : Nat} {item : Nat → Except Failure Nat}

theorem Row.passMany (hitem : ∀ {pos v next}, Placed data room pos v next → item pos = .ok next)
    {vs : List Value} (h : Row data room pos vs next) :
    passMany item vs.length pos = .ok next := by
  induction vs generalizing pos with
  | nil =>
      cases h
      rfl
  | cons v vs ih =>
      cases h with
      | cons hv hvs =>
          rw [List.length_cons, passMany_succ, hitem hv]
          exact ih hvs

theorem Pairs.passMany (hitem : ∀ {pos v next}, Placed data room pos v next → item pos = .ok next)
    {es : List (String × Value)} (h : Pairs data room pos es next) :
    passMany (passPair item) es.length pos = .ok next := by
  induction es generalizing pos with
  | nil =>
      cases h
      rfl
  | cons e es ih =>
      cases h with
      | cons hk hv hes =>
          rw [List.length_cons, passMany_succ, passPair, hitem hk]
          show (item _ >>= _) = _
          rw [hitem hv]
          exact ih hes

/-- Passing over a value takes no more levels than the value has room. -/
theorem passOver_of_placed {v : Value} (h : Placed data room pos v next) :
    passOver data (room + 1) pos = .ok next := by
  induction room generalizing pos v next with
  | zero =>
      cases h with
      | direct h =>
          cases h with
          | scalar h hb =>
              rw [h.passOver (h.header hb), List.length_append, Nat.add_assoc]
  | succ room ih =>
      cases h with
      | direct h =>
          cases h with
          | scalar h hb =>
              rw [h.passOver (h.header hb), List.length_append, Nat.add_assoc]
          | array hsize hb hvs =>
              rw [passOver, hb.header (by decide) hsize]
              exact hvs.passMany ih
          | map hsize hb hes =>
              rw [passOver, hb.header (by decide) hsize]
              exact hes.passMany ih
      | pointer hp hb h =>
          obtain ⟨hd, hheader, hnumber, htarget⟩ := hp.header hb
          have hinner := ih (.direct h)
          rw [passOver, hheader]
          simp only [bind, Except.bind, hnumber, Kind.ofNumber?, htarget, hinner]

/-- **A value is passed over up to its end.** -/
theorem pass_of_placed {v : Value} (h : Placed data room pos v next) : pass data pos = .ok next :=
  pass_of_passOver (passOver_of_placed h)

end Pass

end CountryLookup.Database
