import CountryLookup.Proofs.Database.Bytes
import CountryLookup.Proofs.Text.Utf8

/-!
# Reading written values back

A value is read in two steps, the head and what it heads. `HeadAt` joins the header and the head,
so that whoever reads a value sees neither control bytes nor sizes. Numbers and texts are heads and
nothing else; of an array or a map the head is the number of entries, which start right behind it.

## Main results

* `headAt_ofNat`, `headAt_ofText` — a written number, a written text.
* `headAt_map`, `headAt_array` — the control bytes of a container.
* `readKey_ofText` — a written key.
* `readEntries_written` — the entries of a written structure are read back.
-/

namespace CountryLookup.Database

open Text

/-- A value, which is no pointer, starts at an offset with a head; `next` is the offset after it. -/
def HeadAt (file : Bytes) (pos : Nat) (head : Head) (next : Nat) : Prop :=
  ∃ h, header file pos = .ok h ∧ h.number ≠ 1 ∧ readHead file h = .ok (head, next)

/-! ## Reaching a value -/

/-- What reaching a head comes to: a container takes a unit of room. -/
def entered (head : Head) (next room : Nat) (resume : Option Nat) : Except Failure Reached :=
  match head, room with
  | .scalar s, room => .ok ⟨.scalar s, next, room, resume⟩
  | _, 0 => .error (.at .tooDeep next)
  | head, room + 1 => .ok ⟨head, next, room, resume⟩

/-- A value that is no pointer is reached where it stands. -/
theorem HeadAt.reach_eq {file : Bytes} {pos next : Nat} {head : Head}
    (h : HeadAt file pos head next) (room : Nat) (resume : Option Nat) :
    reach file room resume pos = entered head next room resume := by
  obtain ⟨hd, hheader, hnumber, hhead⟩ := h
  rw [reach, hheader]
  show (if hd.number = 1 then _ else _) = _
  rw [if_neg hnumber, hhead]
  rfl

theorem HeadAt.reach_scalar {file : Bytes} {pos next : Nat} {s : Scalar}
    (h : HeadAt file pos (.scalar s) next) (room : Nat) (resume : Option Nat) :
    reach file room resume pos = .ok ⟨.scalar s, next, room, resume⟩ := h.reach_eq room resume

theorem HeadAt.reach_map {file : Bytes} {pos next n : Nat} (h : HeadAt file pos (.map n) next)
    (room : Nat) (resume : Option Nat) :
    reach file (room + 1) resume pos = .ok ⟨.map n, next, room, resume⟩ :=
  h.reach_eq (room + 1) resume

theorem HeadAt.reach_array {file : Bytes} {pos next n : Nat} (h : HeadAt file pos (.array n) next)
    (room : Nat) (resume : Option Nat) :
    reach file (room + 1) resume pos = .ok ⟨.array n, next, room, resume⟩ :=
  h.reach_eq (room + 1) resume

/-! ## Numbers -/

theorem bytesFor_le (width n : Nat) : bytesFor width n ≤ width := by
  induction width with
  | zero => exact Nat.le_refl 0
  | succ width ih =>
      rw [bytesFor]
      split <;> omega

/-- The bytes that are written hold the number. -/
theorem lt_of_bytesFor {width n : Nat} (h : n < twoTo (8 * width)) :
    n < twoTo (8 * bytesFor width n) := by
  induction width with
  | zero => exact h
  | succ width ih =>
      rw [bytesFor]
      split
      · exact h
      · exact ih (by omega)

/-- The kinds that numbers are written in, with their widths. -/
def IsWord (kind : Kind) (width : Nat) : Prop :=
  (kind = .uint32 ∧ width = 4) ∨ (kind = .uint64 ∧ width = 8)

theorem headAt_word {file : Bytes} {pos width n : Nat} {kind : Kind} (hk : IsWord kind width)
    (h : HasBytes file pos (encodeWord kind width n)) (hn : n < twoTo (8 * width)) :
    HeadAt file pos (.scalar (.unsigned n)) (pos + (encodeWord kind width n).length) := by
  have hsize := bytesFor_le width n
  have hnumber : kind ≠ .pointer ∧ width ≤ 8 := by
    obtain ⟨rfl, rfl⟩ | ⟨rfl, rfl⟩ := hk <;> exact ⟨by decide, by decide⟩
  have hmax : bytesFor width n ≤ maxSize := by
    have hroom : 8 ≤ maxSize := by decide
    omega
  unfold encodeWord at h ⊢
  refine ⟨_, h.left.header hnumber.1 hmax, ?_, ?_⟩
  · cases kind <;> simp_all [Kind.number]
  have hread := h.right.bigEndian_of_lt (lt_of_bytesFor hn)
  have hword : ∀ name, readWord file name width
      ⟨kind.number, bytesFor width n, pos + (controlBytes kind (bytesFor width n)).length⟩ =
        .ok (n, pos + (controlBytes kind (bytesFor width n)).length + bytesFor width n) := by
    intro name
    rw [readWord, if_neg (Nat.not_lt.2 hsize)]
    exact hread
  rw [List.length_append, length_bigEndianBytes, ← Nat.add_assoc]
  obtain ⟨rfl, rfl⟩ | ⟨rfl, rfl⟩ := hk
  · simp only [readHead, Kind.ofNumber?_number, hword]
    rfl
  · simp only [readHead, Kind.ofNumber?_number, hword]
    rfl

/-- **A written number is read back**, if it has at most 64 bits. -/
theorem headAt_ofNat {file : Bytes} {pos n : Nat} (h : HasBytes file pos (Value.ofNat n).encode)
    (hn : n < twoTo 64) :
    HeadAt file pos (.scalar (.unsigned n)) (pos + (Value.ofNat n).encode.length) := by
  rw [Value.ofNat, Value.encode, Scalar.encode] at h ⊢
  by_cases hsmall : n < twoTo 32
  · rw [if_pos hsmall] at h ⊢
    exact headAt_word (.inl ⟨rfl, rfl⟩) h hsmall
  · rw [if_neg hsmall] at h ⊢
    exact headAt_word (.inr ⟨rfl, rfl⟩) h hn

/-! ## Texts -/

/-- Whether a header can express the length of a text. -/
def TextFits (s : String) : Prop := (Utf8.encode s).length ≤ maxSize

instance (s : String) : Decidable (TextFits s) :=
  inferInstanceAs (Decidable ((Utf8.encode s).length ≤ maxSize))

theorem controlBytes_ne_nil (kind : Kind) (size : Nat) : controlBytes kind size ≠ [] := by
  unfold controlBytes
  split <;> exact List.cons_ne_nil _ _

/-- The header of a written text, and its bytes behind it. -/
theorem header_ofText {file : Bytes} {pos : Nat} {s : String}
    (h : HasBytes file pos (Value.ofText s).encode) (hs : TextFits s) :
    ∃ start, header file pos = .ok ⟨2, (Utf8.encode s).length, start⟩ ∧
      slice? file start (Utf8.encode s).length = some (Utf8.encode s) ∧
      start + (Utf8.encode s).length = pos + (Value.ofText s).encode.length := by
  rw [Value.ofText, Value.encode, Scalar.encode] at h ⊢
  have hend := h.le_size (by simp [controlBytes_ne_nil])
  rw [List.length_append] at hend ⊢
  exact ⟨_, h.left.header (by decide) hs, h.right.slice? (by omega), by omega⟩

/-- **A written text is read back.** -/
theorem headAt_ofText {file : Bytes} {pos : Nat} {s : String}
    (h : HasBytes file pos (Value.ofText s).encode) (hs : TextFits s) :
    HeadAt file pos (.scalar (.text s)) (pos + (Value.ofText s).encode.length) := by
  obtain ⟨start, hheader, hslice, hend⟩ := header_ofText h hs
  refine ⟨_, hheader, (by decide : (2 : Nat) ≠ 1), ?_⟩
  have hbytes : readBytes file "string" ⟨2, (Utf8.encode s).length, start⟩ =
      .ok (Utf8.encode s, pos + (Value.ofText s).encode.length) := by
    rw [readBytes, hslice, hend]
  simp only [readHead, Kind.ofNumber?, hbytes, bind, Except.bind, Utf8.decode?_encode]

/-- **A written key is read back** as its bytes. -/
theorem readKey_ofText {file : Bytes} {pos : Nat} {s : String}
    (h : HasBytes file pos (Value.ofText s).encode) (hs : TextFits s) :
    readKey file pos = .ok (.name (Utf8.encode s), pos + (Value.ofText s).encode.length) := by
  obtain ⟨start, hheader, hslice, hend⟩ := header_ofText h hs
  rw [readKey, hheader]
  show readKeyAt file ⟨2, (Utf8.encode s).length, start⟩ = _
  simp only [readKeyAt, Kind.ofNumber?, hslice, hend]

/-! ## Containers -/

/-- **The control bytes of a container are read back** as its head. -/
theorem headAt_map {file : Bytes} {pos n : Nat} (h : HasBytes file pos (controlBytes .map n))
    (hn : n ≤ maxSize) : HeadAt file pos (.map n) (pos + (controlBytes .map n).length) :=
  ⟨_, h.header (by decide) hn, (by decide : Kind.map.number ≠ 1), rfl⟩

theorem headAt_array {file : Bytes} {pos n : Nat} (h : HasBytes file pos (controlBytes .array n))
    (hn : n ≤ maxSize) : HeadAt file pos (.array n) (pos + (controlBytes .array n).length) :=
  ⟨_, h.header (by decide) hn, (by decide : Kind.array.number ≠ 1), rfl⟩

/-! ## Structures -/

/-- **The entries of a written structure are read back**, behind entries that were seen before. -/
theorem readEntries_written {φ α : Type} [DecidableEq φ] {file : Bytes} (shape : Shape φ α)
    (entry : φ × α → Value) {es : List (φ × α)} (hkey : ∀ p ∈ es, TextFits (shape.key p.1))
    (hfield : ∀ p ∈ es, shape.field? (.name (Utf8.encode (shape.key p.1))) = some p.1)
    (hread : ∀ p ∈ es, ∀ pos, HasBytes file pos (entry p).encode →
      shape.read p.1 pos = .ok (p.2, pos + (entry p).encode.length))
    (hnodup : (es.map (·.1)).Nodup) {pos : Nat}
    (h : HasBytes file pos (encodeEntries (es.map fun p => (.ofText (shape.key p.1), entry p))))
    (seen : List (φ × α)) (hseen : ∀ p ∈ seen, p.1 ∉ es.map (·.1)) :
    readEntries file shape es.length pos seen = .ok (seen.reverse ++ es) := by
  induction es generalizing pos seen with
  | nil => simp [readEntries]
  | cons e es ih =>
      obtain ⟨hnew, hnodup⟩ := List.nodup_cons.1 hnodup
      rw [List.map_cons, encodeEntries, List.append_assoc] at h
      have hfresh : seen.any (fun p => p.1 = e.1) = false := by
        apply List.any_eq_false.2
        intro p hp
        have hne : p.1 ≠ e.1 := by
          intro heq
          exact hseen p hp (heq ▸ List.mem_cons_self)
        simpa using hne
      have hrest := ih (fun p hp => hkey p (List.mem_cons_of_mem e hp))
        (fun p hp => hfield p (List.mem_cons_of_mem e hp))
        (fun p hp => hread p (List.mem_cons_of_mem e hp)) hnodup h.right.right (e :: seen) (by
          intro p hp
          rcases List.mem_cons.1 hp with rfl | hp
          · exact hnew
          · exact fun hmem => hseen p hp (List.mem_cons_of_mem e.1 hmem))
      rw [List.length_cons, readEntries, readKey_ofText h.left (hkey e List.mem_cons_self)]
      simp only [bind, Except.bind, hfield e List.mem_cons_self, hfresh, Bool.false_eq_true,
        if_false, hread e List.mem_cons_self _ h.right.left]
      rw [hrest, List.reverse_cons, List.append_assoc, List.singleton_append]

end CountryLookup.Database
