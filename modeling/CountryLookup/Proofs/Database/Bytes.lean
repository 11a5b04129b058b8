import CountryLookup.Database.Encoding

/-!
# Bytes in a file

Whatever is read from a file depends on the bytes from some offset on. `HasBytes` says which bytes
stand there, and splits along concatenation: a reader that takes the bytes of one part finds the
next part where it stops.

Numbers and headers are the parts of which everything else is made. A header is read back from its
control bytes, whichever of the four forms its size takes.

## Main results

* `HasBytes.bigEndian` — the bytes of a number are read back as the number.
* `HasBytes.header` — control bytes are read back as the header.
-/

namespace CountryLookup.Database

/-- From an offset on a file has some bytes. -/
def HasBytes (file : Bytes) (pos : Nat) (bs : List UInt8) : Prop := bs <+: file.toList.drop pos

/-! ## Parts of a file -/

theorem hasBytes_append {file : Bytes} {pos : Nat} {as bs : List UInt8} :
    HasBytes file pos (as ++ bs) ↔ HasBytes file pos as ∧ HasBytes file (pos + as.length) bs := by
  unfold HasBytes
  rw [← List.drop_drop]
  constructor
  · rintro ⟨rest, h⟩
    rw [← h, List.append_assoc]
    refine ⟨List.prefix_append _ _, ?_⟩
    rw [List.drop_left]
    exact List.prefix_append _ _
  · rintro ⟨⟨rest, h⟩, hb⟩
    rw [← h] at hb ⊢
    rw [List.drop_left] at hb
    exact (List.prefix_append_right_inj as).2 hb

theorem HasBytes.left {file : Bytes} {pos : Nat} {as bs : List UInt8}
    (h : HasBytes file pos (as ++ bs)) : HasBytes file pos as := (hasBytes_append.1 h).1

theorem HasBytes.right {file : Bytes} {pos : Nat} {as bs : List UInt8}
    (h : HasBytes file pos (as ++ bs)) : HasBytes file (pos + as.length) bs :=
  (hasBytes_append.1 h).2

/-- The second part, at an offset that is known. -/
theorem HasBytes.next {file : Bytes} {pos : Nat} {as bs : List UInt8}
    (h : HasBytes file pos (as ++ bs)) (pos' : Nat) (hpos : pos + as.length = pos') :
    HasBytes file pos' bs := hpos ▸ h.right

theorem HasBytes.tail {file : Bytes} {pos : Nat} {b : UInt8} {bs : List UInt8}
    (h : HasBytes file pos (b :: bs)) : HasBytes file (pos + 1) bs := by
  have happend : HasBytes file pos ([b] ++ bs) := h
  exact happend.right

/-- A file made of parts has the middle one behind the first one. -/
theorem hasBytes_toArray (before bs after : List UInt8) :
    HasBytes (before ++ bs ++ after).toArray before.length bs := by
  unfold HasBytes
  rw [List.toList_toArray, List.append_assoc, List.drop_left]
  exact List.prefix_append _ _

/-- Bytes stay where they are when others are put behind the file. -/
theorem HasBytes.append {bytes : List UInt8} {pos : Nat} {bs : List UInt8}
    (h : HasBytes bytes.toArray pos bs) (more : List UInt8) :
    HasBytes (bytes ++ more).toArray pos bs := by
  unfold HasBytes at h ⊢
  rw [List.toList_toArray] at h ⊢
  rw [List.drop_append]
  exact h.trans (List.prefix_append _ _)

theorem HasBytes.getElem? {file : Bytes} {pos : Nat} {b : UInt8} {bs : List UInt8}
    (h : HasBytes file pos (b :: bs)) : file[pos]? = some b := by
  obtain ⟨rest, hrest⟩ := h
  have hhead : (file.toList.drop pos)[0]? = some b := by rw [← hrest]; rfl
  rw [List.getElem?_drop, Nat.add_zero] at hhead
  rw [← Array.getElem?_toList]
  exact hhead

theorem HasBytes.le_size {file : Bytes} {pos : Nat} {bs : List UInt8} (h : HasBytes file pos bs)
    (hne : bs ≠ []) : pos + bs.length ≤ file.size := by
  have hlength := List.IsPrefix.length_le h
  have hpos : 0 < bs.length := List.length_pos_iff.2 hne
  simp only [List.length_drop, Array.length_toList] at hlength
  omega

/-- Bytes are cut out of a file that goes on at least as far as they do. -/
theorem HasBytes.slice? {file : Bytes} {pos : Nat} {bs : List UInt8} (h : HasBytes file pos bs)
    (hsize : pos + bs.length ≤ file.size) : slice? file pos bs.length = some bs := by
  have hcut : (file.extract pos (pos + bs.length)).toList = bs := by
    rw [Array.toList_extract, List.extract_eq_take_drop, Nat.add_sub_cancel_left]
    exact (List.prefix_iff_eq_take.1 h).symm
  rw [Database.slice?, if_pos hsize, hcut]

/-! ## Numbers -/

theorem twoTo_eight_succ (width : Nat) : twoTo (8 * (width + 1)) = twoTo (8 * width) * 256 :=
  Nat.pow_add 2 (8 * width) 8

theorem HasBytes.byteAt {file : Bytes} {pos : Nat} {b : UInt8} {bs : List UInt8}
    (h : HasBytes file pos (b :: bs)) : byteAt file pos = .ok b.toNat := by
  rw [Database.byteAt, h.getElem?]

/-- **The bytes of a number are read back**, behind a number that was read before. -/
theorem HasBytes.bigEndian {file : Bytes} {width n pos : Nat}
    (h : HasBytes file pos (bigEndianBytes width n)) (acc : Nat) :
    bigEndian file acc pos width =
      .ok (acc * twoTo (8 * width) + n % twoTo (8 * width), pos + width) := by
  induction width generalizing acc pos with
  | zero =>
      have hone : twoTo (8 * 0) = 1 := rfl
      rw [hone, Nat.mod_one, Nat.mul_one]
      rfl
  | succ width ih =>
      rw [bigEndianBytes] at h
      have hbyte : (UInt8.ofNat (n / twoTo (8 * width) % 256)).toNat =
          n / twoTo (8 * width) % 256 := by
        rw [UInt8.toNat_ofNat']
        omega
      have hvalue : (acc * 256 + n / twoTo (8 * width) % 256) * twoTo (8 * width) +
          n % twoTo (8 * width) =
            acc * (twoTo (8 * width) * 256) + n % (twoTo (8 * width) * 256) := by
        rw [Nat.mod_mul, Nat.add_mul, Nat.mul_assoc acc 256, Nat.mul_comm 256,
          Nat.mul_comm (n / twoTo (8 * width) % 256)]
        omega
      rw [Database.bigEndian, h.byteAt, hbyte]
      show Database.bigEndian file (acc * 256 + n / twoTo (8 * width) % 256) (pos + 1) width = _
      rw [ih h.tail, twoTo_eight_succ, hvalue, Nat.add_assoc, Nat.add_comm 1]

/-- A number that fits its bytes is read back as it is. -/
theorem HasBytes.bigEndian_of_lt {file : Bytes} {width n pos : Nat}
    (h : HasBytes file pos (bigEndianBytes width n)) (hn : n < twoTo (8 * width)) :
    Database.bigEndian file 0 pos width = .ok (n, pos + width) := by
  rw [h.bigEndian, Nat.zero_mul, Nat.zero_add, Nat.mod_eq_of_lt hn]

/-! ## Headers -/

/-- The largest size that a header can express. -/
def maxSize : Nat := 65821 + twoTo 24 - 1

theorem sizeBits_lt (size : Nat) : sizeBits size < 32 := by
  unfold sizeBits
  repeat' split
  all_goals omega

/-- A size that goes on behind its five bits. -/
theorem sizeAfter_eq {file : Bytes} {low pos n next : Nat} (h : 29 ≤ low)
    (hread : bigEndian file 0 pos (low - 28) = .ok (n, next)) :
    sizeAfter file low pos =
      .ok (n + (if low = 29 then 29 else if low = 30 then 285 else 65821), next) := by
  rw [sizeAfter, if_neg (by omega), hread]
  rfl

/-- A size is read back from its five bits and the bytes after them. -/
theorem HasBytes.sizeAfter {file : Bytes} {pos size : Nat} (h : HasBytes file pos (sizeBytes size))
    (hs : size ≤ maxSize) :
    sizeAfter file (sizeBits size) pos = .ok (size, pos + (sizeBytes size).length) := by
  have hmax : maxSize = 65821 + 16777216 - 1 := rfl
  have hone : twoTo (8 * 1) = 256 := rfl
  have htwo : twoTo (8 * 2) = 65536 := rfl
  have hthree : twoTo (8 * 3) = 16777216 := rfl
  rw [length_sizeBytes]
  unfold sizeBytes at h
  unfold sizeBits
  by_cases h29 : size < 29
  · rw [if_pos h29, Database.sizeAfter, if_pos h29]
    congr 2
    omega
  by_cases h285 : size < 285
  · rw [if_neg h29, if_pos h285] at h ⊢
    rw [sizeAfter_eq (by decide) (h.bigEndian_of_lt (by omega)), if_pos rfl,
      Nat.sub_add_cancel (by omega)]
  by_cases hbig : size < 65821
  · rw [if_neg h29, if_neg h285, if_pos hbig] at h ⊢
    rw [sizeAfter_eq (by decide) (h.bigEndian_of_lt (by omega)), if_neg (by decide), if_pos rfl,
      Nat.sub_add_cancel (by omega)]
  · rw [if_neg h29, if_neg h285, if_neg hbig] at h ⊢
    rw [sizeAfter_eq (by decide) (h.bigEndian_of_lt (by omega)), if_neg (by decide),
      if_neg (by decide), Nat.sub_add_cancel (by omega)]

/-- A header with its kind in the first byte. -/
theorem header_eq {file : Bytes} {pos control size next : Nat}
    (hcontrol : byteAt file pos = .ok control) (hkind : 2 ≤ control / 32)
    (hsize : sizeAfter file (control % 32) (pos + 1) = .ok (size, next)) :
    header file pos = .ok ⟨control / 32, size, next⟩ := by
  rw [header, hcontrol]
  show (if control / 32 = 1 then _ else _) = _
  rw [if_neg (by omega), if_neg (by omega), hsize]
  rfl

/-- A header with its kind in the second byte. -/
theorem header_eq_extended {file : Bytes} {pos control extended size next : Nat}
    (hcontrol : byteAt file pos = .ok control) (hzero : control / 32 = 0)
    (hextended : byteAt file (pos + 1) = .ok extended) (hkind : (extended + 7) % 256 ≠ 1)
    (hsize : sizeAfter file (control % 32) (pos + 2) = .ok (size, next)) :
    header file pos = .ok ⟨(extended + 7) % 256, size, next⟩ := by
  rw [header, hcontrol]
  show (if control / 32 = 1 then _ else _) = _
  rw [if_neg (by omega), if_pos hzero, hextended]
  show (if (extended + 7) % 256 = 1 then _ else _) = _
  rw [if_neg hkind, hsize]
  rfl

/-- **Control bytes are read back.** -/
theorem HasBytes.header {file : Bytes} {pos size : Nat} {kind : Kind}
    (h : HasBytes file pos (controlBytes kind size)) (hk : kind ≠ .pointer)
    (hs : size ≤ maxSize) :
    header file pos = .ok ⟨kind.number, size, pos + (controlBytes kind size).length⟩ := by
  have hbits := sizeBits_lt size
  unfold controlBytes at h ⊢
  by_cases hplain : kind.number < 8
  · rw [if_pos hplain] at h ⊢
    have hnumber : 2 ≤ kind.number := by
      cases kind <;> simp_all [Kind.number]
    have hcontrol : (UInt8.ofNat (kind.number * 32 + sizeBits size)).toNat =
        kind.number * 32 + sizeBits size := by
      rw [UInt8.toNat_ofNat']
      omega
    have hhigh : (kind.number * 32 + sizeBits size) / 32 = kind.number := by omega
    have hlow : (kind.number * 32 + sizeBits size) % 32 = sizeBits size := by omega
    have hbyte := h.byteAt
    have hsize := h.tail.sizeAfter hs
    rw [hcontrol] at hbyte
    rw [← hlow] at hsize
    rw [header_eq hbyte (by omega) hsize, hhigh, List.length_cons, Nat.add_assoc, Nat.add_comm 1]
  · rw [if_neg hplain] at h ⊢
    have hnumber : 8 ≤ kind.number ∧ kind.number ≤ 15 := by
      refine ⟨by omega, ?_⟩
      cases kind <;> decide
    have hcontrol : (UInt8.ofNat (sizeBits size)).toNat = sizeBits size := by
      rw [UInt8.toNat_ofNat']
      omega
    have hextended : (UInt8.ofNat (kind.number - 7)).toNat = kind.number - 7 := by
      rw [UInt8.toNat_ofNat']
      omega
    have hwrap : (kind.number - 7 + 7) % 256 = kind.number := by omega
    have hfirst := h.byteAt
    have hsecond := h.tail.byteAt
    have hsize := h.tail.tail.sizeAfter hs
    rw [hcontrol] at hfirst
    rw [hextended] at hsecond
    rw [← Nat.mod_eq_of_lt hbits] at hsize
    rw [header_eq_extended hfirst (by omega) hsecond (by omega) hsize, hwrap, List.length_cons,
      List.length_cons]
    congr 2
    omega

end CountryLookup.Database
