import CountryLookup.Text.Digits
import CountryLookup.Text.Utf8

/-!
# Percent-encoding

A token goes into the query of a request. Every byte outside the unreserved characters is
written as `%` and two upper-case hexadecimal digits, so a token cannot end the query, add a
parameter or start a fragment. The decoder beside it is what the receiving side does.

## Main results

* `unreserved_of_mem_encodeBytes` — an encoded text holds only unreserved characters and `%`.
* `decodeBytes_encodeBytes` — decoding gives back the bytes that were encoded.
-/

namespace CountryLookup.Text.Percent

/-- The bytes that stand for themselves: letters, digits and `-`, `_`, `.`, `~`. -/
def unreserved (b : UInt8) : Bool :=
  (48 ≤ b && b ≤ 57) || (65 ≤ b && b ≤ 90) || (97 ≤ b && b ≤ 122)
    || b == 45 || b == 95 || b == 46 || b == 126

/-- An upper-case hexadecimal digit. -/
def hexDigit (n : Nat) : Char :=
  if n < 10 then Char.ofNat (48 + n) else Char.ofNat (55 + n)

/-- One byte of an encoded text. -/
def encodeByte (b : UInt8) : List Char :=
  if unreserved b then [Char.ofNat b.toNat]
  else ['%', hexDigit (b.toNat / 16), hexDigit (b.toNat % 16)]

/-- The encoded form of a byte string. -/
def encodeBytes (bs : List UInt8) : List Char := bs.flatMap encodeByte

/-- The encoded form of the UTF-8 bytes of a text. -/
def encode (s : String) : String := String.ofList (encodeBytes (Utf8.encode s))

/-- Reads an encoded text back: `%` and two digits are the byte they spell, every other
character is the byte of its number. -/
def decodeBytes : List Char → List UInt8
  | '%' :: a :: b :: cs =>
    match digitValue? 16 a, digitValue? 16 b with
    | some x, some y => UInt8.ofNat (x * 16 + y) :: decodeBytes cs
    | _, _ => 37 :: decodeBytes (a :: b :: cs)
  | c :: cs => UInt8.ofNat c.toNat :: decodeBytes cs
  | [] => []

@[simp] theorem encodeBytes_nil : encodeBytes [] = [] := rfl

@[simp] theorem encodeBytes_cons (b : UInt8) (bs : List UInt8) :
    encodeBytes (b :: bs) = encodeByte b ++ encodeBytes bs := rfl

/-! ## What an encoded text holds and means -/

private theorem digitValue?_hexDigit :
    ∀ n : Nat, n < 16 → digitValue? 16 (hexDigit n) = some n := by decide

private theorem unreserved_hexDigit :
    ∀ n : Nat, n < 16 → unreserved (UInt8.ofNat (hexDigit n).toNat) = true := by decide

private theorem toNat_ofNat_byte (b : UInt8) : (Char.ofNat b.toNat).toNat = b.toNat := by
  have hv : b.toNat.isValidChar := .inl (by have := b.toNat_lt; omega)
  rw [Char.ofNat, dif_pos hv]
  rfl

/-- **An encoded text holds only unreserved characters and `%`.** -/
theorem unreserved_of_mem_encodeBytes {bs : List UInt8} {c : Char} (h : c ∈ encodeBytes bs) :
    c = '%' ∨ unreserved (UInt8.ofNat c.toNat) = true := by
  obtain ⟨b, -, hc⟩ := List.mem_flatMap.1 h
  have hb := b.toNat_lt
  unfold encodeByte at hc
  split at hc
  · rename_i hu
    rw [List.mem_singleton.1 hc, toNat_ofNat_byte, UInt8.ofNat_toNat]
    exact .inr hu
  · simp only [List.mem_cons, List.not_mem_nil, or_false] at hc
    rcases hc with rfl | rfl | rfl
    · exact .inl rfl
    · exact .inr (unreserved_hexDigit _ (by omega))
    · exact .inr (unreserved_hexDigit _ (by omega))

theorem decodeBytes_encodeByte_append (b : UInt8) (cs : List Char) :
    decodeBytes (encodeByte b ++ cs) = b :: decodeBytes cs := by
  have hb := b.toNat_lt
  unfold encodeByte
  split
  · rename_i hu
    have hne : Char.ofNat b.toNat ≠ '%' := by
      intro he
      have hp : b.toNat = 37 := by
        rw [← toNat_ofNat_byte b, he]
        rfl
      rw [show b = 37 from UInt8.toNat_inj.1 hp] at hu
      exact absurd hu (by decide)
    simp [decodeBytes, hne, toNat_ofNat_byte]
  · rw [List.cons_append, List.cons_append, List.cons_append, List.nil_append, decodeBytes,
      digitValue?_hexDigit _ (by omega), digitValue?_hexDigit _ (by omega)]
    have : b.toNat / 16 * 16 + b.toNat % 16 = b.toNat := by omega
    simp [this]

/-- **Decoding gives back the bytes that were encoded.** -/
theorem decodeBytes_encodeBytes (bs : List UInt8) : decodeBytes (encodeBytes bs) = bs := by
  induction bs with
  | nil => rfl
  | cons b bs ih => rw [encodeBytes_cons, decodeBytes_encodeByte_append, ih]

end CountryLookup.Text.Percent
