import CountryLookup.Database.Layout
import CountryLookup.Proofs.Database.Items
import CountryLookup.Proofs.Database.Values

/-!
# Records in the data

An item of the data is decoded as a record. What a lookup reports of a failure is its kind alone,
so `decode` forgets the rest. A record that is written with its field names is decoded wherever it
stands, and every item that is whole is decoded alike with other bytes behind the data.

## Main results

* `decode_append` — a whole item reads the same with bytes behind the data.
* `decode_recordValue` — a written record is decoded.
-/

namespace CountryLookup.Database

/-! ## Whole items -/

/-- The record at an offset of the data, or the kind of error that a lookup reports. -/
def decode (data : Bytes) (offset : Nat) : Except ErrorKind IpRecord :=
  (readRecord data offset).mapError fun _ => .codeNotFound

/-- The data hold all of the item at an offset. -/
def IsWhole (data : Bytes) (offset : Nat) : Prop :=
  ∀ e, readRecord data offset = .error e → e.isUnfinished = false

theorem isWhole_of_decode {data : Bytes} {offset : Nat} {r : IpRecord}
    (h : decode data offset = .ok r) : IsWhole data offset := by
  intro e he
  rw [decode, he] at h
  cases h

/-- **A whole item reads the same with bytes behind the data.** -/
theorem decode_append {data : Bytes} {offset : Nat} (h : IsWhole data offset) (more : Bytes) :
    decode (data ++ more) offset = decode data offset := by
  unfold decode
  cases agrees_readRecord data more offset with
  | unfinished he hun =>
      rw [h _ he] at hun
      cases hun
  | same hsame =>
      cases hd : readRecord data offset <;> cases hm : readRecord (data ++ more) offset <;>
        rw [hd, hm] at hsame <;> cases hsame <;> rfl

/-! ## Written records -/

/-- A written text is read in full. -/
theorem readValue_ofText {file : Bytes} {pos : Nat} {s : String}
    (h : HasBytes file pos (Value.ofText s).encode) (hs : TextFits s) (room : Nat) :
    readValue file room pos = .ok (.ofText s, pos + (Value.ofText s).encode.length) := by
  obtain ⟨hd, hheader, hnumber, hhead⟩ := headAt_ofText h hs
  have hstep : ∀ inner, readStep file inner pos =
      .ok (.ofText s, pos + (Value.ofText s).encode.length) := by
    intro inner
    rw [readStep, hheader]
    show (if hd.number = 1 then _ else _) = _
    rw [if_neg hnumber, hhead]
    rfl
  cases room <;> exact hstep _

theorem textFits_recordKey (f : RecordField) : TextFits f.key := by
  cases f <;> decide +kernel

theorem find?_recordKey (f : RecordField) :
    RecordField.all.find? (fun g => Text.Utf8.encode g.key == Text.Utf8.encode f.key) = some f := by
  cases f <;> decide +kernel

/-- **A written record is decoded**, wherever it stands in the data. -/
theorem decode_recordValue {data : Bytes} {offset : Nat} {fields : List (RecordField × String)}
    (h : HasBytes data offset (recordValue fields).encode) (hlength : fields.length ≤ maxSize)
    (hnodup : (fields.map (·.1)).Nodup) (hfits : ∀ p ∈ fields, TextFits p.2) :
    decode data offset = .ok (IpRecord.ofFields fields) := by
  rw [recordValue, Value.encode, List.length_map] at h
  have hreach := (headAt_map h.left hlength).reach_map 511 none
  have hentries := readEntries_written (recordShape data 511) (fun p => .ofText p.2)
    (fun p _ => textFits_recordKey p.1) (fun p _ => find?_recordKey p.1)
    (by
      intro p hp pos hpos
      show (readValue data 511 pos >>= _) = _
      rw [readValue_ofText hpos (hfits p hp)]
      rfl)
    hnodup h.right [] (by simp)
  have hroom : maxDepth = 511 + 1 := rfl
  rw [decode, readRecord, hroom, hreach]
  show Except.mapError _ (readEntries data (recordShape data 511) fields.length _ [] >>= _) = _
  rw [hentries]
  rfl

theorem decode_ne_notFound (data : Bytes) (offset : Nat) :
    decode data offset ≠ .error .recordNotFound := by
  unfold decode
  cases readRecord data offset <;> intro h <;> cases h

end CountryLookup.Database
