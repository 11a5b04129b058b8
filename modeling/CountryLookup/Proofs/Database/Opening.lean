import CountryLookup.Database.Layout
import CountryLookup.Bundled
import CountryLookup.Proofs.Database.Values

/-!
# Opening a written database

A database opens if its metadata is found and read. The metadata stands behind the last marker of
the file, so the marker must not occur in the metadata itself; the bytes before it may hold
anything, another marker included. Each entry of the metadata is read back if it is in the range
of its entry and every text and list has a size that a header can express.

## Main results

* `Metadata.read_value` — written metadata is read back.
* `afterLastMarker_append` — the metadata is found.
* `LocalDatabase.ofBytes_image` — a written database opens.
-/

namespace CountryLookup.Database

open Text

/-! ## Typed values -/

theorem readUnsigned_ofNat {file : Bytes} {pos n bits : Nat}
    (h : HasBytes file pos (Value.ofNat n).encode) (hn : n < twoTo bits) (h64 : n < twoTo 64)
    (room : Nat) :
    readUnsigned file room bits pos = .ok (n, pos + (Value.ofNat n).encode.length) := by
  rw [readUnsigned, (headAt_ofNat h h64).reach_scalar]
  show (if n < twoTo bits then _ else _) = _
  rw [if_pos hn]
  rfl

theorem readText_ofText {file : Bytes} {pos : Nat} {s : String}
    (h : HasBytes file pos (Value.ofText s).encode) (hs : TextFits s) (room : Nat) :
    readText file room pos = .ok (s, pos + (Value.ofText s).encode.length) := by
  rw [readText, (headAt_ofText h hs).reach_scalar]
  rfl

/-- Items are read back one after the other if each is read back where it stands. -/
theorem readMany_written {α : Type} {file : Bytes} {item : Nat → Except Failure (α × Nat)}
    {encode : α → List UInt8} {xs : List α} {pos : Nat} (h : HasBytes file pos (xs.flatMap encode))
    (hitem : ∀ x ∈ xs, ∀ pos, HasBytes file pos (encode x) →
      item pos = .ok (x, pos + (encode x).length)) :
    readMany item xs.length pos = .ok (xs, pos + (xs.flatMap encode).length) := by
  induction xs generalizing pos with
  | nil => rfl
  | cons x xs ih =>
      rw [List.flatMap_cons] at h ⊢
      have hrest := ih h.right fun y hy => hitem y (List.mem_cons_of_mem x hy)
      rw [List.length_cons, readMany, hitem x List.mem_cons_self pos h.left]
      show (readMany item xs.length (pos + (encode x).length) >>= _) = _
      rw [hrest, List.length_append, ← Nat.add_assoc]
      rfl

theorem encodeAll_map {α : Type} (f : α → Value) (xs : List α) :
    encodeAll (xs.map f) = xs.flatMap fun x => (f x).encode := by
  induction xs with
  | nil => rfl
  | cons x xs ih => rw [List.map_cons, encodeAll, List.flatMap_cons, ih]

theorem encodeEntries_map {α : Type} (f : α → Value × Value) (xs : List α) :
    encodeEntries (xs.map f) = xs.flatMap fun x => (f x).1.encode ++ (f x).2.encode := by
  induction xs with
  | nil => rfl
  | cons x xs ih => rw [List.map_cons, encodeEntries, List.flatMap_cons, ih]

/-- Lists of texts, which take a unit of room. -/
theorem readTexts_written {file : Bytes} {pos : Nat} {ts : List String}
    (h : HasBytes file pos (Value.array (ts.map .ofText)).encode) (hlength : ts.length ≤ maxSize)
    (hts : ∀ t ∈ ts, TextFits t) (room : Nat) :
    readTexts file (room + 1) pos =
      .ok (ts, pos + (Value.array (ts.map .ofText)).encode.length) := by
  rw [Value.encode, List.length_map, encodeAll_map] at h ⊢
  have hmany := readMany_written h.right fun t ht pos ht' => readText_ofText ht' (hts t ht) room
  rw [readTexts, (headAt_array h.left hlength).reach_array]
  show (readMany (readText file room) ts.length _ >>= _) = _
  rw [hmany, List.length_append, ← Nat.add_assoc]
  rfl

/-- Maps of texts, which take a unit of room. -/
theorem readTextMap_written {file : Bytes} {pos : Nat} {ps : List (String × String)}
    (h : HasBytes file pos (Value.map (ps.map fun p => (.ofText p.1, .ofText p.2))).encode)
    (hlength : ps.length ≤ maxSize) (hps : ∀ p ∈ ps, TextFits p.1 ∧ TextFits p.2) (room : Nat) :
    readTextMap file (room + 1) pos =
      .ok (ps, pos + (Value.map (ps.map fun p => (.ofText p.1, .ofText p.2))).encode.length) := by
  rw [Value.encode, List.length_map, encodeEntries_map] at h ⊢
  rw [readTextMap, (headAt_map h.left hlength).reach_map]
  show (readMany _ ps.length _ >>= _) = _
  rw [readMany_written h.right, List.length_append, ← Nat.add_assoc]
  · rfl
  · intro p hp pos hpos
    obtain ⟨hk, hv⟩ := hps p hp
    rw [readText_ofText hpos.left hk]
    show (readText file room _ >>= _) = _
    rw [readText_ofText hpos.right hv, List.length_append, ← Nat.add_assoc]
    rfl

/-! ## Metadata -/

/-- Metadata whose entries are in their ranges, with sizes that headers can express. -/
structure Metadata.Fits (m : Metadata) : Prop where
  majorVersion : m.majorVersion < twoTo 16
  minorVersion : m.minorVersion < twoTo 16
  buildEpoch : m.buildEpoch < twoTo 64
  databaseType : TextFits m.databaseType
  description : m.description.length ≤ maxSize
  describes : ∀ p ∈ m.description, TextFits p.1 ∧ TextFits p.2
  ipVersion : m.ipVersion < twoTo 16
  languages : m.languages.length ≤ maxSize
  language : ∀ l ∈ m.languages, TextFits l
  nodeCount : m.nodeCount < twoTo 32
  recordSize : m.recordSize < twoTo 16

/-- The value of a metadata entry as it is read. -/
def Metadata.get (m : Metadata) : MetadataField → MetadataValue
  | .majorVersion => .number m.majorVersion
  | .minorVersion => .number m.minorVersion
  | .buildEpoch => .number m.buildEpoch
  | .databaseType => .text m.databaseType
  | .description => .pairs m.description
  | .ipVersion => .number m.ipVersion
  | .languages => .texts m.languages
  | .nodeCount => .number m.nodeCount
  | .recordSize => .number m.recordSize

/-- The entries of metadata as they are read. -/
def Metadata.entries (m : Metadata) : List (MetadataField × MetadataValue) :=
  MetadataField.all.map fun f => (f, m.get f)

theorem Metadata.ofFields_entries (m : Metadata) : Metadata.ofFields m.entries = .ok m := rfl

theorem Metadata.length_entries (m : Metadata) : m.entries.length = 9 := rfl

theorem Metadata.fields_entries (m : Metadata) : m.entries.map (·.1) = MetadataField.all := rfl

/-- Every entry is read back where it stands. -/
theorem Metadata.Fits.read_entry {m : Metadata} (hm : m.Fits) {file : Bytes} {pos : Nat}
    (f : MetadataField) (h : HasBytes file pos (m.entry f).encode) (room : Nat) :
    (metadataShape file (room + 1)).read f pos =
      .ok (m.get f, pos + (m.entry f).encode.length) := by
  have hnumber : ∀ {n bits : Nat}, n < twoTo bits → bits ≤ 64 →
      HasBytes file pos (Value.ofNat n).encode →
      readUnsigned file (room + 1) bits pos = .ok (n, pos + (Value.ofNat n).encode.length) := by
    intro n bits hn hbits hpos
    have h64 : twoTo bits ≤ twoTo 64 := Nat.pow_le_pow_right (by decide) hbits
    exact readUnsigned_ofNat hpos hn (by omega) (room + 1)
  cases f with
  | majorVersion => simp only [metadataShape, hnumber hm.majorVersion (by decide) h]; rfl
  | minorVersion => simp only [metadataShape, hnumber hm.minorVersion (by decide) h]; rfl
  | buildEpoch => simp only [metadataShape, hnumber hm.buildEpoch (by decide) h]; rfl
  | databaseType => simp only [metadataShape, readText_ofText h hm.databaseType]; rfl
  | description => simp only [metadataShape, readTextMap_written h hm.description hm.describes]; rfl
  | ipVersion => simp only [metadataShape, hnumber hm.ipVersion (by decide) h]; rfl
  | languages => simp only [metadataShape, readTexts_written h hm.languages hm.language]; rfl
  | nodeCount => simp only [metadataShape, hnumber hm.nodeCount (by decide) h]; rfl
  | recordSize => simp only [metadataShape, hnumber hm.recordSize (by decide) h]; rfl

theorem textFits_key (f : MetadataField) : TextFits f.key := by
  cases f <;> decide +kernel

theorem find?_key (f : MetadataField) :
    MetadataField.all.find? (fun g => Utf8.encode g.key == Utf8.encode f.key) = some f := by
  cases f <;> decide +kernel

/-- **Written metadata is read back.** -/
theorem Metadata.read_value {m : Metadata} (hm : m.Fits) :
    Metadata.read m.value.encode.toArray = .ok m := by
  have h : HasBytes m.value.encode.toArray 0 m.value.encode := by
    have hwhole := hasBytes_toArray [] m.value.encode []
    rw [List.nil_append, List.append_nil] at hwhole
    exact hwhole
  generalize m.value.encode.toArray = file at h
  have hvalue : m.value =
      .map (m.entries.map fun p => (.ofText p.1.key, m.entry p.1)) := rfl
  rw [hvalue, Value.encode, List.length_map, m.length_entries] at h
  have hreach := (headAt_map h.left (by decide)).reach_map 511 none
  have hentries := readEntries_written (metadataShape file 511) (fun p => m.entry p.1)
    (fun p _ => textFits_key p.1) (fun p _ => find?_key p.1)
    (by
      intro p hp pos hpos
      obtain ⟨f, -, rfl⟩ := List.mem_map.1 hp
      exact hm.read_entry f hpos 510)
    (by rw [m.fields_entries]; decide) h.right [] (by simp)
  rw [m.length_entries] at hentries
  have hroom : maxDepth = 511 + 1 := rfl
  rw [Metadata.read, hroom, hreach]
  show (readEntries file (metadataShape file 511) 9 _ [] >>= _) = _
  rw [hentries]
  exact m.ofFields_entries

/-! ## The marker -/

/-- A list in which the marker stands nowhere. -/
def NoMarker (bs : List UInt8) : Prop := ¬ marker <:+: bs

theorem NoMarker.tail {b : UInt8} {bs : List UInt8} (h : NoMarker (b :: bs)) : NoMarker bs :=
  fun hin => h (hin.trans (List.suffix_cons b bs).isInfix)

/-- A marker starts with a byte that does not occur in it again, so it cannot start before the
last of the bytes put in front. -/
theorem noMarker_append {before bs : List UInt8} (h : 0xAB ∉ before) (hbs : NoMarker bs) :
    NoMarker (before ++ bs) := by
  induction before with
  | nil => exact hbs
  | cons b before ih =>
      intro hin
      obtain ⟨hb, hbefore⟩ := not_or.1 (fun hm => h (List.mem_cons.2 hm))
      rcases List.infix_cons_iff.1 hin with hpre | hin
      · rw [marker, List.cons_append, List.cons_append, List.cons_prefix_cons] at hpre
        exact hb hpre.1
      · exact ih hbefore hin

/-- Without a marker what was found before stays. -/
theorem afterLastMarker_of_noMarker {bs : List UInt8} (h : NoMarker bs) (found : Option Nat)
    (pos : Nat) : afterLastMarker found pos bs = found := by
  induction bs generalizing pos with
  | nil => rfl
  | cons b bs ih =>
      have hstart : marker.isPrefixOf (b :: bs) = false := by
        apply Bool.eq_false_iff.2
        intro hpre
        exact h (List.isPrefixOf_iff_prefix.1 hpre).isInfix
      rw [afterLastMarker, hstart]
      exact ih h.tail (pos + 1)

/-- **The metadata is found** behind the last marker, whatever stands before it. -/
theorem afterLastMarker_append (before : List UInt8) {after : List UInt8} (h : NoMarker after)
    (found : Option Nat) (pos : Nat) :
    afterLastMarker found pos (before ++ marker ++ after) =
      some (pos + (before ++ marker).length) := by
  induction before generalizing found pos with
  | nil =>
      have hrest : NoMarker (marker.tail ++ after) := noMarker_append (by decide) h
      have hstart : marker.isPrefixOf (marker ++ after) = true :=
        List.isPrefixOf_iff_prefix.2 (List.prefix_append marker after)
      have hsplit : marker ++ after = 0xAB :: (marker.tail ++ after) := rfl
      rw [List.nil_append, hsplit, afterLastMarker, ← hsplit, hstart, if_pos rfl]
      exact afterLastMarker_of_noMarker hrest _ _
  | cons b before ih =>
      rw [List.cons_append, List.cons_append, afterLastMarker, ih, List.length_cons]
      congr 1
      omega

/-- A marker has a point ten bytes behind its start. So it cannot lie across bytes in front that
have no start of one, a few unknown bytes, and bytes behind that have no point. -/
theorem noMarker_window {before unknown after : List UInt8} (hbefore : 0xAB ∉ before)
    (hafter : 0x2E ∉ after) (hlength : unknown.length ≤ 10) :
    NoMarker (before ++ (unknown ++ after)) := by
  apply noMarker_append hbefore
  rintro ⟨s, t, h⟩
  have hpoint : (s ++ marker ++ t)[s.length + 10]? = some 0x2E := by
    rw [List.append_assoc, List.getElem?_append_right (by omega), Nat.add_sub_cancel_left]
    rfl
  rw [h, List.getElem?_append_right (by omega)] at hpoint
  exact hafter (List.mem_of_getElem? hpoint)

/-! ## The whole file -/

/-- Metadata that a database can be written with: it is read back, and the marker before it is
the last one. -/
structure Metadata.Writable (m : Metadata) : Prop extends m.Fits where
  recordSizes : m.recordSize = 24 ∨ m.recordSize = 28 ∨ m.recordSize = 32
  noMarker : NoMarker m.value.encode

/-- The metadata of the bundled database, for a tree of any size. -/
def plainMetadata (ipVersion recordSize nodeCount : Nat) : Metadata :=
  { Bundled.metadata with ipVersion, recordSize, nodeCount }

theorem length_encode_ofNat {n : Nat} (h : n < twoTo 32) : (Value.ofNat n).encode.length ≤ 5 := by
  have hsize := bytesFor_le 4 n
  rw [Value.ofNat, Value.encode, Scalar.encode, if_pos h, encodeWord, List.length_append,
    length_bigEndianBytes, controlBytes, if_pos (by decide), List.length_cons, length_sizeBytes,
    sizeBits, if_pos (by omega)]
  omega

/-- **Every tree can be written**, for either family and with every record size. -/
theorem writable_plainMetadata {ipVersion recordSize nodeCount : Nat}
    (hv : ipVersion = 4 ∨ ipVersion = 6)
    (hs : recordSize = 24 ∨ recordSize = 28 ∨ recordSize = 32) (hc : nodeCount < twoTo 32) :
    (plainMetadata ipVersion recordSize nodeCount).Writable where
  majorVersion := (by decide : 2 < twoTo 16)
  minorVersion := (by decide : 0 < twoTo 16)
  buildEpoch := (by decide : 0 < twoTo 64)
  databaseType := (by decide : TextFits "")
  description := (by decide : 0 ≤ maxSize)
  describes := by intro p hp; cases hp
  ipVersion := by rcases hv with rfl | rfl <;> exact of_decide_eq_true rfl
  languages := (by decide : 0 ≤ maxSize)
  language := by intro l hl; cases hl
  nodeCount := hc
  recordSize := by rcases hs with rfl | rfl | rfl <;> exact of_decide_eq_true rfl
  recordSizes := hs
  noMarker := by
    have hsplit : (plainMetadata ipVersion recordSize nodeCount).value.encode =
        (controlBytes .map 9 ++ encodeEntries ((MetadataField.all.take 7).map fun f =>
          (.ofText f.key, (plainMetadata ipVersion 24 0).entry f)) ++
          (Value.ofText MetadataField.nodeCount.key).encode) ++
          ((Value.ofNat nodeCount).encode ++
            ((Value.ofText MetadataField.recordSize.key).encode ++
              (Value.ofNat recordSize).encode)) := by
      simp [Metadata.value, MetadataField.all, Value.encode, encodeEntries, Metadata.entry,
        plainMetadata]
    rw [hsplit]
    apply noMarker_window _ _ (Nat.le_trans (length_encode_ofNat hc) (by decide))
    · rcases hv with rfl | rfl <;> decide +kernel
    · rcases hs with rfl | rfl | rfl <;> decide +kernel

/-- The search tree of a file, and the bytes before the data. -/
def treeBytes (m : Metadata) (rows : List (Nat × Nat)) : List UInt8 :=
  rows.flatMap (encodeNode m.recordSize) ++ List.replicate separatorSize 0

/-- The bytes behind the data of a file. -/
def metadataBytes (m : Metadata) : List UInt8 := marker ++ m.value.encode

theorem image_eq (m : Metadata) (rows : List (Nat × Nat)) (data : List UInt8) :
    image m rows data = treeBytes m rows ++ (data ++ metadataBytes m) := by
  simp [image, treeBytes, metadataBytes]

theorem extract_append (before after : List UInt8) :
    (before ++ after).toArray.extract before.length (before ++ after).toArray.size =
      after.toArray := by
  simp

end CountryLookup.Database

namespace CountryLookup.LocalDatabase

open Database

/-- **A written database opens**, with its metadata. -/
theorem ofBytes_image {m : Metadata} (hm : m.Writable) (rows : List (Nat × Nat))
    (data : List UInt8) (source : DatabaseSource) :
    ofBytes source (image m rows data).toArray =
      .ok ⟨(image m rows data).toArray, m, source⟩ := by
  have hsplit : image m rows data = treeBytes m rows ++ data ++ marker ++ m.value.encode := by
    rw [image_eq, metadataBytes]
    simp only [List.append_assoc]
  have hfound := afterLastMarker_append (treeBytes m rows ++ data) hm.noMarker none 0
  rw [hsplit, ofBytes, List.toList_toArray, hfound, Nat.zero_add]
  show (Metadata.read _ >>= _) = _
  rw [extract_append, Metadata.read_value hm.toFits]
  exact if_pos hm.recordSizes

end CountryLookup.LocalDatabase
