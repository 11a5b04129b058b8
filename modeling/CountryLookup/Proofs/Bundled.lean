import CountryLookup.Bundled
import CountryLookup.Proofs.Database.Prefixes
import CountryLookup.Proofs.Selection.Choice

/-!
# What the bundled database answers

The bundled database is made by adding one network after the other. Adding a network puts its record
behind the data, and the tree then leads there from all addresses in the network, and from every
other address where it led before. So an address has the record of the network it lies in, and an
address in none of them has none. This holds of any list of networks; there are two of them.

## Main results

* `holds_addNetwork`, `holds_foldl` — what adding one network does, and adding many.
* `answer_database` — an address has the record of its network.
* `lookupCode_bundled` — the codes of the two networks, and nothing else, for all addresses.
-/

namespace CountryLookup

namespace Address

/-! ## Octets as bits -/

/-- The number of some bits, the most significant first. -/
def numberOf (bits : List Bool) : Nat := bits.foldl (fun n bit => 2 * n + bit.toNat) 0

theorem numberOf_octetBits (b : UInt8) : numberOf (octetBits b) = b.toNat := by
  have hall : ∀ b : Fin 256, numberOf (octetBits (UInt8.ofNat b)) = b := by decide +kernel
  have hb := hall ⟨b.toNat, b.toNat_lt⟩
  rwa [UInt8.ofNat_toNat] at hb

theorem octetBits_injective {b c : UInt8} (h : octetBits b = octetBits c) : b = c := by
  have hnumber := congrArg numberOf h
  rw [numberOf_octetBits, numberOf_octetBits] at hnumber
  exact UInt8.toNat_inj.1 hnumber

/-- One list of octets starts another if its bits do. -/
theorem flatMap_octetBits_prefix_iff {key octets : List UInt8} :
    key.flatMap octetBits <+: octets.flatMap octetBits ↔ key <+: octets := by
  induction key generalizing octets with
  | nil => exact iff_of_true List.nil_prefix List.nil_prefix
  | cons b key ih =>
      cases octets with
      | nil => simp [octetBits]
      | cons c octets =>
          rw [List.flatMap_cons, List.flatMap_cons, List.cons_prefix_cons]
          constructor
          · rintro ⟨rest, h⟩
            rw [List.append_assoc] at h
            obtain ⟨hbits, hrest⟩ := List.append_inj h rfl
            exact ⟨octetBits_injective hbits, ih.1 ⟨rest, hrest⟩⟩
          · rintro ⟨rfl, h⟩
            exact (List.prefix_append_right_inj _).2 (ih.2 h)

end Address

namespace Bundled

open Database LocalDatabase

/-! ## Adding networks -/

/-- A network: its leading octets and the fields of its record. -/
abbrev Network := List UInt8 × List (RecordField × String)

/-- Adds a network to a tree and its data. -/
def addNetwork (acc : Trie × List UInt8) (n : Network) : Trie × List UInt8 :=
  (acc.1.insert acc.2.length (n.1.flatMap Address.octetBits),
    acc.2 ++ (recordValue n.2).encode)

theorem contents_eq : contents = networks.foldl addNetwork (.empty, []) := rfl

/-- The fields for an address: those of the last network that it lies in. -/
def fieldsAmong? : List Network → List UInt8 → Option (List (RecordField × String))
  | [], _ => none
  | n :: ns, octets =>
    (fieldsAmong? ns octets).or (if n.1 <+: octets then some n.2 else none)

theorem fieldsAmong?_concat (ns : List Network) (n : Network) (octets : List UInt8) :
    fieldsAmong? (ns ++ [n]) octets =
      if n.1 <+: octets then some n.2 else fieldsAmong? ns octets := by
  induction ns with
  | nil => simp [fieldsAmong?]
  | cons m ns ih =>
      rw [List.cons_append, fieldsAmong?, ih, fieldsAmong?]
      by_cases h : n.1 <+: octets
      · rw [if_pos h, if_pos h, Option.some_or]
      · rw [if_neg h, if_neg h]

/-- A tree leads from the bits of an address to the record of these fields, or to nothing. -/
def Gives (acc : Trie × List UInt8) (octets : List UInt8) :
    Option (List (RecordField × String)) → Prop
  | some fields => ∃ offset, acc.1.find? (octets.flatMap Address.octetBits) = some offset ∧
      HasBytes acc.2.toArray offset (recordValue fields).encode
  | none => acc.1.find? (octets.flatMap Address.octetBits) = none

/-- A tree and its data hold some networks: the items of the tree are in the data, and each address
that is as long as the prefixes leads to the record of its network. -/
structure Holds (ns : List Network) (acc : Trie × List UInt8) : Prop where
  within : acc.1.Within acc.2.length
  gives : ∀ octets, (∀ n ∈ ns, n.1.length ≤ octets.length) →
    Gives acc octets (fieldsAmong? ns octets)

theorem holds_empty : Holds [] (.empty, []) where
  within := trivial
  gives octets _ := by
    show Trie.empty.find? (octets.flatMap Address.octetBits) = none
    cases octets.flatMap Address.octetBits <;> rfl

/-- **Step.** A network that is added answers for its addresses, and all others are answered as
before. -/
theorem holds_addNetwork {ns : List Network} {acc : Trie × List UInt8} (h : Holds ns acc)
    (n : Network) : Holds (ns ++ [n]) (addNetwork acc n) where
  within := by
    have hsome : 0 < (recordValue n.2).encode.length := by
      rw [recordValue, Value.encode, List.length_append]
      have hcontrol := List.length_pos_iff.2 (controlBytes_ne_nil .map n.2.length)
      simp only [List.length_map]
      omega
    have hlength : acc.2.length < (acc.2 ++ (recordValue n.2).encode).length := by
      rw [List.length_append]
      omega
    exact Trie.Within.insert hlength _ (h.within.mono (Nat.le_of_lt hlength))
  gives := by
    intro octets hlengths
    have hkey : (n.1.flatMap Address.octetBits).length ≤
        (octets.flatMap Address.octetBits).length := by
      rw [Address.length_flatMap_octetBits, Address.length_flatMap_octetBits]
      have hn := hlengths n (List.mem_append_right ns List.mem_cons_self)
      omega
    have hfind : (addNetwork acc n).1.find? (octets.flatMap Address.octetBits) =
        if n.1 <+: octets then some acc.2.length
        else acc.1.find? (octets.flatMap Address.octetBits) := by
      rw [addNetwork, Trie.find?_insert _ hkey]
      simp only [Address.flatMap_octetBits_prefix_iff]
    have hbefore := h.gives octets fun m hm => hlengths m (List.mem_append_left [n] hm)
    rw [fieldsAmong?_concat]
    by_cases hin : n.1 <+: octets
    · rw [if_pos hin] at hfind ⊢
      have hbytes := hasBytes_toArray acc.2 (recordValue n.2).encode []
      rw [List.append_nil] at hbytes
      exact ⟨acc.2.length, hfind, hbytes⟩
    · rw [if_neg hin] at hfind ⊢
      cases hfields : fieldsAmong? ns octets with
      | none =>
          rw [hfields] at hbefore
          exact hfind.trans hbefore
      | some fields =>
          rw [hfields] at hbefore
          obtain ⟨offset, hoffset, hbytes⟩ := hbefore
          exact ⟨offset, hfind.trans hoffset, hbytes.append _⟩

/-- **Run.** So it is with networks that are added one after the other. -/
theorem holds_foldl (more : List Network) {ns : List Network} {acc : Trie × List UInt8}
    (h : Holds ns acc) : Holds (ns ++ more) (more.foldl addNetwork acc) := by
  induction more generalizing ns acc with
  | nil => rwa [List.append_nil]
  | cons n more ih =>
      have hstep := ih (holds_addNetwork h n)
      rwa [List.append_assoc] at hstep

theorem holds_contents : Holds networks contents := by
  rw [contents_eq]
  exact holds_foldl networks holds_empty

/-! ## The database -/

/-- The rows of the search tree. -/
def rows : List (Nat × Nat) := contents.1.rows contents.1.size 0

/-- The database that the bundled bytes are. -/
def database : LocalDatabase := ofImage metadata rows contents.2 .embedded

theorem size_contents : contents.1.size + separatorSize + contents.2.length ≤ twoTo 24 := by
  decide +kernel

theorem nodeCount_metadata : metadata.nodeCount = rows.length :=
  (Trie.length_rows contents.1.size 0 contents.1).symm

theorem isTree_contents : IsTree metadata.recordSize rows contents.2 :=
  Database.isTree_rows holds_contents.within size_contents

/-- The bundled bytes open. -/
theorem ofBytes_bytes : ofBytes .embedded bytes = .ok database := by
  have hcount : contents.1.size < twoTo 32 := by
    have hsize := size_contents
    have hlarge : twoTo 24 < twoTo 32 := by decide
    omega
  exact ofBytes_image (writable_plainMetadata (.inl rfl) (.inl rfl) hcount) rows contents.2 .embedded

/-- What is kept for a network can be written, as its fields are few and its texts short. -/
theorem fits_networks : ∀ n ∈ networks, n.1.length ≤ 4 ∧ n.2.length ≤ maxSize ∧
    (n.2.map (·.1)).Nodup ∧ ∀ p ∈ n.2, TextFits p.2 := by
  decide +kernel

theorem exists_network_of_fieldsAmong? {ns : List Network} {octets : List UInt8}
    {fields : List (RecordField × String)} (h : fieldsAmong? ns octets = some fields) :
    ∃ n ∈ ns, n.2 = fields := by
  induction ns with
  | nil => cases h
  | cons n ns ih =>
      rw [fieldsAmong?, Option.or_eq_some_iff] at h
      rcases h with h | ⟨-, h⟩
      · obtain ⟨m, hm, heq⟩ := ih h
        exact ⟨m, List.mem_cons_of_mem n hm, heq⟩
      · by_cases hin : n.1 <+: octets
        · rw [if_pos hin] at h
          exact ⟨n, List.mem_cons_self, Option.some.inj h⟩
        · rw [if_neg hin] at h
          cases h

/-- **An address of the fourth version has the record of its network**, or none. -/
theorem answer_database (a : V4) :
    database.answer (.v4 a) = match fieldsAmong? networks a.octets with
      | some fields => .ok (IpRecord.ofFields fields)
      | none => .error .recordNotFound := by
  have hanswer : database.answer (.v4 a) = _ :=
    answer_image (.inl rfl) nodeCount_metadata isTree_contents .embedded (x := .v4 a) rfl
  have hgives := holds_contents.gives a.octets fun n hn => (fits_networks n hn).1
  have hroot : contents.1.record contents.1.size 0 = 0 := by decide +kernel
  have hitem : itemOf? rows (.v4 a) = contents.1.find? (a.octets.flatMap Address.octetBits) :=
    itemOf?_rows hroot (.v4 a)
  rw [hanswer, treeAnswer, hitem]
  cases hfields : fieldsAmong? networks a.octets with
  | none =>
      rw [hfields] at hgives
      rw [show contents.1.find? (a.octets.flatMap Address.octetBits) = none from hgives]
  | some fields =>
      rw [hfields] at hgives
      obtain ⟨offset, hoffset, hbytes⟩ := hgives
      obtain ⟨n, hn, rfl⟩ := exists_network_of_fieldsAmong? hfields
      obtain ⟨-, hlength, hnodup, hfits⟩ := fits_networks n hn
      have hwhole := hbytes.append (metadataBytes metadata)
      rw [← List.append_toArray] at hwhole
      rw [hoffset]
      exact decode_recordValue hwhole hlength hnodup hfits

/-! ## Codes -/

/-- The fields for an address, by its first three octets. -/
theorem fieldsAmong?_networks (octets : List UInt8) :
    fieldsAmong? networks octets =
      if octets.take 3 = [198, 51, 100] then
        some [(.country, ""), (.countryName, ""), (.continent, "EU"), (.continentName, "Europe")]
      else if octets.take 3 = [203, 0, 113] then
        some [(.country, "JP"), (.countryName, "Japan"), (.continent, "AS"), (.continentName, "Asia")]
      else none := by
  have hstarts : ∀ a b c : UInt8, [a, b, c] <+: octets ↔ octets.take 3 = [a, b, c] := by
    intro a b c
    rw [List.prefix_iff_eq_take]
    exact eq_comm
  have hcut : networks = [networks[0]] ++ [networks[1]] := rfl
  rw [hcut, fieldsAmong?_concat, fieldsAmong?, fieldsAmong?, Option.none_or]
  simp only [networks, List.getElem_cons_zero, List.getElem_cons_succ, hstarts]

/-- An address of the fourth version has one of two codes, or none. -/
theorem lookupCode_database (a : V4) :
    (a.octets.take 3 = [203, 0, 113] ∧ database.lookupCode (.v4 a) = .ok "jp") ∨
      (a.octets.take 3 = [198, 51, 100] ∧ database.lookupCode (.v4 a) = .ok "eu") ∨
      (a.octets.take 3 ≠ [203, 0, 113] ∧ a.octets.take 3 ≠ [198, 51, 100] ∧
        ∃ e, database.lookupCode (.v4 a) = .error e ∧ e.kind = .recordNotFound) := by
  have hanswer := answer_database a
  rw [fieldsAmong?_networks] at hanswer
  by_cases heu : a.octets.take 3 = [198, 51, 100]
  · rw [if_pos heu] at hanswer
    have hcode := lookupCode_of_ok ((answer_eq_ok_iff _ _ _).1 hanswer)
    exact .inr (.inl ⟨heu, hcode⟩)
  by_cases hjp : a.octets.take 3 = [203, 0, 113]
  · rw [if_neg heu, if_pos hjp] at hanswer
    have hcode := lookupCode_of_ok ((answer_eq_ok_iff _ _ _).1 hanswer)
    exact .inl ⟨hjp, hcode⟩
  · rw [if_neg heu, if_neg hjp] at hanswer
    obtain ⟨e, he, hkind⟩ := (answer_eq_error_iff _ _ _).1 hanswer
    exact .inr (.inr ⟨hjp, heu, e, lookupCode_of_error he, hkind⟩)

/-- An address of the sixth version has none, whatever its octets are. -/
theorem lookupCode_database_v6 (a : V6) :
    ∃ e, database.lookupCode (.v6 a) = .error e ∧ e.kind = .recordNotFound := by
  have hfind : database.find (.v6 a) = .error .wrongFamily := rfl
  have hrecord : database.lookupRecord (.v6 a) =
      .error ⟨.recordNotFound, (Address.v6 a).render ++ ": " ++ Failure.wrongFamily.message⟩ := by
    rw [lookupRecord, hfind]
  exact ⟨_, lookupCode_of_error hrecord, rfl⟩

/-- **The bundled database answers for its two networks and for no other address.** It is chosen when
the external file does not open. An address of the fourth version then has the code `jp` exactly if
it starts with 203.0.113, and the code `eu` exactly if it starts with 198.51.100, and otherwise there
is no record; and there is none for any address of the sixth version. -/
theorem lookupCode_bundled (path : String) (file : Option Entry)
    (h : ∀ d, ¬ Selector.OpensExternal ⟨path, some bytes⟩ file d) :
    ∃ db, (Selector.get ⟨path, some bytes⟩ file {}).1 = .ok db ∧ db.source = .embedded ∧
      (∀ a : V4,
        (db.lookupCode (.v4 a) = .ok "jp" ↔ a.octets.take 3 = [203, 0, 113]) ∧
        (db.lookupCode (.v4 a) = .ok "eu" ↔ a.octets.take 3 = [198, 51, 100]) ∧
        ((∃ e, db.lookupCode (.v4 a) = .error e ∧ e.kind = .recordNotFound) ↔
          a.octets.take 3 ≠ [203, 0, 113] ∧ a.octets.take 3 ≠ [198, 51, 100])) ∧
      ∀ a : V6, ∃ e, db.lookupCode (.v6 a) = .error e ∧ e.kind = .recordNotFound := by
  have hopens : Selector.OpensEmbedded ⟨path, some bytes⟩ database := ⟨bytes, rfl, ofBytes_bytes⟩
  have hchosen : (Selector.get ⟨path, some bytes⟩ file {}).1 = .ok database := by
    rcases Selector.choose_cases ⟨path, some bytes⟩ file with ⟨d, hd, -⟩ | ⟨db, -, hdb, hchoice⟩ |
      ⟨m, -, hnone, -⟩
    · exact absurd hd (h d)
    · rw [← hdb.unique hopens]
      exact hchoice
    · exact absurd hopens (hnone database)
  refine ⟨database, hchosen, rfl, ?_, lookupCode_database_v6⟩
  intro a
  rcases lookupCode_database a with ⟨hjp, hcode⟩ | ⟨heu, hcode⟩ | ⟨hjp, heu, e, hcode, hkind⟩
  · simp [hjp, hcode]
  · simp [heu, hcode]
  · simp [hjp, heu, hcode, hkind]

/-- Without an external file, one address of a network has its code, and neither of the two longer
addresses with the same octets has any. -/
theorem lookupCode_bundled_documentation :
    ∃ db, (Selector.get ⟨"local.mmdb", some bytes⟩ none {}).1 = .ok db ∧
      db.lookupCode (.v4 ⟨203, 0, 113, 7⟩) = .ok "jp" ∧
      (∃ e, db.lookupCode (.v6 ⟨0, 0, 0, 0, 0, 0, 0xCB00, 0x7107⟩) = .error e ∧
        e.kind = .recordNotFound) ∧
      ∃ e, db.lookupCode (.v6 ⟨0, 0, 0, 0, 0, 0xFFFF, 0xCB00, 0x7107⟩) = .error e ∧
        e.kind = .recordNotFound := by
  obtain ⟨db, hchosen, -, hshort, hlong⟩ := lookupCode_bundled "local.mmdb" none (by
    rintro d ⟨content, hfile, -⟩
    cases hfile)
  exact ⟨db, hchosen, (hshort ⟨203, 0, 113, 7⟩).1.2 rfl, hlong _, hlong _⟩

end Bundled

end CountryLookup
