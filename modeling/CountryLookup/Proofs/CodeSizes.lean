import CountryLookup.Proofs.Text.CaseSizes
import CountryLookup.Remote

/-!
# How long a code is

A code that comes from the remote service, or from one of the two fields of a record that hold either
a code or a name, comes from a text of two bytes. The text is measured before it is put into lower
case, so what is measured is not the code. The code has two bytes as well, unless the text is one of
three whose lower-case form takes three.

## Main results

* `IpRecord.source?_eq` — the text of a code is that of the field it is taken from.
* `isTwoLetter_code_iff` — when a code that was measured before lower-casing has two bytes.
-/

namespace CountryLookup

open Text

/-! ## Where a code of two bytes comes from -/

namespace IpRecord

/-- The field from which the code is taken. -/
def codeField? (r : IpRecord) : Option RecordField :=
  if r.countryCode ≠ "" then some .countryCode
  else if isTwoLetter r.country then some .country
  else if r.continentCode ≠ "" then some .continentCode
  else if isTwoLetter r.continent then some .continent
  else none

/-- The text of a code is that of the field it is taken from. -/
theorem source?_eq (r : IpRecord) : r.source? = r.codeField?.map r.get := by
  unfold source? codeField?
  repeat' split
  all_goals rfl

end IpRecord

/-- The fields whose text is measured, as it may be a name. -/
def RecordField.IsMeasured (f : RecordField) : Prop := f = .country ∨ f = .continent

/-- A measured field gives a code only if it has two bytes. -/
theorem IpRecord.isTwoLetter_get {r : IpRecord} {f : RecordField} (h : r.codeField? = some f)
    (hf : f.IsMeasured) : isTwoLetter (r.get f) = true := by
  unfold codeField? at h
  split at h
  · cases h
    rcases hf with hf | hf <;> cases hf
  split at h
  · rename_i htwo
    cases h
    exact htwo
  split at h
  · cases h
    rcases hf with hf | hf <;> cases hf
  split at h
  · rename_i htwo
    cases h
    exact htwo
  · cases h

/-! ## The length of the code -/

/-- A code is the lower-case form of a text, and has two bytes unless the text is one that outgrows
them. Then it has three. -/
structure Measured (s code : String) : Prop where
  lower : code = lowercase s
  two : IpRecord.isTwoLetter code = true ↔ s ∉ outgrowing
  three : s ∈ outgrowing → code.utf8ByteSize = 3

theorem measured_lowercase {s : String} (h : IpRecord.isTwoLetter s = true) :
    Measured s (lowercase s) := by
  have hsize := utf8ByteSize_lowercase (by simpa [IpRecord.isTwoLetter] using h)
  refine ⟨rfl, ?_, ?_⟩
  · rw [IpRecord.isTwoLetter, hsize]
    by_cases ho : s ∈ outgrowing <;> simp [ho]
  · intro ho
    rw [hsize, if_pos ho]

/-- **A code that was measured before lower-casing** has two bytes exactly if the text from which it
comes is not `İ`, `Ⱥ` or `Ⱦ`. So it is with the body of a reply that gives a code, for every status
and body, and with the two fields of a record that are measured. -/
theorem isTwoLetter_code_iff (c : Client) (net : Network) (x : Address) (r : IpRecord) :
    (∀ code, c.lookup net x = .ok code ↔ ∃ reply, net (c.url x) = .ok reply ∧
      reply.status = 200 ∧ IpRecord.isTwoLetter (Client.bodyText reply) = true ∧
        Measured (Client.bodyText reply) code) ∧
    (∀ f, r.codeField? = some f → f.IsMeasured →
      ∃ code, r.code? = some code ∧ Measured (r.get f) code) := by
  refine ⟨fun code => ⟨fun h => ?_, ?_⟩, ?_⟩
  · rw [Client.lookup] at h
    cases hreply : net (c.url x) with
    | error reason =>
        rw [hreply] at h
        cases h
    | ok reply =>
        rw [hreply] at h
        obtain ⟨hstatus, htwo, rfl⟩ := Client.classify_eq_ok_iff.1 h
        exact ⟨reply, rfl, hstatus, htwo, measured_lowercase htwo⟩
  · rintro ⟨reply, hreply, hstatus, htwo, hm⟩
    rw [Client.lookup, hreply]
    exact Client.classify_eq_ok_iff.2 ⟨hstatus, htwo, hm.lower⟩
  · intro f h hf
    refine ⟨lowercase (r.get f), ?_, measured_lowercase (IpRecord.isTwoLetter_get h hf)⟩
    rw [IpRecord.code?, IpRecord.source?_eq, h]
    rfl

/-- An address to ask for. -/
def askedAddress : Address := .v4 ⟨8, 8, 8, 8⟩

/-- A reply of two bytes that are one letter, between white space. -/
def letterReply (low : UInt8) : Network := fun _ => .ok ⟨200, [0x20, 0xC8, low, 0x0A]⟩

/-- A name and a code. -/
def namedRecord : IpRecord := { country := "Japan", continent := "AS" }

/-- A letter of two bytes with a lower-case form of two bytes, `Ȇ`, is no exception. -/
theorem isTwoLetter_code_iff_plain :
    (Client.new "http://host" none).lookup (letterReply 0x86) askedAddress = .ok "ȇ" ∧
      IpRecord.isTwoLetter "ȇ" = true ∧
      ∃ code, namedRecord.code? = some code ∧ Measured "AS" code := by
  have hlookup : (Client.new "http://host" none).lookup (letterReply 0x86) askedAddress =
      .ok "ȇ" := by rfl
  obtain ⟨hremote, hlocal⟩ := isTwoLetter_code_iff (Client.new "http://host" none)
    (letterReply 0x86) askedAddress namedRecord
  obtain ⟨r, hr, -, -, hm⟩ := (hremote _).1 hlookup
  obtain rfl : (⟨200, [0x20, 0xC8, 0x86, 0x0A]⟩ : Reply) = r := Except.ok.inj hr
  exact ⟨hlookup, hm.two.2 (by decide +kernel), hlocal .continent rfl (.inr rfl)⟩

/-- **A text that passes the test can give a code of three bytes**: a body of white space and `Ⱥ`,
and the same letter as the country of a record. -/
theorem code_of_three_bytes :
    (Client.new "http://host" none).lookup (letterReply 0xBA) askedAddress = .ok "ⱥ" ∧
      ({ country := "Ⱥ" } : IpRecord).codeField? = some .country ∧
      IpRecord.isTwoLetter "Ⱥ" = true ∧
      ({ country := "Ⱥ" } : IpRecord).code? = some "ⱥ" ∧
      IpRecord.isTwoLetter "ⱥ" = false := by
  refine ⟨rfl, rfl, rfl, rfl, rfl⟩

end CountryLookup
