import CountryLookup.Json.Printer
import CountryLookup.Proofs.Json.Contents

/-!
# Reading JSON documents back

What the program writes are texts and objects of such, without blanks. Such a document is read back
as it was written, whatever its texts hold. The reader follows the grammar, so it is enough that what
is written follows it, too: each character stands for itself or is an escape that stands for it, and
between the members of an object stand commas.

## Main results

* `charSpelling_escapeChar` — a written character stands for that character.
* `spells_write` — a written document says what the document says.
* `parse?_write` — a written document is read back.
-/

namespace CountryLookup.Json

open Text

/-! ## Documents -/

/-- A text, or an object of documents. -/
inductive Document where
  | text (s : String)
  | object (members : List (String × Document))

mutual

/-- The characters of a document. -/
def Document.write : Document → List Char
  | .text s => quote s
  | .object ms => writeObject (writeEach ms)

/-- Members with their values written. -/
def writeEach : List (String × Document) → List (String × List Char)
  | [] => []
  | (k, d) :: ms => (k, d.write) :: writeEach ms

end

mutual

/-- The document that a value denotes, if it is made of texts and objects. -/
def Value.document? : Value → Option Document
  | .text us => (textOfParts? us).map fun cs => .text (String.ofList cs)
  | .object ms => (documentMembers? ms).map .object
  | _ => none

/-- The members that an object's members denote. -/
def documentMembers? : List (List Part × Value) → Option (List (String × Document))
  | [] => some []
  | (k, v) :: ms => do
    let key ← textOfParts? k
    let d ← v.document?
    let rest ← documentMembers? ms
    pure ((String.ofList key, d) :: rest)

end

mutual

/-- What a document says. -/
def Document.content : Document → Content
  | .text s => .text s
  | .object ms => .object (contentEach ms)

/-- Members with what their values say. -/
def contentEach : List (String × Document) → List (String × Content)
  | [] => []
  | (k, d) :: ms => (k, d.content) :: contentEach ms

end

/-! ## Writing by the rules -/

/-- Four digits say the number of a control character. -/
theorem codeUnit_control {n : Nat} (h : n < 0x20) :
    CodeUnit ['0', '0', Nat.digitChar (n / 16), Nat.digitChar (n % 16)] n where
  numeral := by
    have hall : ∀ n < 32,
        ['0', '0', Nat.digitChar (n / 16), Nat.digitChar (n % 16)].all (isDigit 16) = true ∧
          digitsValue 16 ['0', '0', Nat.digitChar (n / 16), Nat.digitChar (n % 16)] = n := by decide
    obtain ⟨hdigits, hvalue⟩ := hall n h
    exact (numeral_iff (by decide)).2 ⟨List.cons_ne_nil _ _, List.all_eq_true.1 hdigits, hvalue⟩
  length := rfl

/-- **A written character stands for that character.** -/
theorem charSpelling_escapeChar (c : Char) : CharSpelling c (escapeChar c) := by
  unfold escapeChar
  split
  · exact .letter (by subst c; decide)
  split
  · exact .letter (by subst c; decide)
  split
  · exact .letter (by subst c; decide)
  split
  · exact .letter (by subst c; decide)
  split
  · exact .letter (by subst c; decide)
  split
  · exact .letter (by subst c; decide)
  split
  · exact .letter (by subst c; decide)
  split
  · next hlow => exact .unit (codeUnit_control hlow)
  · next hq hb _ _ _ _ _ hlow => exact .plain (by omega) hq hb

theorem textSpelling_flatMap (cs : List Char) : TextSpelling cs (cs.flatMap escapeChar) := by
  induction cs with
  | nil => exact .nil
  | cons c cs ih => exact .cons (charSpelling_escapeChar c) ih

/-- No white space stands around a written value. -/
theorem Spells.spaced {d : Content} {w : List Char} (h : Spells d w) : Spaced Spells d w := by
  have hspaced := Spaced.spaced .nil h .nil
  rwa [List.nil_append, List.append_nil] at hspaced

theorem Spells.member (k : String) {d : Content} {w : List Char} (h : Spells d w) :
    Member Spells (k, d) (quote k ++ ':' :: w) := by
  have hmember := Member.member .nil (textSpelling_flatMap k.toList) .nil h.spaced
  simpa [quote] using hmember

mutual

/-- **A written document says what the document says.** -/
theorem spells_write : ∀ d : Document, Spells d.content d.write
  | .text s => .text (textSpelling_flatMap s.toList)
  | .object [] => .noMembers .nil
  | .object (m :: ms) => .object (listed_write (m :: ms) (List.cons_ne_nil m ms))

/-- Its members say what the members of the document say. -/
theorem listed_write : ∀ ms : List (String × Document), ms ≠ [] →
    Listed (Member Spells) (contentEach ms) (writeMembers (writeEach ms))
  | [], h => absurd rfl h
  | [(k, d)], _ => .one ((spells_write d).member k)
  | (k, d) :: m :: ms, _ =>
      .more ((spells_write d).member k) (listed_write (m :: ms) (List.cons_ne_nil m ms))

end

/-! ## Reading back -/

mutual

/-- A value that says what a document says denotes it. -/
theorem document?_of_content : ∀ {v : Value} {d : Document}, v.content? = some d.content →
    v.document? = some d
  | .text us, .text s, h => by
      obtain ⟨cs, hcs, heq⟩ := Option.map_eq_some_iff.1 h
      cases heq
      rw [Value.document?, hcs]
      rfl
  | .object vs, .object ms, h => by
      obtain ⟨ns, hns, heq⟩ := Option.map_eq_some_iff.1 h
      cases heq
      rw [Value.document?, documentMembers?_of_content hns]
      rfl
  | .text us, .object ms, h => by
      obtain ⟨cs, -, heq⟩ := Option.map_eq_some_iff.1 h
      cases heq
  | .object vs, .text s, h => by
      obtain ⟨ns, -, heq⟩ := Option.map_eq_some_iff.1 h
      cases heq
  | .array vs, d, h => by
      obtain ⟨ds, -, heq⟩ := Option.map_eq_some_iff.1 h
      cases d <;> cases heq
  | .null, d, h => by cases d <;> cases h
  | .bool _, d, h => by cases d <;> cases h
  | .number _, d, h => by cases d <;> cases h

/-- So do members. -/
theorem documentMembers?_of_content : ∀ {vs : List (List Part × Value)}
    {ms : List (String × Document)}, contentMembers? vs = some (contentEach ms) →
      documentMembers? vs = some ms
  | [], [], _ => rfl
  | [], _ :: _, h => by cases h
  | (k, v) :: vs, ms, h => by
      obtain ⟨key, d, es, hk, hv, hvs, heq⟩ := contentMembers?_cons h
      cases ms with
      | nil => cases heq
      | cons m ms =>
          obtain ⟨k', d'⟩ := m
          obtain ⟨hm, rfl⟩ := List.cons.inj heq
          obtain ⟨rfl, rfl⟩ := Prod.mk.inj hm
          rw [documentMembers?, hk, document?_of_content hv, documentMembers?_of_content hvs]
          rfl

end

/-- A written document is a whole text. -/
theorem denotes_write (d : Document) : Denotes (String.ofList d.write) d.content := by
  rw [Denotes, String.toList_ofList]
  exact (spells_write d).spaced

/-- **A written document is read back.** -/
theorem parse?_write (d : Document) :
    (parse? (String.ofList d.write)).bind Value.document? = some d := by
  obtain ⟨v, hread, hmeans⟩ := parse?_of_denotes (denotes_write d)
  rw [hread]
  exact document?_of_content hmeans

end CountryLookup.Json
