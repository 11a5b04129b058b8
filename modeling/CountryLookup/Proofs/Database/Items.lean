import CountryLookup.Database.Basic

/-!
# Items of the data

The data of a file are followed by other bytes, and readers take the file up to its end for data.
Reading an item comes to the same with and without the bytes behind the data, if the item is whole:
reading it in the data alone does not fail because bytes are missing.

A value that contains itself is never whole. How far it is followed depends on the size of the
data.

## Main results

* `Agrees.bind` — what two readers agree on, steps after it agree on.
* `agrees_readRecord` — a record reads the same with bytes behind the data.
-/

namespace CountryLookup.Database

/-! ## Agreement -/

/-- Whether a failure may go away when bytes are added: a value goes on behind the end of the data,
or has no end. -/
def Failure.isUnfinished : Failure → Bool
  | .corrupt .endOfBuffer _ | .corrupt .keyTooLong _ | .corrupt .endless _ => true
  | .corrupt (.badSize kind size) _ =>
    kind == "string" || kind == "bytes" || (kind == "double" && size == 8)
      || (kind == "float" && size == 4)
  | _ => false

/-- A first reader is unfinished, or a second one reads the same or fails with it. -/
inductive Agrees {α : Type} (r r' : Except Failure α) : Prop where
  | unfinished {e : Failure} (h : r = .error e) (he : e.isUnfinished = true)
  | same (h : r.toOption = r'.toOption)

theorem Agrees.refl {α : Type} {r : Except Failure α} : Agrees r r := .same rfl

theorem Agrees.eq_ok {α : Type} {r' : Except Failure α} {a : α} (h : Agrees (.ok a) r') :
    r' = .ok a := by
  cases h with
  | unfinished h he => cases h
  | same h =>
      cases r' with
      | error e => cases h
      | ok b => rw [Option.some.inj h]

/-- **What two readers agree on, steps after it agree on.** -/
theorem Agrees.bind {α β : Type} {r r' : Except Failure α} {f f' : α → Except Failure β}
    (h : Agrees r r') (hf : ∀ a, Agrees (f a) (f' a)) : Agrees (r >>= f) (r' >>= f') := by
  cases h with
  | unfinished h he => exact .unfinished (by rw [h]; exact rfl) he
  | same h =>
      cases r with
      | error e =>
          cases r' with
          | error e' => exact .same (Eq.refl none)
          | ok a => cases h
      | ok a =>
          cases r' with
          | error e' => cases h
          | ok a' =>
              cases h
              exact hf a

section Longer

variable (data more : Bytes)

/-! ## Bytes and headers -/

theorem agrees_byteAt (pos : Nat) : Agrees (byteAt data pos) (byteAt (data ++ more) pos) := by
  unfold byteAt
  cases hb : data[pos]? with
  | none => exact .unfinished (rfl) (rfl)
  | some b =>
      obtain ⟨hpos, -⟩ := Array.getElem?_eq_some_iff.1 hb
      rw [Array.getElem?_append_left hpos, hb]
      exact .refl

theorem agrees_bigEndian (acc pos n : Nat) :
    Agrees (bigEndian data acc pos n) (bigEndian (data ++ more) acc pos n) := by
  induction n generalizing acc pos with
  | zero => exact .refl
  | succ n ih => exact (agrees_byteAt data more pos).bind fun b => ih (acc * 256 + b) (pos + 1)

theorem slice?_append {pos size : Nat} {bs : List UInt8} (h : slice? data pos size = some bs) :
    slice? (data ++ more) pos size = some bs := by
  unfold slice? at h ⊢
  split at h
  · rename_i hsize
    have hwhole : pos + size ≤ (data ++ more).size := by
      rw [Array.size_append]
      omega
    rw [if_pos hwhole, ← h, Array.extract_append, Nat.sub_eq_zero_of_le hsize]
    simp
  · cases h

theorem agrees_sizeAfter (low pos : Nat) :
    Agrees (sizeAfter data low pos) (sizeAfter (data ++ more) low pos) := by
  unfold sizeAfter
  split
  · exact .refl
  · exact (agrees_bigEndian data more 0 pos (low - 28)).bind fun _ => .refl

theorem agrees_header (pos : Nat) : Agrees (header data pos) (header (data ++ more) pos) := by
  unfold header
  refine (agrees_byteAt data more pos).bind fun control => ?_
  dsimp only
  split
  · exact .refl
  split
  · refine (agrees_byteAt data more (pos + 1)).bind fun extended => ?_
    split
    · exact .refl
    · exact (agrees_sizeAfter data more (control % 32) (pos + 2)).bind fun _ => .refl
  · exact (agrees_sizeAfter data more (control % 32) (pos + 1)).bind fun _ => .refl

/-- No value starts at the end of the data. -/
theorem header_size : header data data.size = .error (.at .endOfBuffer data.size) := by
  unfold header byteAt
  rw [Array.getElem?_eq_none (Nat.le_refl _)]
  exact rfl

/-- A pointer leads to the same place, or its bytes are missing and it leads to the end. -/
theorem pointerTarget_append (h : Header) :
    pointerTarget (data ++ more) h = pointerTarget data h ∨
      pointerTarget data h = (data.size, data.size) := by
  unfold pointerTarget
  dsimp only
  have hagrees := agrees_bigEndian data more (if h.size / 8 % 4 + 1 = 4 then 0 else h.size % 8)
    h.pos (h.size / 8 % 4 + 1)
  cases hn : bigEndian data (if h.size / 8 % 4 + 1 = 4 then 0 else h.size % 8) h.pos
      (h.size / 8 % 4 + 1) with
  | error e => exact .inr rfl
  | ok r =>
      rw [hn] at hagrees
      rw [hagrees.eq_ok]
      exact .inl rfl

/-- What is read behind a pointer agrees, if what starts with a header agrees. -/
theorem agrees_target {α : Type} {f f' : Nat → Nat → Except Failure α} (h : Header)
    (hf : ∀ target after, Agrees (f target after) (f' target after))
    (hend : ∃ e, f data.size data.size = .error e ∧ e.isUnfinished = true) :
    Agrees (f (pointerTarget data h).1 (pointerTarget data h).2)
      (f' (pointerTarget (data ++ more) h).1 (pointerTarget (data ++ more) h).2) := by
  rcases pointerTarget_append data more h with heq | hcut
  · rw [heq]
    exact hf _ _
  · obtain ⟨e, he, hun⟩ := hend
    rw [hcut]
    exact .unfinished he hun

/-! ## Heads -/

theorem agrees_readWord (kind : String) (width : Nat) (h : Header) :
    Agrees (readWord data kind width h) (readWord (data ++ more) kind width h) := by
  unfold readWord
  split
  · exact .refl
  · exact agrees_bigEndian data more 0 h.pos h.size

theorem agrees_readExact {kind : String} {width : Nat} (h : Header)
    (hkind : ∀ pos, (Failure.at (.badSize kind width) pos).isUnfinished = true) :
    Agrees (readExact data kind width h) (readExact (data ++ more) kind width h) := by
  unfold readExact
  by_cases hsize : h.size = width
  · by_cases hend : data.size < h.pos + width
    · rw [if_pos (.inr hend), hsize]
      exact .unfinished (rfl) (hkind _)
    · have hmore : ¬ (h.size ≠ width ∨ (data ++ more).size < h.pos + width) := by
        rw [Array.size_append]
        omega
      rw [if_neg (by omega), if_neg hmore]
      exact agrees_bigEndian data more 0 h.pos width
  · rw [if_pos (.inl hsize), if_pos (.inl hsize)]
    exact .refl

theorem agrees_readBytes {kind : String} (h : Header)
    (hkind : ∀ size pos, (Failure.at (.badSize kind size) pos).isUnfinished = true) :
    Agrees (readBytes data kind h) (readBytes (data ++ more) kind h) := by
  unfold readBytes
  cases hs : slice? data h.pos h.size with
  | none => exact .unfinished (rfl) (hkind _ _)
  | some bs =>
      rw [slice?_append data more hs]
      exact .refl

theorem agrees_readHead (h : Header) : Agrees (readHead data h) (readHead (data ++ more) h) := by
  unfold readHead
  cases Kind.ofNumber? h.number with
  | none => exact .refl
  | some kind =>
      cases kind with
      | pointer => exact .refl
      | text => exact (agrees_readBytes data more h fun _ _ => rfl).bind fun _ => .refl
      | double => exact (agrees_readExact data more h fun _ => rfl).bind fun _ => .refl
      | bytes => exact (agrees_readBytes data more h fun _ _ => rfl).bind fun _ => .refl
      | uint16 => exact (agrees_readWord data more "u16" 2 h).bind fun _ => .refl
      | uint32 => exact (agrees_readWord data more "u32" 4 h).bind fun _ => .refl
      | map => exact .refl
      | int32 => exact (agrees_readWord data more "i32" 4 h).bind fun _ => .refl
      | uint64 => exact (agrees_readWord data more "u64" 8 h).bind fun _ => .refl
      | uint128 => exact (agrees_readWord data more "u128" 16 h).bind fun _ => .refl
      | array => exact .refl
      | bool => exact .refl
      | float => exact (agrees_readExact data more h fun _ => rfl).bind fun _ => .refl

/-! ## Values -/

theorem reach_size (room : Nat) (resume : Option Nat) :
    reach data room resume data.size = .error (.at .endOfBuffer data.size) := by
  rw [reach, header_size]
  rfl

theorem agrees_reach (room : Nat) (resume : Option Nat) (pos : Nat) :
    Agrees (reach data room resume pos) (reach (data ++ more) room resume pos) := by
  induction room generalizing resume pos with
  | zero =>
      rw [reach, reach]
      refine (agrees_header data more pos).bind fun h => ?_
      split
      · exact .same rfl
      · exact (agrees_readHead data more h).bind fun _ => .refl
  | succ room ih =>
      rw [reach, reach]
      refine (agrees_header data more pos).bind fun h => ?_
      split
      · exact agrees_target data more (f := fun target after =>
            reach data room (some (resume.getD after)) target) h
          (fun target after => ih (some (resume.getD after)) target)
          ⟨_, reach_size data room _, rfl⟩
      · exact (agrees_readHead data more h).bind fun _ => .refl

theorem agrees_readMany {α : Type} {item item' : Nat → Except Failure (α × Nat)}
    (hitem : ∀ pos, Agrees (item pos) (item' pos)) (n pos : Nat) :
    Agrees (readMany item n pos) (readMany item' n pos) := by
  induction n generalizing pos with
  | zero => exact .refl
  | succ n ih => exact (hitem pos).bind fun r => (ih r.2).bind fun _ => .refl

theorem agrees_readPair {item item' : Nat → Except Failure (Value × Nat)}
    (hitem : ∀ pos, Agrees (item pos) (item' pos)) (pos : Nat) :
    Agrees (readPair item pos) (readPair item' pos) :=
  (hitem pos).bind fun r => (hitem r.2).bind fun _ => .refl

theorem readStep_size (inner : Option (Nat → Except Failure (Value × Nat))) :
    readStep data inner data.size = .error (.at .endOfBuffer data.size) := by
  rw [readStep, header_size]
  rfl

theorem agrees_readStep_none (pos : Nat) :
    Agrees (readStep data none pos) (readStep (data ++ more) none pos) := by
  unfold readStep
  refine (agrees_header data more pos).bind fun h => ?_
  split
  · exact .same rfl
  · exact (agrees_readHead data more h).bind fun _ => .refl

/-- Reading a value agrees if reading what it holds does. -/
theorem agrees_readStep_some {inner inner' : Nat → Except Failure (Value × Nat)}
    (hinner : ∀ pos, Agrees (inner pos) (inner' pos))
    (hend : inner data.size = .error (.at .endOfBuffer data.size)) (pos : Nat) :
    Agrees (readStep data (some inner) pos) (readStep (data ++ more) (some inner') pos) := by
  unfold readStep
  refine (agrees_header data more pos).bind fun h => ?_
  split
  · exact agrees_target data more
      (f := fun target after => inner target >>= fun r => .ok (r.1, after)) h
      (fun target after => (hinner target).bind fun _ => .refl)
      ⟨_, by rw [hend]; rfl, rfl⟩
  · refine (agrees_readHead data more h).bind fun r => ?_
    obtain ⟨head, next⟩ := r
    cases head with
    | scalar s => cases s <;> exact .refl
    | array n => exact (agrees_readMany hinner n next).bind fun _ => .refl
    | map n => exact (agrees_readMany (agrees_readPair hinner) n next).bind fun _ => .refl

theorem readValue_size (room : Nat) :
    readValue data room data.size = .error (.at .endOfBuffer data.size) := by
  cases room <;> exact readStep_size data _

theorem agrees_readValue (room pos : Nat) :
    Agrees (readValue data room pos) (readValue (data ++ more) room pos) := by
  induction room generalizing pos with
  | zero => exact agrees_readStep_none data more pos
  | succ room ih => exact agrees_readStep_some data more ih (readValue_size data room) pos

/-! ## Values that are passed over -/

theorem passMany_succ (item : Nat → Except Failure Nat) (n pos : Nat) :
    passMany item (n + 1) pos = item pos >>= passMany item n := by
  rw [passMany]
  cases item pos <;> rfl

theorem agrees_passMany {item item' : Nat → Except Failure Nat}
    (hitem : ∀ pos, Agrees (item pos) (item' pos)) (n pos : Nat) :
    Agrees (passMany item n pos) (passMany item' n pos) := by
  induction n generalizing pos with
  | zero => exact .refl
  | succ n ih =>
      rw [passMany_succ, passMany_succ]
      exact (hitem pos).bind ih

theorem passOver_size (fuel : Nat) :
    ∃ e, passOver data fuel data.size = .error e ∧ e.isUnfinished = true := by
  cases fuel with
  | zero => exact ⟨_, rfl, rfl⟩
  | succ fuel =>
      refine ⟨.at .endOfBuffer data.size, ?_, rfl⟩
      rw [passOver, header_size]
      rfl

/-- Fuel that is not used up does not matter. -/
theorem agrees_passOver {fuel fuel' : Nat} (hfuel : fuel ≤ fuel') (pos : Nat) :
    Agrees (passOver data fuel pos) (passOver (data ++ more) fuel' pos) := by
  induction fuel generalizing fuel' pos with
  | zero => exact .unfinished rfl rfl
  | succ fuel ih =>
      obtain ⟨fuel', rfl⟩ : ∃ n, fuel' = n + 1 := ⟨fuel' - 1, by omega⟩
      have hinner : ∀ pos, Agrees (passOver data fuel pos) (passOver (data ++ more) fuel' pos) :=
        fun pos => ih (by omega) pos
      have hpair : ∀ pos, Agrees (passPair (passOver data fuel) pos)
          (passPair (passOver (data ++ more) fuel') pos) :=
        fun pos => (hinner pos).bind hinner
      rw [passOver, passOver]
      refine (agrees_header data more pos).bind fun h => ?_
      cases Kind.ofNumber? h.number with
      | none => exact .refl
      | some kind =>
          cases kind with
          | pointer =>
              obtain ⟨e, he, hun⟩ := passOver_size data fuel
              exact agrees_target data more
                (f := fun target after => passOver data fuel target >>= fun _ => .ok after) h
                (fun target after => (hinner target).bind fun _ => .refl)
                ⟨e, by rw [he]; rfl, hun⟩
          | map => exact agrees_passMany hpair h.size h.pos
          | array => exact agrees_passMany hinner h.size h.pos
          | _ => exact .refl

theorem agrees_pass (pos : Nat) : Agrees (pass data pos) (pass (data ++ more) pos) := by
  apply agrees_passOver
  rw [Array.size_append]
  omega

/-! ## Structures -/

theorem agrees_readKeyAt_name {h : Header}
    (hk : Kind.ofNumber? h.number = some .text ∨ Kind.ofNumber? h.number = some .bytes) :
    Agrees (readKeyAt data h) (readKeyAt (data ++ more) h) := by
  cases hs : slice? data h.pos h.size with
  | none =>
      have herror : readKeyAt data h = .error (.at .keyTooLong h.pos) := by
        rcases hk with hk | hk <;> simp only [readKeyAt, hk, hs]
      exact .unfinished herror rfl
  | some bs =>
      have hboth : readKeyAt (data ++ more) h = readKeyAt data h := by
        rcases hk with hk | hk <;> simp only [readKeyAt, hk, hs, slice?_append data more hs]
      rw [hboth]
      exact .refl

theorem agrees_readKeyAt (h : Header) :
    Agrees (readKeyAt data h) (readKeyAt (data ++ more) h) := by
  cases hk : Kind.ofNumber? h.number with
  | none =>
      simp only [readKeyAt, hk]
      exact (agrees_readHead data more h).bind fun _ => .refl
  | some kind =>
      cases kind with
      | text => exact agrees_readKeyAt_name data more (.inl hk)
      | bytes => exact agrees_readKeyAt_name data more (.inr hk)
      | _ =>
          simp only [readKeyAt, hk]
          exact (agrees_readHead data more h).bind fun _ => .refl

theorem agrees_readKey (pos : Nat) : Agrees (readKey data pos) (readKey (data ++ more) pos) := by
  -- the key behind a pointer, which must not be a pointer again
  have hbehind : ∀ target after : Nat,
      Agrees
        (header data target >>= fun h =>
          if h.number = 1 then .error (.at .doublePointer h.pos)
          else readKeyAt data h >>= fun r => .ok (r.1, after))
        (header (data ++ more) target >>= fun h =>
          if h.number = 1 then .error (.at .doublePointer h.pos)
          else readKeyAt (data ++ more) h >>= fun r => .ok (r.1, after)) := by
    intro target after
    refine (agrees_header data more target).bind fun h => ?_
    split
    · exact .refl
    · exact (agrees_readKeyAt data more h).bind fun _ => .refl
  unfold readKey
  refine (agrees_header data more pos).bind fun h => ?_
  split
  · exact agrees_target data more h hbehind ⟨_, by rw [header_size]; rfl, rfl⟩
  · exact agrees_readKeyAt data more h

section Shapes

variable {φ α : Type} {s s' : Shape φ α}

theorem agrees_readEntries [DecidableEq φ] (hfield : s'.field? = s.field?)
    (hread : ∀ f pos, Agrees (s.read f pos) (s'.read f pos)) (n pos : Nat) (seen : List (φ × α)) :
    Agrees (readEntries data s n pos seen) (readEntries (data ++ more) s' n pos seen) := by
  induction n generalizing pos seen with
  | zero => exact .refl
  | succ n ih =>
      rw [readEntries, readEntries, hfield]
      refine (agrees_readKey data more pos).bind fun r => ?_
      obtain ⟨key, next⟩ := r
      dsimp only
      cases s.field? key with
      | none => exact (agrees_pass data more next).bind fun _ => ih _ seen
      | some f =>
          dsimp only
          split
          · exact .same rfl
          · exact (hread f next).bind fun _ => ih _ _

theorem agrees_readElements (hread : ∀ f pos, Agrees (s.read f pos) (s'.read f pos))
    (fs : List φ) (n pos : Nat) :
    Agrees (readElements s fs n pos) (readElements s' fs n pos) := by
  induction fs generalizing n pos with
  | nil => exact .refl
  | cons f fs ih =>
      cases n with
      | zero => exact .refl
      | succ n => exact (hread f pos).bind fun r => (ih n r.2).bind fun _ => .refl

end Shapes

/-- **A record reads the same with bytes behind the data.** -/
theorem agrees_readRecord (pos : Nat) :
    Agrees (readRecord data pos) (readRecord (data ++ more) pos) := by
  have hread : ∀ room f pos, Agrees ((recordShape data room).read f pos)
      ((recordShape (data ++ more) room).read f pos) :=
    fun room _ pos => (agrees_readValue data more room pos).bind fun _ => .refl
  have hfield : ∀ room, (recordShape (data ++ more) room).field? = (recordShape data room).field? :=
    fun _ => rfl
  unfold readRecord
  refine (agrees_reach data more maxDepth none pos).bind fun r => ?_
  dsimp only
  cases r.head with
  | scalar s => exact .refl
  | map n =>
      exact (agrees_readEntries data more (hfield r.room) (hread r.room) n r.next []).bind
        fun _ => .refl
  | array n =>
      exact (agrees_readElements (hread r.room) RecordField.all n r.next).bind fun _ => .refl

end Longer

end CountryLookup.Database
