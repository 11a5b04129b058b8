import CountryLookup.Proofs.Address.RoundTrip
import CountryLookup.Proofs.Text.Utf8
import CountryLookup.Remote
import CountryLookup.Text.Runs

/-!
# What a request says

The address of a request is put together from three texts: the base from the settings, the text of
an address, and the token if there is one. The parts are found again. The text of an address holds
no slash, so it ends where the path goes on, and a question mark stands only in front of the token,
which is percent-encoded and holds neither a question mark nor a number sign. So two requests from
one base are the same only if address and token are, and whatever a token holds, it stays the value
of one parameter.

## Main results

* `encoded_encodeBytes` — the form of an encoded text.
* `url_eq_url_iff` — a request from a given base tells address and token.
* `carries_url` — how a request carries its token.
* `urls_tell_lookups` — both, and that slashes at the end of the base do not count.
-/

namespace CountryLookup

open Text

/-! ## Encoded texts -/

namespace Text.Percent

/-- The characters that stand for themselves in an encoded text. -/
def isPlain (c : Char) : Bool := c.isAlphanum || c == '-' || c == '_' || c == '.' || c == '~'

/-- An encoded text: characters that stand for themselves, and percent signs, each with two
hexadecimal digits behind it. -/
inductive Encoded : List Char → Prop where
  | nil : Encoded []
  | plain {c : Char} {cs : List Char} (hc : isPlain c = true) (h : Encoded cs) : Encoded (c :: cs)
  | byte {a b : Char} {cs : List Char} (ha : isDigit 16 a = true) (hb : isDigit 16 b = true)
    (h : Encoded cs) : Encoded ('%' :: a :: b :: cs)

theorem isDigit_hexDigit : ∀ n < 16, isDigit 16 (hexDigit n) = true := by decide

theorem isPlain_of_unreserved :
    ∀ n < 256, unreserved (UInt8.ofNat n) = true → isPlain (Char.ofNat n) = true := by
  decide +kernel

/-- **The form of an encoded text.** -/
theorem encoded_encodeBytes (bs : List UInt8) : Encoded (encodeBytes bs) := by
  induction bs with
  | nil => exact .nil
  | cons b bs ih =>
      have hb : b.toNat < 256 := b.toNat_lt
      rw [encodeBytes_cons, encodeByte]
      by_cases hu : unreserved b = true
      · rw [if_pos hu]
        rw [← UInt8.ofNat_toNat (x := b)] at hu
        exact .plain (isPlain_of_unreserved b.toNat hb hu) ih
      · rw [if_neg hu]
        exact .byte (isDigit_hexDigit _ (by omega)) (isDigit_hexDigit _ (by omega)) ih

/-- A character that is neither a percent sign nor stands for itself is in no encoded text. -/
theorem not_mem_encodeBytes {c : Char} (hp : c ≠ '%')
    (hu : unreserved (UInt8.ofNat c.toNat) = false) (bs : List UInt8) : c ∉ encodeBytes bs := by
  intro hc
  rcases unreserved_of_mem_encodeBytes hc with h | h
  · exact hp h
  · rw [hu] at h
    cases h

/-- The bytes of a text, encoded, give the text back. -/
theorem decode_encode (s : String) :
    Utf8.decode? (decodeBytes (encodeBytes (Utf8.encode s))) = some s := by
  rw [decodeBytes_encodeBytes, Utf8.decode?_encode]

theorem encodeBytes_injective {s t : String}
    (h : encodeBytes (Utf8.encode s) = encodeBytes (Utf8.encode t)) : s = t := by
  have hs := decode_encode s
  rw [h, decode_encode t] at hs
  exact (Option.some.inj hs).symm

end Text.Percent

/-! ## Addresses in a request -/

namespace Address

/-- Neither a slash nor a mark that begins another part of a request is in the text of an
address. -/
theorem marks_not_mem_print (x : Address) : '/' ∉ x.print ∧ '?' ∉ x.print ∧ '#' ∉ x.print := by
  have hmarks : ∀ c ∈ x.print, c ≠ '/' ∧ c ≠ '?' ∧ c ≠ '#' := fun c hc =>
    of_mem_shows (p := fun c => c ≠ '/' ∧ c ≠ '?' ∧ c ≠ '#') (by decide) (by decide) (by decide)
      x.shows_print hc
  exact ⟨fun h => (hmarks _ h).1 rfl, fun h => (hmarks _ h).2.1 rfl, fun h => (hmarks _ h).2.2 rfl⟩

/-- No two addresses have the same text. -/
theorem print_injective {x y : Address} (h : x.print = y.print) : x = y := by
  have hx := parseChars?_of_shows x.shows_print
  rw [h, parseChars?_of_shows y.shows_print] at hx
  exact (Option.some.inj hx).symm

end Address

namespace Client

/-! ## The parts of a request -/

/-- What stands behind the path of a request. -/
def queryOf : Option String → List Char
  | none => []
  | some t => '?' :: ("token=".toList ++ Percent.encodeBytes (Utf8.encode t))

/-- What a client asks for, part by part. -/
theorem toList_url (c : Client) (x : Address) :
    (c.url x).toList =
      c.base.toList ++ '/' :: (x.print ++ '/' :: ("country".toList ++ queryOf c.token)) := by
  have hpath : (c.path x).toList =
      '/' :: (x.print ++ '/' :: ("country".toList ++ queryOf c.token)) := by
    cases ht : c.token with
    | none => simp [path, ht, queryOf, Address.render]
    | some t => simp [path, ht, queryOf, Address.render, Percent.encode]
  rw [url, String.toList_append, hpath]

theorem queryOf_injective {t u : Option String} (h : queryOf t = queryOf u) : t = u := by
  cases t with
  | none =>
      cases u with
      | none => rfl
      | some u => cases h
  | some t =>
      cases u with
      | none => cases h
      | some u =>
          have hcode := List.append_cancel_left (List.cons.inj h).2
          rw [Percent.encodeBytes_injective hcode]

/-- The token that is sent if one is given: an empty one counts as none. -/
def given (t : Option String) : Option String := t.filter (· ≠ "")

theorem token_new (base : String) (t : Option String) : (new base t).token = given t := rfl

/-- **A request from a given base tells address and token.** -/
theorem url_eq_url_iff (base : String) (x y : Address) (t u : Option String) :
    (new base t).url x = (new base u).url y ↔ x = y ∧ given t = given u := by
  constructor
  · intro h
    have hlist := congrArg String.toList h
    rw [toList_url, toList_url, token_new, token_new] at hlist
    have hpath := (List.cons.inj (List.append_cancel_left hlist)).2
    -- the text of the address ends at the first slash
    have hrun : ∀ z : Address, z.print.all (· != '/') = true := by
      intro z
      rw [List.all_eq_true]
      intro c hc
      exact bne_iff_ne.2 fun e => z.marks_not_mem_print.1 (e ▸ hc)
    have haddress := congrArg (List.takeWhile (· != '/')) hpath
    rw [takeWhile_run (hrun x) rfl, takeWhile_run (hrun y) rfl] at haddress
    have hrest := congrArg (List.dropWhile (· != '/')) hpath
    rw [dropWhile_run (hrun x) rfl, dropWhile_run (hrun y) rfl] at hrest
    have hquery := List.append_cancel_left (List.cons.inj hrest).2
    exact ⟨Address.print_injective haddress, queryOf_injective hquery⟩
  · rintro ⟨rfl, htoken⟩
    have hclient : new base t = new base u := by
      show (⟨_, given t⟩ : Client) = ⟨_, given u⟩
      rw [htoken]
    rw [hclient]

/-! ## The token in a request -/

/-- What stands behind the first question mark of a request, if it has one. -/
def query? (url : String) : Option (List Char) :=
  match url.toList.dropWhile (· != '?') with
  | [] => none
  | _ :: query => some query

/-- How a request carries a token or none. It has no fragment. It has one question mark if there is
a token, and behind it stand the name of the parameter and an encoded text that is decoded to the
token; and it has no question mark if there is no token. -/
structure Carries (url : String) (token : Option String) : Prop where
  fragment : '#' ∉ url.toList
  marks : url.toList.count '?' = if token.isSome then 1 else 0
  query : ∀ t, token = some t → ∃ e, query? url = some ("token=".toList ++ e) ∧
    Percent.Encoded e ∧ Utf8.decode? (Percent.decodeBytes e) = some t

/-- What stands in a request in front of its query. -/
theorem target_marks {base : String} (hq : '?' ∉ base.toList) (hf : '#' ∉ base.toList)
    (x : Address) :
    '?' ∉ base.toList ++ '/' :: (x.print ++ '/' :: "country".toList) ∧
      '#' ∉ base.toList ++ '/' :: (x.print ++ '/' :: "country".toList) := by
  obtain ⟨-, hxq, hxf⟩ := x.marks_not_mem_print
  simp [hq, hf, hxq, hxf]

/-- The query holds its mark in front and no other. -/
theorem queryOf_marks (t : Option String) :
    (queryOf t).count '?' = (if t.isSome then 1 else 0) ∧ '#' ∉ queryOf t := by
  cases t with
  | none => exact ⟨rfl, List.not_mem_nil⟩
  | some t =>
      have hq := Percent.not_mem_encodeBytes (c := '?') (by decide) (by decide) (Utf8.encode t)
      have hf := Percent.not_mem_encodeBytes (c := '#') (by decide) (by decide) (Utf8.encode t)
      constructor
      · rw [queryOf, List.count_cons_self, List.count_eq_zero.2]
        · rfl
        · simp [hq]
      · simp [queryOf, hf]

/-- **How a request carries its token.** -/
theorem carries_url (c : Client) (hq : '?' ∉ c.base.toList) (hf : '#' ∉ c.base.toList)
    (x : Address) : Carries (c.url x) c.token := by
  obtain ⟨htq, htf⟩ := target_marks hq hf x
  obtain ⟨hcount, hfragment⟩ := queryOf_marks c.token
  have hurl : (c.url x).toList =
      (c.base.toList ++ '/' :: (x.print ++ '/' :: "country".toList)) ++ queryOf c.token := by
    rw [toList_url]
    simp
  constructor
  · rw [hurl, List.mem_append, not_or]
    exact ⟨htf, hfragment⟩
  · rw [hurl, List.count_append, List.count_eq_zero.2 htq, hcount, Nat.zero_add]
  · intro t ht
    refine ⟨Percent.encodeBytes (Utf8.encode t), ?_, Percent.encoded_encodeBytes _,
      Percent.decode_encode t⟩
    have hrun : (c.base.toList ++ '/' :: (x.print ++ '/' :: "country".toList)).all (· != '?') =
        true := by
      rw [List.all_eq_true]
      intro d hd
      exact bne_iff_ne.2 fun e => htq (e ▸ hd)
    rw [query?, hurl, ht, queryOf, dropWhile_run hrun rfl]

/-! ## The base -/

/-- What is left of a base. -/
theorem base_new (base : String) (t : Option String) :
    (new base t).base.toList = dropEndWhile (· == '/') base.toList := String.toList_ofList

/-- Nothing is in what is left of a base that was not in it. -/
theorem mem_base_new {base : String} {t : Option String} {c : Char}
    (h : c ∈ (new base t).base.toList) : c ∈ base.toList := by
  rw [base_new, dropEndWhile, List.mem_reverse] at h
  exact List.mem_reverse.1 ((List.dropWhile_sublist _).mem h)

/-- **Slashes at the end of a base do not count.** -/
theorem new_slashes (base : String) (n : Nat) (t : Option String) :
    new (base ++ String.ofList (List.replicate n '/')) t = new base t := by
  have hslashes : (List.replicate n '/').all (· == '/') = true := by
    rw [List.all_eq_true]
    intro c hc
    rw [List.eq_of_mem_replicate hc]
    rfl
  simp only [new, String.toList_append, String.toList_ofList,
    dropEndWhile_append_of_all base.toList hslashes]

/-- **Requests tell lookups apart, and a token cannot alter a request.** Requests from one base are
the same exactly if address and token are. If the base has neither a question mark nor a number
sign, a request carries its token as the encoded value of one parameter. And slashes at the end of
the base do not count. -/
theorem urls_tell_lookups (base : String) :
    (∀ (x y : Address) (t u : Option String),
        (new base t).url x = (new base u).url y ↔ x = y ∧ given t = given u) ∧
      ('?' ∉ base.toList → '#' ∉ base.toList → ∀ (x : Address) (t : Option String),
        Carries ((new base t).url x) (given t)) ∧
      ∀ (n : Nat) (x : Address) (t : Option String),
        (new (base ++ String.ofList (List.replicate n '/')) t).url x = (new base t).url x := by
  refine ⟨url_eq_url_iff base, ?_, ?_⟩
  · intro hq hf x t
    exact carries_url (new base t) (fun h => hq (mem_base_new h)) (fun h => hf (mem_base_new h)) x
  · intro n x t
    rw [new_slashes]

/-- A base with two slashes at its end, and a token that holds what has a meaning in a request. -/
theorem urls_tell_lookups_reserved :
    '?' ∉ "http://host//".toList ∧ '#' ∉ "http://host//".toList ∧
      given (some "a&b=c#d?é") = some "a&b=c#d?é" ∧
      (new "http://host//" (some "a&b=c#d?é")).url (.v4 ⟨8, 8, 8, 8⟩) =
        "http://host/8.8.8.8/country?token=a%26b%3Dc%23d%3F%C3%A9" ∧
      Carries "http://host/8.8.8.8/country?token=a%26b%3Dc%23d%3F%C3%A9" (some "a&b=c#d?é") := by
  have hq : '?' ∉ "http://host//".toList := by decide
  have hf : '#' ∉ "http://host//".toList := by decide
  have hurl : (new "http://host//" (some "a&b=c#d?é")).url (.v4 ⟨8, 8, 8, 8⟩) =
      "http://host/8.8.8.8/country?token=a%26b%3Dc%23d%3F%C3%A9" := by decide +kernel
  have hgiven : given (some "a&b=c#d?é") = some "a&b=c#d?é" := by decide
  have hcarries := (urls_tell_lookups "http://host//").2.1 hq hf (.v4 ⟨8, 8, 8, 8⟩)
    (some "a&b=c#d?é")
  rw [hurl, hgiven] at hcarries
  exact ⟨hq, hf, hgiven, hurl, hcarries⟩

end Client

end CountryLookup
