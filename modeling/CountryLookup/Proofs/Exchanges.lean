import CountryLookup.Proofs.Requests
import CountryLookup.Proofs.Text.Lossy
import CountryLookup.Proofs.Text.Numerals
import CountryLookup.Proofs.Tiers

/-!
# A lookup as an exchange

What a client asks is a text, and what it gets is a reply or none. Between the two stands a library
for requests, which reads the text as the address of a page, sends a request for it, and hands over
what comes back. All that is needed of it here is what such a library is for: an address that is in
order and not too long is sent where it says, with its path and query as what is asked for.

So a lookup is written once more, over any way to ask. Over a pure network it is the lookup of the
client, and over a library that keeps a list of the requests it sent it tells what goes over the
wire. A lookup asks once, and what comes of it is read from the reply alone.

## Main results

* `isBodyText_iff` — the text of a body, said by how its bytes are cut and not by how they are read.
* `classified_result` — when a reply gives a code, and what it gives otherwise.
* `url_eq_text`, `valid_pageUnder` — a client asks for a page under its base, which is in order.
* `run_lookupBy` — a lookup sends one request.
* `lookupBy_exchange` — all of it, for every base, token, address, status and body.
-/

namespace CountryLookup

open Text

/-! ## Addresses of pages -/

namespace Http

/-- What a server is sent: by which scheme and to whom, and what is asked for. -/
structure Request where
  scheme : List Char
  authority : List Char
  target : List Char
  deriving Repr, DecidableEq

/-- The address of a page, part by part. -/
structure Url where
  scheme : List Char
  authority : List Char
  path : List Char
  query : Option (List Char) := none

/-- A character of a path, slashes included. -/
def isPathChar (c : Char) : Bool := Percent.isPlain c || "!$&'()*+,;=:@%/".toList.contains c

/-- A character of a query. -/
def isQueryChar (c : Char) : Bool := isPathChar c || c == '?'

namespace Url

/-- The query with its mark. -/
def search (u : Url) : List Char :=
  match u.query with
  | none => []
  | some q => '?' :: q

/-- Path and query. -/
def target (u : Url) : List Char := u.path ++ u.search

/-- An address as it is written. -/
def text (u : Url) : String :=
  String.ofList (u.scheme ++ "://".toList ++ u.authority ++ u.target)

/-- The request for a page. A scheme may be written in capitals. -/
def request (u : Url) : Request := ⟨u.scheme.map Char.toLower, u.authority, u.target⟩

/-- What is asked of the parts of an address. -/
structure Valid (u : Url) : Prop where
  scheme : u.scheme.map Char.toLower = "http".toList ∨ u.scheme.map Char.toLower = "https".toList
  authority_ne_nil : u.authority ≠ []
  authority : ∀ c ∈ u.authority, c ≠ '/' ∧ c ≠ '?' ∧ c ≠ '#'
  path_root : u.path = [] ∨ u.path.head? = some '/'
  path : ∀ c ∈ u.path, isPathChar c = true
  query : ∀ q, u.query = some q → ∀ c ∈ q, isQueryChar c = true

end Url

/-! ## A library for requests -/

/-- How a server answers, given all that it was sent before. -/
abbrev Server := List Request → Request → Reply

/-- What a client needs of a library for requests: which request it makes of a text, to whom it can
send one, how long an address and a body may be, and what it says if it does not go on. -/
structure Library where
  request? : String → Option Request
  reaches : List Char → List Char → Prop
  maxUrl : Nat
  maxBody : Nat
  refusal : String
  excess : String
  /-- An address in order that is not too long is sent where it says. -/
  request?_text : ∀ u : Url, u.Valid → u.path ≠ [] → reaches u.scheme u.authority →
    u.text.utf8ByteSize ≤ maxUrl → request? u.text = some u.request

namespace Library

/-- What is handed over of a reply. Only the body of status 200 is read, and not without end. -/
def receive (lib : Library) (r : Reply) : Exchange :=
  if r.status = 200 ∧ lib.maxBody < r.body.length then .error lib.excess else .ok r

/-- Asking over the wire. What was sent is remembered. -/
def ask (lib : Library) (server : Server) (url : String) : StateM (List Request) Exchange := do
  match lib.request? url with
  | none => return .error lib.refusal
  | some q =>
    let sent ← get
    set (sent ++ [q])
    return lib.receive (server sent q)

/-- The network after some requests. -/
def network (lib : Library) (server : Server) (sent : List Request) : Network :=
  fun url => ((lib.ask server url).run sent).1

theorem receive_of_le (lib : Library) {r : Reply} (h : r.body.length ≤ lib.maxBody) :
    lib.receive r = .ok r := if_neg fun hr => Nat.not_lt.2 h hr.2

theorem run_ask {lib : Library} {url : String} {q : Request} (h : lib.request? url = some q)
    (server : Server) (sent : List Request) :
    (lib.ask server url).run sent = (lib.receive (server sent q), sent ++ [q]) := by
  rw [ask, h]
  rfl

end Library

end Http

/-! ## The text of a body -/

namespace Text.Utf8

/-- The character of a piece, with `mark` for a broken sequence. -/
def Piece.markedBy (mark : Char) : Piece → Char
  | .char c => c
  | .broken => mark

end Text.Utf8

namespace Client

/-- The text of a body: its bytes cut into characters and broken sequences, with a question mark
for each of these, and without white space around it. -/
def IsBodyText (body : List UInt8) (text : String) : Prop :=
  ∃ ps, Utf8.Decodes body ps ∧ Trimmed (ps.map (Utf8.Piece.markedBy '?')) text.toList

/-- **The text of a body.** -/
theorem isBodyText_iff {r : Reply} {text : String} : IsBodyText r.body text ↔ text = bodyText r := by
  have hbody : bodyText r =
      String.ofList (trimChars ((Utf8.pieces r.body).map (Utf8.Piece.markedBy '?'))) := by
    rw [bodyText, trim, Utf8.decodeWith, String.toList_ofList]
    rfl
  constructor
  · rintro ⟨ps, hps, htrim⟩
    rw [hbody, ← Utf8.decodes_iff.1 hps, ← trimmed_iff.1 htrim, String.ofList_toList]
  · rintro rfl
    refine ⟨Utf8.pieces r.body, Utf8.decodes_iff.2 rfl, trimmed_iff.2 ?_⟩
    rw [hbody, String.toList_ofList]

/-- White space around a text is not in the text of its bytes. -/
theorem bodyText_padded {w v : String} (hw : isBlank w = true) (hv : isBlank v = true) (s : String)
    (n m : Nat) : bodyText ⟨n, Utf8.encode (w ++ s ++ v)⟩ = bodyText ⟨m, Utf8.encode s⟩ := by
  rw [bodyText, bodyText, Utf8.decodeWith_encode, Utf8.decodeWith_encode, trim, trim,
    String.toList_append, String.toList_append, trimChars_surrounded hw hv]

/-! ## What a reply gives -/

/-- What a reply gives: a code exactly if its status is 200 and the text of its body has two bytes,
and in all other cases it is of no use. -/
structure Classified (reply : Reply) (result : CodeResult) : Prop where
  code_iff : ∀ code, result = .ok code ↔ reply.status = 200 ∧
    ∃ text, IsBodyText reply.body text ∧ text.utf8ByteSize = 2 ∧ code = lowercase text
  otherwise : (∀ code, result ≠ .ok code) → ∃ m, result = .error ⟨.remoteUnavailable, m⟩

theorem classified_result (r : Reply) : Classified r (result (.ok r)) := by
  constructor
  · intro code
    rw [result, classify_eq_ok_iff]
    simp [isBodyText_iff, IpRecord.isTwoLetter]
  · rw [result, classify]
    intro hno
    by_cases hstatus : r.status = 200
    · rw [if_pos hstatus] at hno ⊢
      by_cases htwo : IpRecord.isTwoLetter (bodyText r) = true
      · exact absurd (codeOfText_eq_ok_iff.2 ⟨htwo, rfl⟩) (hno _)
      · rw [codeOfText, if_neg htwo]
        exact ⟨_, rfl⟩
    · rw [if_neg hstatus]
      exact ⟨_, rfl⟩

/-! ## A lookup over any way to ask -/

/-- Asks for an address in a way of its own. -/
def lookupBy {m : Type → Type} [Monad m] (ask : String → m Exchange) (c : Client) (x : Address) :
    m CodeResult := do
  return result (← ask (c.url x))

/-- Asks for an address given as a text, or refuses the text without asking. -/
def lookupTextBy {m : Type → Type} [Monad m] (ask : String → m Exchange) (c : Client) (s : String) :
    m CodeResult :=
  match Address.parse s with
  | .ok x => lookupBy ask c x
  | .error e => return .error e

/-- Over a pure network this is the lookup. -/
theorem lookupBy_network (net : Network) (c : Client) (x : Address) :
    lookupBy (m := Id) net c x = c.lookup net x := rfl

theorem lookupTextBy_network (net : Network) (c : Client) (s : String) :
    lookupTextBy (m := Id) net c s = c.lookupText net s := by
  rw [lookupTextBy, lookupText]
  cases Address.parse s <;> rfl

/-- A text that is no address is refused before anything is asked. -/
theorem lookupTextBy_of_error {m : Type → Type} [Monad m] (ask : String → m Exchange) (c : Client)
    {s : String} {e : LookupError} (h : Address.parse s = .error e) :
    lookupTextBy ask c s = return .error e := by
  rw [lookupTextBy, h]

theorem lookupTextBy_of_ok {m : Type → Type} [Monad m] (ask : String → m Exchange) (c : Client)
    {s : String} {x : Address} (h : Address.parse s = .ok x) :
    lookupTextBy ask c s = lookupBy ask c x := by
  rw [lookupTextBy, h]

/-! ## The page that is asked for -/

/-- The page of an address under a base. -/
def pageUnder (base : Http.Url) (token : Option String) (x : Address) : Http.Url :=
  { base with
    path := dropEndWhile (· == '/') base.path ++ '/' :: (x.print ++ '/' :: "country".toList)
    query := (given token).map fun t => "token=".toList ++ Percent.encodeBytes (Utf8.encode t) }

/-- The request for an address: it goes to the server of the base, and asks for the path of the base
without the slashes at its end, then the address and `country`, and the token if one is given. -/
def requestUnder (base : Http.Url) (token : Option String) (x : Address) : Http.Request where
  scheme := base.scheme.map Char.toLower
  authority := base.authority
  target := dropEndWhile (· == '/') base.path ++
    '/' :: (x.print ++ '/' :: ("country".toList ++ queryOf (given token)))

theorem search_pageUnder (base : Http.Url) (token : Option String) (x : Address) :
    (pageUnder base token x).search = queryOf (given token) := by
  rw [pageUnder, Http.Url.search]
  cases given token <;> rfl

theorem target_pageUnder (base : Http.Url) (token : Option String) (x : Address) :
    (pageUnder base token x).target = (requestUnder base token x).target := by
  rw [Http.Url.target, search_pageUnder]
  simp [pageUnder, requestUnder]

theorem request_pageUnder (base : Http.Url) (token : Option String) (x : Address) :
    (pageUnder base token x).request = requestUnder base token x := by
  rw [Http.Url.request, target_pageUnder]
  rfl

variable {base : Http.Url}

/-- **A client asks for the page under its base.** The authority ends the slashes that do not
count. -/
theorem url_eq_text (hbase : base.Valid) (hquery : base.query = none) (token : Option String)
    (x : Address) : (new base.text token).url x = (pageUnder base token x).text := by
  obtain ⟨front, c, hauthority⟩ := List.eq_nil_or_concat base.authority |>.resolve_left
    hbase.authority_ne_nil
  have hc : (c == '/') = false := beq_false_of_ne (hbase.authority c (by simp [hauthority])).1
  have hkept : dropEndWhile (· == '/') base.text.toList =
      base.scheme ++ "://".toList ++ base.authority ++ dropEndWhile (· == '/') base.path := by
    have htext : base.text.toList =
        (base.scheme ++ "://".toList ++ front) ++ c :: base.path := by
      rw [Http.Url.text, Http.Url.target, Http.Url.search, hquery, hauthority]
      simp
    rw [htext, dropEndWhile_append_of_not (p := (· == '/')) _ _ hc, hauthority]
    simp
  have hpage : (pageUnder base token x).text.toList =
      base.scheme ++ "://".toList ++ base.authority ++ (requestUnder base token x).target := by
    rw [Http.Url.text, target_pageUnder, String.toList_ofList]
    rfl
  rw [← String.toList_inj, toList_url, base_new, token_new, hkept, hpage]
  simp [requestUnder]

/-- What an encoded text is made of may stand in a query. -/
theorem isQueryChar_of_encoded {cs : List Char} (h : Percent.Encoded cs) :
    cs.all Http.isQueryChar = true := by
  have hdigit : ∀ {d : Char}, isDigit 16 d = true → Http.isQueryChar d = true := fun hd =>
    of_isDigit_base (p := fun d => Http.isQueryChar d = true) (Nat.le_refl 16) (by decide) hd
  induction h with
  | nil => rfl
  | plain hc _ ih => simp [Http.isQueryChar, Http.isPathChar, hc, ih]
  | byte ha hb _ ih =>
      have hpercent : Http.isQueryChar '%' = true := by decide
      simp [hpercent, hdigit ha, hdigit hb, ih]

/-- What is left of the path of a base begins as the path did, if anything is left. -/
theorem root_kept (hbase : base.Valid) (rest : List Char) :
    (dropEndWhile (· == '/') base.path ++ '/' :: rest).head? = some '/' := by
  obtain ⟨v, -, hpath⟩ := dropEndWhile_split (· == '/') base.path
  cases hkept : dropEndWhile (· == '/') base.path with
  | nil => rfl
  | cons d ds =>
      rw [hkept] at hpath
      rcases hbase.path_root with h | h
      · rw [h] at hpath
        cases hpath
      · rw [hpath] at h
        simpa using h

/-- **The page under a base that is in order is in order.** -/
theorem valid_pageUnder (hbase : base.Valid) (token : Option String) (x : Address) :
    (pageUnder base token x).Valid where
  scheme := hbase.scheme
  authority_ne_nil := hbase.authority_ne_nil
  authority := hbase.authority
  path_root := .inr (root_kept hbase _)
  path := by
    have hkept : ∀ c ∈ dropEndWhile (· == '/') base.path, Http.isPathChar c = true := by
      intro c hc
      obtain ⟨v, -, hpath⟩ := dropEndWhile_split (· == '/') base.path
      exact hbase.path c (by rw [hpath]; exact List.mem_append_left _ hc)
    have hprint : ∀ c ∈ x.print, Http.isPathChar c = true := fun c hc =>
      Address.of_mem_shows (p := fun c => Http.isPathChar c = true) (by decide) (by decide)
        (by decide) x.shows_print hc
    have hslash : Http.isPathChar '/' = true := by decide
    have hcountry : ∀ c ∈ "country".toList, Http.isPathChar c = true :=
      List.all_eq_true.1 (by decide)
    intro c hc
    simp only [pageUnder, List.mem_append, List.mem_cons] at hc
    rcases hc with hc | rfl | hc | rfl | hc
    · exact hkept c hc
    · exact hslash
    · exact hprint c hc
    · exact hslash
    · exact hcountry c hc
  query := by
    intro q hq
    obtain ⟨t, -, rfl⟩ := Option.map_eq_some_iff.1 hq
    have hname : "token=".toList.all Http.isQueryChar = true := by decide
    have hvalue := isQueryChar_of_encoded (Percent.encoded_encodeBytes (Utf8.encode t))
    exact List.all_eq_true.1 (by rw [List.all_append, hname, hvalue]; rfl)

/-! ## The whole exchange -/

/-- A lookup asks once, and what comes of it is what the reply means. -/
theorem run_lookupBy {lib : Http.Library} {c : Client} {x : Address} {q : Http.Request}
    (h : lib.request? (c.url x) = some q) (server : Http.Server) (sent : List Http.Request) :
    (lookupBy (lib.ask server) c x).run sent =
      (result (lib.receive (server sent q)), sent ++ [q]) := by
  have hask := Http.Library.run_ask h server sent
  simp only [lookupBy, StateT.run_bind, hask]
  rfl

/-- White space around the text of a body changes nothing. -/
theorem result_padded {w v : String} (hw : isBlank w = true) (hv : isBlank v = true) (s : String)
    (n : Nat) :
    result (.ok ⟨n, Utf8.encode (w ++ s ++ v)⟩) = result (.ok ⟨n, Utf8.encode s⟩) := by
  rw [result, result, classify, classify, bodyText_padded hw hv s n n]

/-- **A lookup as an exchange.** Let the base be the address of a page, in order and without a query,
on a server that can be reached and answers, with no address longer than the library takes and no
body longer than it reads. Then a lookup sends one request, that for the page under the base, and
the reply is classified exactly; white space around a body that is a text changes nothing. A text
that is no address is refused as invalid input, and nothing is sent. -/
theorem lookupBy_exchange (lib : Http.Library) (server : Http.Server) (hbase : base.Valid)
    (hquery : base.query = none) (hreach : lib.reaches base.scheme base.authority)
    (token : Option String) (x : Address)
    (hurl : ((new base.text token).url x).utf8ByteSize ≤ lib.maxUrl) (sent : List Http.Request)
    (hbody : (server sent (requestUnder base token x)).body.length ≤ lib.maxBody) :
    let c := new base.text token
    let q := requestUnder base token x
    (∃ result, (lookupBy (lib.ask server) c x).run sent = (result, sent ++ [q]) ∧
      c.lookup (lib.network server sent) x = result ∧ Classified (server sent q) result) ∧
    (∀ (s w v : String) (padded : Http.Server), isBlank w = true → isBlank v = true →
      (server sent q).body = Utf8.encode s →
      padded sent q = ⟨(server sent q).status, Utf8.encode (w ++ s ++ v)⟩ →
      (padded sent q).body.length ≤ lib.maxBody →
      (lookupBy (lib.ask padded) c x).run sent = (lookupBy (lib.ask server) c x).run sent) ∧
    ∀ s, (∀ y, Address.parse s = .ok y →
        lookupTextBy (lib.ask server) c s = lookupBy (lib.ask server) c y) ∧
      ∀ e, Address.parse s = .error e →
        e.kind = .invalidInput ∧ (lookupTextBy (lib.ask server) c s).run sent = (.error e, sent) := by
  intro c q
  have hpage : c.url x = (pageUnder base token x).text := url_eq_text hbase hquery token x
  have hrequest : lib.request? (c.url x) = some q := by
    have hpath : (pageUnder base token x).path ≠ [] := by simp [pageUnder]
    rw [hpage, lib.request?_text _ (valid_pageUnder hbase token x) hpath hreach (hpage ▸ hurl),
      request_pageUnder]
  -- within the limit a reply is handed over as it is
  have hrun : ∀ server : Http.Server, (server sent q).body.length ≤ lib.maxBody →
      (lookupBy (lib.ask server) c x).run sent = (result (.ok (server sent q)), sent ++ [q]) := by
    intro server hle
    rw [run_lookupBy hrequest, lib.receive_of_le hle]
  refine ⟨⟨_, hrun server hbody, ?_, classified_result _⟩, ?_, ?_⟩
  · rw [lookup, Http.Library.network, Http.Library.run_ask hrequest, lib.receive_of_le hbody]
  · intro s w v padded hw hv hs hpadded hle
    have hreply : server sent q = ⟨(server sent q).status, Utf8.encode s⟩ := by rw [← hs]
    rw [hrun padded hle, hrun server hbody, hpadded, result_padded hw hv, ← hreply]
  · intro s
    constructor
    · intro y hy
      exact lookupTextBy_of_ok _ c hy
    · intro e he
      exact ⟨Resolver.kind_of_parse_error he, by rw [lookupTextBy_of_error _ c he]; rfl⟩

/-! ## A library that takes an address apart at its marks -/

end Client

namespace Http

/-- What does not belong to an authority any more. -/
def inAuthority (c : Char) : Bool := c != '/' && c != '?' && c != '#'

/-- The request for a page, read from its address. -/
def plainRequest? (url : String) : Option Request :=
  match url.toList.dropWhile (· != ':') with
  | ':' :: '/' :: '/' :: rest => some
      { scheme := (url.toList.takeWhile (· != ':')).map Char.toLower
        authority := rest.takeWhile inAuthority
        target := rest.dropWhile inAuthority }
  | _ => none

theorem plainRequest?_text {u : Url} (h : u.Valid) (hpath : u.path ≠ []) :
    plainRequest? u.text = some u.request := by
  have hscheme : u.scheme.all (· != ':') = true := by
    rw [List.all_eq_true]
    intro c hc
    refine bne_iff_ne.2 ?_
    rintro rfl
    have hcolon : ':' ∈ u.scheme.map Char.toLower := List.mem_map.2 ⟨':', hc, rfl⟩
    rcases h.scheme with hs | hs <;> (rw [hs] at hcolon; revert hcolon; decide)
  have hauthority : u.authority.all inAuthority = true := by
    rw [List.all_eq_true]
    intro c hc
    obtain ⟨h1, h2, h3⟩ := h.authority c hc
    simp [inAuthority, h1, h2, h3]
  obtain ⟨more, hmore⟩ : ∃ more, u.target = '/' :: more := by
    obtain ⟨path, hroot⟩ := List.head?_eq_some_iff.1 (h.path_root.resolve_left hpath)
    exact ⟨path ++ u.search, by rw [Url.target, hroot]; rfl⟩
  have htext : u.text.toList = u.scheme ++ ':' :: ('/' :: '/' :: (u.authority ++ '/' :: more)) := by
    rw [Url.text, hmore, String.toList_ofList]
    simp
  rw [plainRequest?, htext, dropWhile_run hscheme rfl, takeWhile_run hscheme rfl]
  simp only
  rw [takeWhile_run hauthority rfl, dropWhile_run hauthority rfl, Url.request, hmore]

/-- A library for which every server can be reached. -/
def Library.plain : Library where
  request? := plainRequest?
  reaches _ _ := True
  maxUrl := 65534
  maxBody := 10485760
  refusal := "http: invalid uri"
  excess := "the response body is larger than request limit"
  request?_text _ hu hpath _ _ := plainRequest?_text hu hpath

end Http

namespace Client

/-- A base with a path that ends with slashes. -/
def slashedBase : Http.Url := ⟨"http".toList, "host:8080".toList, "/geo//".toList, none⟩

/-- A server that always answers with an ideographic space, a byte that begins a character and does
not end it, a letter, and the end of the line. -/
def brokenServer : Http.Server := fun _ _ => ⟨200, [0xE3, 0x80, 0x80, 0xC3, 0x55, 0x0A]⟩

theorem slashedBase_valid : slashedBase.Valid where
  scheme := by decide
  authority_ne_nil := by decide
  authority := by
    have hmarks : slashedBase.authority.all (fun c => c != '/' && c != '?' && c != '#') = true := by
      decide
    simpa [and_assoc] using List.all_eq_true.1 hmarks
  path_root := by decide
  path := List.all_eq_true.1 (by decide)
  query := by
    intro q hq
    cases hq

/-- The broken sequence counts as one byte, so the text has two of them; and an address with a port
is none. -/
theorem lookupBy_exchange_broken :
    slashedBase.text = "http://host:8080/geo//" ∧ slashedBase.Valid ∧ slashedBase.query = none ∧
      (lookupBy (Http.Library.plain.ask brokenServer) (new slashedBase.text (some "a b"))
        (.v4 ⟨8, 8, 8, 8⟩)).run [] =
        (.ok "?u", [{
          scheme := "http".toList
          authority := "host:8080".toList
          target := "/geo/8.8.8.8/country?token=a%20b".toList }]) ∧
      (lookupTextBy (Http.Library.plain.ask brokenServer) (new slashedBase.text (some "a b"))
        "8.8.8.8:80").run [] =
        (.error ⟨.invalidInput, "invalid ip address: 8.8.8.8:80"⟩, []) := by
  have hurl : ((new slashedBase.text (some "a b")).url (.v4 ⟨8, 8, 8, 8⟩)).utf8ByteSize ≤
      Http.Library.plain.maxUrl := by decide +kernel
  obtain ⟨⟨result, hrun, -, hclass⟩, -, htext⟩ := lookupBy_exchange Http.Library.plain brokenServer
    slashedBase_valid rfl trivial (some "a b") (.v4 ⟨8, 8, 8, 8⟩) hurl [] (by decide)
  have hresult : result = .ok "?u" := by
    refine (hclass.code_iff "?u").2 ⟨rfl, "?U", ?_, by decide +kernel, by decide +kernel⟩
    exact ⟨_, Utf8.decodes_iff.2 rfl, trimmed_iff.2 (by decide +kernel)⟩
  have htarget : (requestUnder slashedBase (some "a b") (.v4 ⟨8, 8, 8, 8⟩)).target =
      "/geo/8.8.8.8/country?token=a%20b".toList := by decide +kernel
  have hrefused : Address.parse "8.8.8.8:80" =
      .error ⟨.invalidInput, "invalid ip address: 8.8.8.8:80"⟩ := by rfl
  refine ⟨by decide, slashedBase_valid, rfl, ?_, ((htext _).2 _ hrefused).2⟩
  rw [hrun, hresult, ← htarget]
  rfl

end Client

end CountryLookup
