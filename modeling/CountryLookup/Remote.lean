import CountryLookup.Address.Parser
import CountryLookup.Address.Printer
import CountryLookup.Event
import CountryLookup.Record
import CountryLookup.Text.Percent

/-!
# The remote service

The remote service answers a request for `BASE/ADDRESS/country` with a code in plain text. A
token, if there is one, goes into the query. Any answer but status 200 with two bytes of text is
no answer: error pages and notes about limits are longer, and what they say does not matter.

The network is a function from requests to replies, so a run of the program is determined by the
replies it gets.

## Main results

* `classify_eq_ok_iff` — a reply gives a code exactly if its status is 200 and its trimmed body
  has two bytes.
-/

namespace CountryLookup

open Text

/-- What a server answers. -/
structure Reply where
  status : Nat
  body : List UInt8
  deriving Repr, DecidableEq

/-- What becomes of a request: a reply, or the reason why there is none. -/
abbrev Exchange := Except String Reply

/-- How a request is answered, given its address in full. -/
abbrev Network := String → Exchange

/-- The network of a machine that is connected to none. -/
def Network.unreachable : Network := fun _ => .error "io: Network is unreachable (os error 101)"

/-- Whom to ask and with which token. -/
structure Client where
  base : String
  token : Option String
  deriving Repr, DecidableEq

namespace Client

/-- A client for a base address, whose slashes at the end do not count. An empty token is none. -/
def new (base : String) (token : Option String) : Client where
  base := String.ofList (dropEndWhile (· == '/') base.toList)
  token := token.filter (· ≠ "")

/-- The name of the service in texts. -/
def name : String := "ipinfo.io"

/-- The path and query of a request after the base address. -/
def path (c : Client) (x : Address) : String :=
  let query := match c.token with
    | some t => "?token=" ++ Percent.encode t
    | none => ""
  "/" ++ x.render ++ "/country" ++ query

/-- The address of a request in full. -/
def url (c : Client) (x : Address) : String := c.base ++ c.path x

/-- The code that a trimmed body gives: two bytes, in lower case. -/
def codeOfText (s : String) : CodeResult :=
  if IpRecord.isTwoLetter s then .ok (lowercase s)
  else .error ⟨.remoteUnavailable,
    "invalid country code from ipinfo (" ++ decimal s.utf8ByteSize ++ " bytes)"⟩

/-- The text of a body, without white space around it; what is not UTF-8 in it becomes `?`. -/
def bodyText (r : Reply) : String := trim (Utf8.decodeWith '?' r.body)

/-- What a reply means: the code, or why it is none. -/
def classify (r : Reply) : CodeResult :=
  if r.status = 200 then codeOfText (bodyText r)
  else .error ⟨.remoteUnavailable, "ipinfo returned status " ++ decimal r.status⟩

/-- What the outcome of a request means. -/
def result : Exchange → CodeResult
  | .ok r => classify r
  | .error reason => .error ⟨.remoteUnavailable, reason⟩

/-- Asks for an address. -/
def lookup (c : Client) (net : Network) (x : Address) : CodeResult := result (net (c.url x))

/-- Asks for an address given as a text, or refuses the text without asking. -/
def lookupText (c : Client) (net : Network) (s : String) : CodeResult := do
  let x ← Address.parse s
  c.lookup net x

/-- What is told when an address is asked for. -/
def asking (x : Address) : Event := ⟨.trace, .remote, "Querying ipinfo for " ++ x.render⟩

/-- A text gives a code exactly if it has two bytes. -/
theorem codeOfText_eq_ok_iff {s code : String} :
    codeOfText s = .ok code ↔ IpRecord.isTwoLetter s = true ∧ code = lowercase s := by
  unfold codeOfText
  split
  · rename_i h
    simp [h, eq_comm]
  · rename_i h
    simp [h]

/-- **A code comes from status 200 and a trimmed body of two bytes.** -/
theorem classify_eq_ok_iff {r : Reply} {code : String} :
    classify r = .ok code ↔
      r.status = 200 ∧ IpRecord.isTwoLetter (bodyText r) = true ∧ code = lowercase (bodyText r) := by
  unfold classify
  split
  · rename_i h
    simp [h, codeOfText_eq_ok_iff]
  · rename_i h
    simp [h]

end Client

/-! ## What a resolver needs of a remote service -/

/-- What becomes of a call: it returns, or it breaks off. -/
inductive CallOutcome where
  | returns (r : CodeResult)
  | breaks

/-- What a call that breaks off is reported as by the task that ran it. -/
def LookupError.broken : LookupError := ⟨.taskFailed, "task panicked"⟩

/-- The result of a call in a task of its own, which contains a call that breaks off. -/
def CallOutcome.contained : CallOutcome → CodeResult
  | returns r => r
  | breaks => .error .broken

@[simp] theorem CallOutcome.contained_returns (r : CodeResult) : (returns r).contained = r := rfl

/-- A remote service: its name, its outcome for the `n`-th call, counted from zero, and what is
told before a call. -/
structure Remote where
  name : String
  call : Nat → Address → CallOutcome
  tells : Address → List Event

/-- A client as a remote service. -/
def Client.remote (c : Client) (net : Network) : Remote where
  name := Client.name
  call _ x := .returns (c.lookup net x)
  tells x := [Client.asking x]

end CountryLookup
