import CountryLookup.Event
import CountryLookup.Text.Digits
import CountryLookup.Text.Fields
import CountryLookup.Text.Lowercase
import CountryLookup.Text.Runs
import CountryLookup.Text.Space

/-!
# Log filters

A filter is a list of directives between commas. A directive gives a level for all speakers, a
level for the speakers whose names start with a text, or such a text alone, which stands for the
most verbose level. Directives in square brackets speak about spans, of which this program has
none. A directive that cannot be read is left out with a complaint. Of the directives that apply to
a speaker the one with the longest text decides, and of two with the same text the later.

## Main results

* `enabled_mono` — where an event is enabled, a more important one of the same speaker is.
-/

namespace CountryLookup.Logging

open Text

/-- A directive: the start of the names of speakers, if it is not about all, and the rank of the
most verbose level that is let through, zero for none. -/
structure Directive where
  target : Option String
  rank : Nat
  deriving Repr, DecidableEq

/-- The names of levels in filters. -/
def levelNames : List String := ["off", "error", "warn", "info", "debug", "trace"]

/-- The rank of a level given by number or by name, in any case. -/
def rank? (s : String) : Option Nat :=
  match (natural? s).filter (· ≤ 5) with
  | some n => some n
  | none => levelNames.idxOf? (lowercaseAscii s)

/-- The rank behind an equals sign; nothing stands for the most verbose level. -/
def rankBehind? (cs : List Char) : Option Nat :=
  if cs.isEmpty then some 5 else rank? (String.ofList cs)

/-- Why a directive cannot be read. -/
inductive Complaint where
  | form | level
  deriving Repr, DecidableEq

/-- The words of a complaint. -/
def Complaint.words : Complaint → String
  | form => "invalid filter directive"
  | level => "error parsing level filter: expected one of \"off\", \"error\", \"warn\", \"info\", "
      ++ "\"debug\", \"trace\", or a number 0-5"

/-- Whether a directive can start with a character. Characters beyond ASCII are taken for
letters. -/
def canStart (c : Char) : Bool :=
  c == '-' || c == ':' || c == '_' || c.isAlphanum || 128 ≤ c.toNat

/-- Checks what stands behind the opening bracket of a span. -/
def checkSpan (cs : List Char) : Except Complaint Unit :=
  let ending (cs : List Char) : Except Complaint Unit :=
    match cs with
    | [] => .ok ()
    | '=' :: cs => if (rankBehind? cs).isSome then .ok () else .error .level
    | _ => .error .form
  match cs.dropWhile fun c => c != ']' && c != '\x7b' with
  | ']' :: cs => ending cs
  | '\x7b' :: cs =>
    match cs.takeWhile (· != '\x7d'), cs.dropWhile (· != '\x7d') with
    | _ :: _, '\x7d' :: ']' :: cs => ending cs
    | _, _ => .error .form
  | _ => .error .form

/-- Reads one directive; `none` if it is about spans. The marks in it are looked for in the trimmed
text, and their places cut the text as it stands. -/
def directive? (s : String) : Except Complaint (Option Directive) :=
  let cs := trimChars s.toList
  match cs with
  | [] => .error .form
  | '[' :: span => (checkSpan span).map fun _ => none
  | c :: _ =>
    if !canStart c then .error .form
    else
      let place := (cs.takeWhile fun c => c != '=' && c != '[').length
      match cs.drop place with
      | [] => .ok (some (match rank? s with
          | some n => ⟨none, n⟩
          | none => ⟨some s, 5⟩))
      | '=' :: _ =>
        match rankBehind? (s.toList.drop (place + 1)) with
        | some n => .ok (some ⟨some (String.ofList (s.toList.take place)), n⟩)
        | none => .error .level
      | _ :: span => (checkSpan span).map fun _ => none

/-- A filter. -/
structure Filter where
  directives : List Directive
  deriving Repr, DecidableEq

namespace Filter

/-- The line that tells of a directive that is left out. -/
def complaintLine (s : String) (c : Complaint) : String := "ignoring `" ++ s ++ "`: " ++ c.words

/-- The directives of a filter as texts. -/
def texts (s : String) : List String :=
  ((fields ',' s.toList).filter fun f => !f.isEmpty).map String.ofList

/-- Reads a filter: the filter, and the complaints. If nothing can be read, errors are let
through. -/
def parse (s : String) : Filter × List String :=
  let read := (texts s).map fun t => (t, directive? t)
  let directives := read.filterMap fun r => r.2.toOption.bind id
  let anything := read.any fun r => r.2.toOption.isSome
  let complaints := read.filterMap fun r => match r.2 with
    | .error c => some (complaintLine r.1 c)
    | .ok _ => none
  (⟨if anything then directives else [⟨none, 1⟩]⟩, complaints)

/-- Whether a directive applies to a speaker of a name. -/
def applies (name : String) (d : Directive) : Bool :=
  match d.target with
  | none => true
  | some t => t.toList.isPrefixOf name.toList

/-- How specific a directive is. -/
def weight (d : Directive) : Nat :=
  match d.target with
  | none => 0
  | some t => t.utf8ByteSize + 1

/-- The later of two directives, unless the earlier is more specific. -/
def stronger (best : Option Directive) (d : Directive) : Option Directive :=
  match best with
  | some b => if weight d < weight b then some b else some d
  | none => some d

/-- The rank that is let through for a speaker of a name. -/
def rankFor (f : Filter) (name : String) : Nat :=
  (((f.directives.filter (applies name)).foldl stronger none).map (·.rank)).getD 0

/-- Whether an event is let through. -/
def enabled (f : Filter) (e : Event) : Bool := e.level.rank ≤ f.rankFor e.speaker.name

/-- **What is more important is let through as well.** -/
theorem enabled_mono {f : Filter} {e e' : Event} (h : f.enabled e = true)
    (hs : e'.speaker = e.speaker) (hl : e'.level.rank ≤ e.level.rank) : f.enabled e' = true := by
  simp only [enabled, decide_eq_true_eq] at h ⊢
  rw [hs]
  omega

end Filter

end CountryLookup.Logging
