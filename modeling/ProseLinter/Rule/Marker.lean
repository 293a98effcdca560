import ProseLinter.Rule.Options
import ProseLinter.Span
import ProseLinter.Text.Case
import ProseLinter.Text.Word

/-!
Markers left in prose, such as a note that something is still to be done. A marker is one of the
terms between two word boundaries, and a colon right after it belongs to it. Where several terms
fit, the longest is taken.
-/

namespace ProseLinter.Marker

def ruleId : String := "no-todo"

/-- The terms to look for, and whether letters match regardless of case. -/
structure Settings where
  terms : List String
  ignoreCase : Bool
deriving Repr, DecidableEq

namespace Settings

def defaultTerms : List String := ["TODO", "FIXME"]

def readTerms : Option Value → Except OptionFault (List String)
  | none => .ok defaultTerms
  | some (.list items) =>
      match Options.texts? items with
      | some texts =>
          if texts.isEmpty || texts.any (·.isEmpty) then .error (.notTerms "terms") else .ok texts
      | none => .error (.notTerms "terms")
  | some _ => .error (.notTerms "terms")

def read (options : Value) : Except OptionFault Settings := do
  let table ← Options.table ["terms", "ignore_case"] options
  let terms ← readTerms (table.get? "terms")
  let ignoreCase ← Options.boolean table "ignore_case" false
  return ⟨terms, ignoreCase⟩

def value (settings : Settings) : Value := .record [("ignore_case", .bool settings.ignoreCase)]

def ordered (settings : Settings) : List Text :=
  (settings.terms.map (·.toList)).mergeSort fun a b => decide (b.length ≤ a.length)

end Settings

def sameChar (ignoreCase : Bool) (a b : Char) : Bool :=
  if ignoreCase then caseKey a == caseKey b else a == b

def term? (ignoreCase : Bool) : Text → Text → Option (Text × Text)
  | [], text => some ([], text)
  | _ :: _, [] => none
  | wanted :: term, c :: rest =>
      if sameChar ignoreCase wanted c then
        (term? ignoreCase term rest).map fun (matched, after) => (c :: matched, after)
      else none

/-- The marker at the start of a text, if a term ends there at a word boundary: with its colon, and
with what follows. -/
def marker? (ignoreCase : Bool) (text : Text) : List Text → Option (Text × Text)
  | [] => none
  | term :: terms =>
      match term? ignoreCase term text with
      | none => marker? ignoreCase text terms
      | some (matched, after) =>
          if isWordBoundary matched.getLast? after.head? then
            match after with
            | ':' :: rest => some (matched ++ [':'], rest)
            | rest => some (matched, rest)
          else marker? ignoreCase text terms

/-- The markers of a text that stands at an offset, behind the code point `before`. The code points
of a marker are passed over one by one, `skip` of them being left. -/
def occurrences (ignoreCase : Bool) (terms : List Text) (before : Option Char) (offset skip : Nat) :
    Text → List Excerpt
  | [] => []
  | c :: rest =>
      match skip with
      | skip + 1 => occurrences ignoreCase terms (some c) (offset + 1) skip rest
      | 0 =>
          let found :=
            if isWordBoundary before (some c) then marker? ignoreCase (c :: rest) terms else none
          match found with
          | none => occurrences ignoreCase terms (some c) (offset + 1) 0 rest
          | some (marker, _) =>
              ⟨offset, marker⟩ :: occurrences ignoreCase terms (some c) (offset + 1)
                (marker.length - 1) rest

def inProse (settings : Settings) (tree : Node) : List Excerpt :=
  let terms := settings.ordered
  (tree.select Node.isProse).flatMap fun leaf =>
    occurrences settings.ignoreCase terms none leaf.span.start 0 leaf.raw

/-- The finding of one marker. The colons at its end are not named. -/
def report (context : RuleContext) (marker : Excerpt) : Finding :=
  context.report marker.span
    ("Found '" ++ String.ofList (Text.dropEndWhile (· == ':') marker.text) ++ "' marker.") none

def find (settings : Settings) (context : RuleContext) (document : Document) : List Finding :=
  (inProse settings document.tree).map (report context)

def rule : DocumentRule where
  id := ruleId
  description := "Disallow TODO/FIXME markers."
  defaultSeverity := .error
  fixable := false
  prepare :=
    Options.prepare ruleId Settings.read fun settings =>
      Options.documentCheck settings.value (find settings)

end ProseLinter.Marker
