import ProseLinter.Rule.Options
import ProseLinter.Text.Blank

/-!
Documents that repeat an earlier document of their batch. Two documents are the same if their texts
agree but for the white space at both ends. The earliest one is taken for the source of the others.
-/

namespace ProseLinter.Duplicate

def ruleId : String := "no-duplicate-documents"

def defaultLength : Int := 1

def readLength (options : Value) : Except OptionFault Int := do
  let table ← Options.table ["min_length"] options
  Options.integer table "min_length" 0 defaultLength (.negative "min_length")

def content (document : Document) : Text := document.text.trim

def isCompared (least : Int) (document : Document) : Bool :=
  !(content document).isEmpty && decide (least ≤ (content document).length)

/-- The documents that repeat an earlier one, each with the id of the earliest. `seen` holds the
texts met so far, with the id of the first document of each. -/
def copies (least : Int) (seen : List (Text × String)) : List Document → List (Document × String)
  | [] => []
  | document :: rest =>
      if isCompared least document then
        match seen.lookup (content document) with
        | none => copies least ((content document, document.id) :: seen) rest
        | some first =>
            if first = document.id then copies least seen rest
            else (document, first) :: copies least seen rest
      else copies least seen rest

def report (context : RuleContext) (document : Document) (first : String) : Finding :=
  context.report (Span.ofLength 0 document.length) ("Content duplicates '" ++ first ++ "'.") none

def find (least : Int) (context : RuleContext) (documents : List Document) :
    Table String (List Finding) :=
  (copies least [] documents).foldl
    (fun found copy =>
      let finding := report context copy.1 copy.2
      found.alter copy.1.id [finding] (· ++ [finding])) []

def rule : SessionRule where
  id := ruleId
  description := "Disallow documents with identical content in one batch."
  defaultSeverity := .warning
  prepare := Options.prepare ruleId readLength fun least =>
    { settings := .int least
      evaluate := fun context documents =>
        .ok ((find least context documents).map fun entry => (entry.1, entry.2.map .proper)) }

end ProseLinter.Duplicate
