import ProseLinter.Document
import ProseLinter.Finding

/-!
Results: what is found in one document and in a batch of them. A fix run adds what it changed and,
if the text changed, the new text.
-/

namespace ProseLinter

/-- What is found in a document, and what a fix run did to it. -/
structure DocumentResult where
  documentId : String
  findings : List Finding := []
  fixedText : Option Text := none
  fixApplied : Bool := false
  applied : List Finding := []
  passes : Nat := 0
deriving Repr, DecidableEq

namespace DocumentResult

/-- The result of a document that could not be processed: one error, and nothing fixed. -/
def failure (documentId ruleId text : String) (position : Option Position) : DocumentResult :=
  let place := position.getD ⟨1, 1⟩
  { documentId, findings := [⟨ruleId, .error, Span.point 0, text, none, some ⟨place, place⟩⟩] }

def count (result : DocumentResult) (severity : Severity) : Nat :=
  result.findings.countP (·.severity = severity)

end DocumentResult

abbrev BatchResult := List DocumentResult

namespace BatchResult

def total (number : DocumentResult → Nat) : BatchResult → Nat
  | [] => 0
  | result :: rest => number result + total number rest

def count (batch : BatchResult) (severity : Severity) : Nat := batch.total (·.count severity)

def findingCount (batch : BatchResult) : Nat := batch.total (·.findings.length)

def appliedCount (batch : BatchResult) : Nat := batch.total (·.applied.length)

def fixableCount (batch : BatchResult) : Nat := batch.total (·.findings.countP (·.isFixable))

def fixedDocuments (batch : BatchResult) : List DocumentResult := batch.filter (·.fixedText.isSome)

def hasErrors (batch : BatchResult) : Bool := decide (0 < batch.count .error)

end BatchResult

/-- The ids of the findings that no rule makes. -/
inductive Notice where
  | unsupportedKind
  | parseError
  | fixUnsafe
  | fixLimit
  | timeout
  | internalError
  | readError
deriving Repr, DecidableEq

namespace Notice

def ruleId : Notice → String
  | unsupportedKind => "prosecheck/unsupported-kind"
  | parseError => "prosecheck/parse-error"
  | fixUnsafe => "prosecheck/fix-unsafe"
  | fixLimit => "prosecheck/fix-limit"
  | timeout => "prosecheck/timeout"
  | internalError => "prosecheck/internal-error"
  | readError => "prosecheck/read-error"

end Notice

end ProseLinter
