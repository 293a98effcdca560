import ProseLinter.Json.Writer
import ProseLinter.Result

/-!
The report as data: findings and results as tables.
-/

namespace ProseLinter

def Span.value (span : Span) : Value := .list [.int span.start, .int span.stop]

def Patch.value (patch : Patch) : Value :=
  .record [("range", patch.span.value), ("text", .string (String.ofList patch.replacement))]

def Location.entries (location : Location) : Table String Value :=
  [("line", .int location.start.line), ("column", .int location.start.column),
    ("endLine", .int location.stop.line), ("endColumn", .int location.stop.column)]

def Finding.value (finding : Finding) : Value :=
  .record
    ([("ruleId", .string finding.ruleId), ("severity", .string finding.severity.name),
        ("message", .string finding.text), ("range", finding.span.value)] ++
      (finding.location.map (·.entries)).getD [] ++
      (finding.fix.map fun patch => [("fix", patch.value)]).getD [])

def DocumentResult.entries (result : DocumentResult) : Table String Value :=
  [("filePath", .string result.documentId), ("messages", .list (result.findings.map (·.value))),
      ("fixApplied", .bool result.fixApplied), ("appliedCount", .int result.applied.length)] ++
    (result.fixedText.map fun text => [("output", .string (String.ofList text))]).getD []

def BatchResult.value (batch : BatchResult) : Value :=
  .list (batch.map fun result => .record result.entries)

end ProseLinter
