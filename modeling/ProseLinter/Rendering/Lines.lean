import ProseLinter.Json.Writer
import ProseLinter.Result

/-!
Reports in lines: one with a line for each finding, one of test points, and one for people, with
columns and a summary.
-/

/-! ## Phrases and columns: numbers with their nouns, and texts filled up to a width -/

namespace ProseLinter.Phrase

/-- A count and its noun. The plural has an s at the end unless another is given that is not
empty. -/
def plural (count : Int) (noun : String) (irregular : Option String) : String :=
  toString count ++ " " ++
    if count = 1 then noun
    else match irregular with
      | some word => if word.isEmpty then noun ++ "s" else word
      | none => noun ++ "s"

def filling (width : Nat) (s : String) : String :=
  String.ofList (List.replicate (width - s.length) ' ')

def atLeft (width : Nat) (s : String) : String := s ++ filling width s

def atRight (width : Nat) (s : String) : String := filling width s ++ s

def width (texts : List String) : Nat := (texts.map String.length).foldl max 0

end ProseLinter.Phrase

/-! ## A line for each finding, and the number of findings at the end -/

namespace ProseLinter.Compact

def line (documentId : String) (finding : Finding) : String :=
  documentId ++ ":" ++ finding.position.written ++ ": " ++ finding.severity.name ++ " " ++
    finding.text ++ " [" ++ finding.ruleId ++ "]"

def findingLines (batch : BatchResult) : List String :=
  batch.flatMap fun result => result.findings.map (line result.documentId)

/-- The lines of the report; none if there are no findings. -/
def lines (batch : BatchResult) : List String :=
  match findingLines batch with
  | [] => []
  | found => found ++ ["", Phrase.plural batch.findingCount "problem" none]

def render (batch : BatchResult) : String := String.intercalate "\n" (lines batch)

end ProseLinter.Compact

/-!
## Test points

There is one for each document, which is passed if nothing was found, and for one that is not passed
a block with an entry for each finding. The text of a finding is quoted, so it stays on its line.
-/

namespace ProseLinter.Tap

def entry (finding : Finding) : List String :=
  ["    - message: " ++ Json.quotePlain finding.text,
    "      severity: " ++ finding.severity.name,
    "      ruleId: " ++ finding.ruleId,
    "      line: " ++ toString finding.position.line,
    "      column: " ++ toString finding.position.column]

def pointLine (number : Nat) (result : DocumentResult) : String :=
  (if result.findings.isEmpty then "ok " else "not ok ") ++ toString number ++ " - " ++
    result.documentId

def point (number : Nat) (result : DocumentResult) : List String :=
  pointLine number result ::
    if result.findings.isEmpty then []
    else "  ---" :: "  messages:" :: result.findings.flatMap entry ++ ["  ..."]

def points (number : Nat) : List DocumentResult → List String
  | [] => []
  | result :: rest => point number result ++ points (number + 1) rest

def lines (batch : BatchResult) : List String :=
  "TAP version 13" :: ("1.." ++ toString batch.length) :: points 1 batch

def render (batch : BatchResult) : String := String.intercalate "\n" (lines batch)

end ProseLinter.Tap

/-!
## For people

The findings of each document stand in columns under its id, with a summary at the end. On a
terminal that shows colours, severities and the summary have them.
-/

namespace ProseLinter.Stylish

/-- A way in which a terminal can show a text. -/
inductive Style where
  | red
  | yellow
  | blue
  | bold
  | dim
  | underlined
deriving Repr, DecidableEq

def Style.code : Style → String
  | red => "31"
  | yellow => "33"
  | blue => "34"
  | bold => "1"
  | dim => "2"
  | underlined => "4"

def Style.start (style : Style) : String := "\x1b[" ++ style.code ++ "m"

def styled (color : Bool) (styles : List Style) (text : String) : String :=
  if color then String.join (styles.map Style.start) ++ text ++ "\x1b[0m" else text

def severityStyle : Severity → Style
  | .error => .red
  | .warning => .yellow
  | .info => .blue

/-- The lines of a document: its id and a row for each finding, and an empty line; nothing if there
are no findings. -/
def documentLines (color : Bool) (result : DocumentResult) : List String :=
  if result.findings.isEmpty then []
  else
    let positionWidth := Phrase.width (result.findings.map (·.position.written))
    let severityWidth := Phrase.width (result.findings.map (·.severity.name))
    let textWidth := Phrase.width (result.findings.map (·.text))
    let row (finding : Finding) : String :=
      "  " ++ Phrase.atRight positionWidth finding.position.written ++ "  " ++
        styled color [severityStyle finding.severity]
          (Phrase.atLeft severityWidth finding.severity.name) ++ "  " ++
        Phrase.atLeft textWidth finding.text ++ "  " ++ styled color [.dim] finding.ruleId
    styled color [.underlined] result.documentId :: result.findings.map row ++ [""]

/-- The lines of the summary of findings; nothing if there are none. -/
def summaryLines (color : Bool) (batch : BatchResult) : List String :=
  if batch.findingCount = 0 then []
  else
    let errors := batch.count .error
    let summary :=
      Phrase.plural batch.findingCount "problem" none ++ " (" ++
        Phrase.plural errors "error" none ++ ", " ++
        Phrase.plural (batch.count .warning) "warning" none ++ ")"
    styled color [if errors = 0 then .yellow else .red, .bold] ("\u2716 " ++ summary) ::
      if batch.fixableCount = 0 then []
      else ["  " ++ Phrase.plural batch.fixableCount "problem" none ++
        " potentially fixable with the \x60--fix\x60 option."]

/-- The line of the patches that were applied; nothing if there are none. -/
def appliedLines (batch : BatchResult) : List String :=
  if batch.appliedCount = 0 then []
  else [Phrase.plural batch.appliedCount "fix" (some "fixes") ++ " applied to " ++
    Phrase.plural batch.fixedDocuments.length "file" none ++ "."]

def render (color : Bool) (batch : BatchResult) : String :=
  String.intercalate "\n"
    (batch.flatMap (documentLines color) ++ summaryLines color batch ++ appliedLines batch)

end ProseLinter.Stylish
