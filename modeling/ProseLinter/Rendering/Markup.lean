import ProseLinter.Result

/-!
Reports in markup: a list of files with their errors, and test suites with a failed case for each
finding. An element has a name, attributes, and inside either text or further elements. Writing
escapes whatever would be read as markup; inside an attribute also the quote and the white space
that reading would change.
-/

namespace ProseLinter

inductive Element where
  | node (name : String) (attributes : List (String × String)) (text : String)
      (children : List Element)

namespace Element

def escapeChar (c : Char) : List Char :=
  if c == '&' then "&amp;".toList
  else if c == '<' then "&lt;".toList
  else if c == '>' then "&gt;".toList
  else [c]

def escapeAttributeChar (c : Char) : List Char :=
  if c == '"' then "&quot;".toList
  else if c == '\r' then "&#13;".toList
  else if c == '\n' then "&#10;".toList
  else if c == '\t' then "&#09;".toList
  else escapeChar c

def escape (p : Char → List Char) (s : String) : String := String.ofList (s.toList.flatMap p)

def writeAttribute (entry : String × String) : String :=
  " " ++ entry.1 ++ "=\"" ++ escape escapeAttributeChar entry.2 ++ "\""

mutual

/-- An element as markup; one that holds nothing is a single tag. -/
def write : Element → String
  | node name attributes text children =>
      let opening := "<" ++ name ++ String.join (attributes.map writeAttribute)
      if text.isEmpty && children.isEmpty then opening ++ " />"
      else opening ++ ">" ++ escape escapeChar text ++ writeAll children ++ "</" ++ name ++ ">"

def writeAll : List Element → String
  | [] => ""
  | element :: rest => write element ++ writeAll rest

end

def file (element : Element) : String :=
  "<?xml version=\"1.0\" encoding=\"utf-8\"?>\n" ++ element.write

end Element

end ProseLinter

/-! ## Files with their errors -/

namespace ProseLinter.Checkstyle

def ruleName (ruleId : String) : String := "prosecheck.rules." ++ ruleId

def finding (finding : Finding) : Element :=
  .node "error"
    [("line", toString finding.position.line), ("column", toString finding.position.column),
      ("severity", finding.severity.name), ("message", finding.text),
      ("source", ruleName finding.ruleId)] "" []

def document (result : DocumentResult) : Element :=
  .node "file" [("name", result.documentId)] "" (result.findings.map finding)

def render (batch : BatchResult) : String :=
  (Element.node "checkstyle" [("version", "4.3")] "" (batch.map document)).file

end ProseLinter.Checkstyle

/-! ## Test suites: one for each document, with a passed case if nothing was found in it -/

namespace ProseLinter.JUnit

def failureText (finding : Finding) : String :=
  "line " ++ toString finding.position.line ++ ", col " ++
    toString finding.position.column ++ ", " ++ finding.severity.title ++ " - " ++ finding.text ++
    " (" ++ finding.ruleId ++ ")"

def failedCase (finding : Finding) : Element :=
  .node "testcase" [("time", "0"), ("name", Checkstyle.ruleName finding.ruleId)] ""
    [.node "failure" [("message", finding.text)] (failureText finding) []]

def passedCase (documentId : String) : Element :=
  .node "testcase" [("time", "0"), ("name", documentId)] "" []

def suite (result : DocumentResult) : Element :=
  .node "testsuite"
    [("package", "prosecheck"), ("time", "0"), ("tests", toString (max result.findings.length 1)),
      ("errors", toString result.findings.length), ("name", result.documentId)] ""
    (if result.findings.isEmpty then [passedCase result.documentId]
      else result.findings.map failedCase)

def render (batch : BatchResult) : String :=
  (Element.node "testsuites" [] "" (batch.map suite)).file

end ProseLinter.JUnit
