import ProseLinter.Format
import ProseLinter.Rule

/-!
Profiles: the rules and formats of a session, put together once and then left alone. Putting a
profile together finds everything that is wrong with it at once. A kind of document belongs to at
most one format, or the profile is refused.
-/

namespace ProseLinter

/-- A rule as asked for: under an id, with options, and perhaps with a severity of its own. -/
structure RuleEntry where
  id : String
  rule : Supplied Rule
  options : Value := .null
  severity : Option Severity := none

structure FormatEntry where
  id : String
  format : Supplied Format

structure EnabledRule where
  id : String
  rule : Rule
  options : Value
  severity : Option Severity
  check : RuleCheck

namespace EnabledRule

def effectiveSeverity (rule : EnabledRule) : Severity :=
  rule.severity.getD rule.rule.defaultSeverity

def context (rule : EnabledRule) : RuleContext := ⟨rule.id, rule.effectiveSeverity⟩

end EnabledRule

structure Binding where
  id : String
  format : Format

namespace Binding

/-- Reads a text as a document. A format that fails or leaves out a part of the text is at fault,
not the text. -/
def read (binding : Binding) (id : String) (text : Text) (kind : String) :
    Except ParseFault Document :=
  match binding.format.parse text with
  | .ok (.proper tree) =>
      if tree.span = Span.ofLength 0 text.length then .ok ⟨id, text, tree, kind⟩
      else .error ⟨.notSpanning binding.id, none⟩
  | .ok (.other _) => .error ⟨.notSpanning binding.id, none⟩
  | .error (.parse fault) => .error fault
  | .error fault => .error ⟨.pluginFailed binding.id fault.message, none⟩

end Binding

structure Profile where
  rules : List EnabledRule
  bindings : List Binding
  configuration : Entries := []

def RuleEntry.enable (entry : RuleEntry) : Except Violation EnabledRule :=
  match entry.rule with
  | .other kindName => .error (.notARule entry.id kindName)
  | .proper rule =>
      match rule.prepare entry.options with
      | .ok check => .ok ⟨entry.id, rule, entry.options, entry.severity, check⟩
      | .error (.options _ fault) => .error (.invalidOptions entry.id fault)
      | .error fault => .error (.optionCheckFailed entry.id fault.message)

def RuleEntry.violations (entry : RuleEntry) : List Violation :=
  (if entry.id.isEmpty then [.emptyRuleId] else []) ++
    match entry.enable with
    | .ok _ => []
    | .error violation => [violation]

def FormatEntry.binding? (entry : FormatEntry) : Option Binding :=
  entry.format.thing?.map (⟨entry.id, ·⟩)

def FormatEntry.violations (entry : FormatEntry) : List Violation :=
  match entry.format with
  | .proper _ => []
  | .other kindName => [.notAPlugin entry.id kindName]

def repeated (names : List String) : List (String × Nat) :=
  (names.eraseDups.map fun name => (name, names.count name)).filter fun entry =>
    decide (1 < entry.2)

namespace Binding

def accepted (format : Format) : List String → Except Fault (List String)
  | [] => .ok []
  | kind :: kinds => do
      let fits ← format.accepts kind
      let rest ← accepted format kinds
      return if fits then kind :: rest else rest

/-- The kinds of one format that the other accepts, and the further kinds of the other that the one
accepts. -/
def disputed (first second : Binding) : Except Fault (List String) := do
  let here ← accepted second.format first.format.kinds
  let there ← accepted first.format second.format.kinds
  return here ++ there.filter fun kind => !here.contains kind

def conflicts : List Binding → Except Fault (List Violation)
  | [] => .ok []
  | first :: rest => do
      let here ← rest.mapM fun second =>
        return (← disputed first second).map fun kind =>
          Violation.kindConflict kind first.id second.id
      return here.flatten ++ (← conflicts rest)

end Binding

namespace Profile

def build (rules : List RuleEntry) (formats : List FormatEntry) (configuration : Entries) :
    Except Fault Profile := do
  let bindings := formats.filterMap FormatEntry.binding?
  let conflicts ← Binding.conflicts bindings
  let violations :=
    (repeated (rules.map (·.id))).map (fun (id, count) => Violation.duplicateRule id count) ++
      rules.flatMap RuleEntry.violations ++
      (repeated (formats.map (·.id))).map (fun (id, count) => Violation.duplicatePlugin id count) ++
      (if formats.isEmpty then [.noPlugin] else []) ++
      formats.flatMap FormatEntry.violations ++ conflicts
  if violations.isEmpty then
    return ⟨rules.filterMap fun entry => entry.enable.toOption, bindings, configuration⟩
  else throw (.composition violations)

def documentChecks (profile : Profile) : List (RuleContext × DocumentCheck) :=
  profile.rules.filterMap fun rule =>
    match rule.check with
    | .document check => some (rule.context, check)
    | .session _ => none

def sessionChecks (profile : Profile) : List (RuleContext × SessionCheck) :=
  profile.rules.filterMap fun rule =>
    match rule.check with
    | .document _ => none
    | .session check => some (rule.context, check)

/-- The place of a rule among the rules; an id of no rule comes after them all. -/
def ruleOrder (profile : Profile) (ruleId : String) : Nat := profile.rules.findIdx (·.id == ruleId)

def kinds (profile : Profile) : List String := profile.bindings.flatMap (·.format.kinds)

def firstAccepting (kind : String) : List Binding → Except Fault Binding
  | [] => .error (.unsupportedKind kind)
  | binding :: rest => do
      if ← binding.format.accepts kind then return binding else firstAccepting kind rest

def bindingFor (profile : Profile) (kind : String) : Except Fault Binding :=
  firstAccepting kind profile.bindings

/-- The kind for a file extension: the first kind of the first format that lists the extension. -/
def kindForExtension (profile : Profile) (extension : String) : Option String :=
  profile.bindings.findSome? fun binding =>
    if binding.format.extensions.contains (lowerCase extension) then binding.format.kinds.head?
    else none

def parse (profile : Profile) (source : Source) : Except Fault Document := do
  let binding ← profile.bindingFor source.kind
  (binding.read source.id source.text source.kind).mapError .parse

def serialize (profile : Profile) (document : Document) : Except Fault Text := do
  return (← profile.bindingFor document.kind).format.serialize document.tree

end Profile

end ProseLinter
