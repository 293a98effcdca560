import ProseLinter.Document
import ProseLinter.Fault

/-!
Rules. A rule first looks at its options; what it makes of them is a check, which is then run on
every document or, for the rules about a whole batch, once on all of its documents. A check may
fail, and what it hands over has to be looked at before it is believed.
-/

namespace ProseLinter

/-- What a check is told about the rule it belongs to: its id, and the severity its findings
take. -/
structure RuleContext where
  ruleId : String
  severity : Severity
deriving Repr, DecidableEq

namespace RuleContext

def report (context : RuleContext) (span : Span) (text : String) (fix : Option Patch) : Finding :=
  ⟨context.ruleId, context.severity, span, text, fix, none⟩

end RuleContext

/-- A rule about single documents, once its options are settled. -/
structure DocumentCheck where
  settings : Value
  evaluate : RuleContext → Document → Except Fault (List (Supplied Finding))
  answers : RuleContext → Document → Bool := fun _ _ => true

/-- A rule about a batch of documents, once its options are settled. Its findings stand under
document ids. -/
structure SessionCheck where
  settings : Value
  evaluate : RuleContext → List Document → Except Fault (Table String (List (Supplied Finding)))

inductive RuleCheck where
  | document (check : DocumentCheck)
  | session (check : SessionCheck)

namespace RuleCheck

def settings : RuleCheck → Value
  | document check => check.settings
  | session check => check.settings

end RuleCheck

structure DocumentRule where
  id : String
  description : String
  defaultSeverity : Severity
  fixable : Bool
  prepare : Value → Except Fault DocumentCheck

structure SessionRule where
  id : String
  description : String
  defaultSeverity : Severity
  prepare : Value → Except Fault SessionCheck

inductive Rule where
  | document (rule : DocumentRule)
  | session (rule : SessionRule)

namespace Rule

def id : Rule → String
  | document rule => rule.id
  | session rule => rule.id

def description : Rule → String
  | document rule => rule.description
  | session rule => rule.description

def defaultSeverity : Rule → Severity
  | document rule => rule.defaultSeverity
  | session rule => rule.defaultSeverity

/-- Whether findings of the rule may carry patches; rules about a batch do not say. -/
def fixable? : Rule → Option Bool
  | document rule => some rule.fixable
  | session _ => none

def isSession : Rule → Bool
  | document _ => false
  | session _ => true

def prepare (rule : Rule) (options : Value) : Except Fault RuleCheck :=
  match rule with
  | document rule => (rule.prepare options).map .document
  | session rule => (rule.prepare options).map .session

end Rule

end ProseLinter
