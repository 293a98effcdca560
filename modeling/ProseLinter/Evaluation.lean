import ProseLinter.Patching
import ProseLinter.Profile
import ProseLinter.Result

/-!
Evaluation: running the rules of a profile over a document. What a rule hands over counts only if
every item of it is a finding within the text; a rule that fails or hands over anything else is
represented by one error that says so, and the other rules are not affected. Findings are located
and put into order at the end.
-/

namespace ProseLinter

/-- Checks what a rule handed over: all items must be findings whose spans and patches lie within
the text. The findings are put under the id of the rule. -/
def Finding.vet (ruleId : String) (length : Nat) :
    List (Supplied Finding) → Except RuleCause (List Finding)
  | [] => .ok []
  | .other kindName :: _ => .error (.notAFinding kindName)
  | .proper finding :: rest =>
      if !finding.span.isWithin length then .error (.spanOutside finding.span length)
      else match finding.fix.filter fun patch => !patch.span.isWithin length with
        | some patch => .error (.fixOutside patch.span length)
        | none => (vet ruleId length rest).map ({ finding with ruleId := ruleId } :: ·)

/-- The fault of a rule that failed. A rule may word its own failure. -/
def RuleFault.ofFault (ruleId : String) : Fault → RuleFault
  | .rule fault => fault
  | fault => ⟨ruleId, .raised fault.kind fault.message⟩

def RuleFault.finding (fault : RuleFault) : Finding :=
  ⟨fault.ruleId, .error, Span.point 0, fault.message, none, none⟩

namespace DocumentCheck

def run (check : DocumentCheck) (context : RuleContext) (document : Document) :
    Except RuleFault (List Finding) :=
  match check.evaluate context document with
  | .error fault => .error (.ofFault context.ruleId fault)
  | .ok produced =>
      match Finding.vet context.ruleId document.length produced with
      | .ok findings => .ok findings
      | .error cause => .error ⟨context.ruleId, cause⟩

/-- What the check has to say about a document: its findings, or the error that it failed. -/
def findings (check : DocumentCheck) (context : RuleContext) (document : Document) : List Finding :=
  match check.run context document with
  | .ok found => found
  | .error fault => [fault.finding]

end DocumentCheck

namespace Profile

/-- Whether a finding comes no later than another: by the start of the span, then by the order of
the rules. -/
def ordered (profile : Profile) (a b : Finding) : Bool :=
  decide (a.span.start < b.span.start) ||
    (a.span.start == b.span.start &&
      decide (profile.ruleOrder a.ruleId ≤ profile.ruleOrder b.ruleId))

def arrange (profile : Profile) (document : Document) (findings : List Finding) : List Finding :=
  let map := document.lineMap
  (findings.map fun finding => { finding with
    location := some (map.locate finding.span) }).mergeSort profile.ordered

def evaluate (profile : Profile) (document : Document) : List Finding :=
  profile.arrange document
    (profile.documentChecks.flatMap fun (context, check) => check.findings context document)

def answers (profile : Profile) (document : Document) : Bool :=
  profile.documentChecks.all fun (context, check) => check.answers context document

def proposals (profile : Profile) (findings : List Finding) : List Proposal :=
  findings.filterMap fun finding => finding.fix.map fun patch =>
    ⟨profile.ruleOrder finding.ruleId, finding, patch⟩

end Profile

end ProseLinter
