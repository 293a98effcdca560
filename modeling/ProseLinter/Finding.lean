import ProseLinter.Position
import ProseLinter.Value

/-!
Findings: what a rule reports. A finding says which rule made it, how severe it is, where it is and
what is wrong, and may carry a patch that would mend it. Its span and its patch belong to the
version of the text they were made for.
-/

namespace ProseLinter

inductive Severity where
  | info
  | warning
  | error
deriving Repr, DecidableEq

namespace Severity

def all : List Severity := [info, warning, error]

def name : Severity → String
  | info => "info"
  | warning => "warning"
  | error => "error"

def title : Severity → String
  | info => "Info"
  | warning => "Warning"
  | error => "Error"

end Severity

/-- A change to a text: the part that a span covers is exchanged for a replacement. -/
structure Patch where
  span : Span
  replacement : Text
deriving Repr, DecidableEq

namespace Patch

def delete (span : Span) : Patch := ⟨span, []⟩

def insert (offset : Nat) (text : Text) : Patch := ⟨Span.point offset, text⟩

def isIdle (patch : Patch) (text : Text) : Bool := patch.span.read text == patch.replacement

def conflicts (a b : Patch) : Bool := a.span.overlaps b.span

def apply (patch : Patch) (text : Text) : Text :=
  text.splice patch.span.start patch.span.stop patch.replacement

end Patch

structure Finding where
  ruleId : String
  severity : Severity
  span : Span
  text : String
  fix : Option Patch := none
  location : Option Location := none
deriving Repr, DecidableEq

namespace Finding

def isFixable (finding : Finding) : Bool := finding.fix.isSome

/-- The position at which reports place the finding: where it starts, or the start of the text if it
is not located. -/
def position (finding : Finding) : Position :=
  match finding.location with
  | some location => location.start
  | none => ⟨1, 1⟩

end Finding

end ProseLinter
