import ProseLinter.Proofs.Evaluation.Vetting
import ProseLinter.Proofs.Text.Excerpts
import ProseLinter.Rule.Emoji

/-!
# Safe checks

A check is safe on a document if it hands over findings there and nothing else, and each of them
lies in the text, deletes at most code points that may be spared, and does not read like the failure
of a rule. Whatever a safe check hands over is taken.
-/

namespace ProseLinter

/-- The code points that a fix may delete: spaces and tabs, and those that emoji are made of. -/
def isExpendable (c : Char) : Bool :=
  isSpaceOrTab c || Emoji.isBase c || Emoji.isModifier c || c == Emoji.joiner

/-- That a patch deletes a part of a text where only such code points stand. -/
structure Patch.Clears (text : Text) (patch : Patch) : Prop where
  within : patch.span.stop ≤ text.length
  deletes : patch.replacement = []
  expendable : ∀ c ∈ patch.span.read text, isExpendable c = true

namespace Finding

/-- That a finding reads like one that tells of the failure of a rule. -/
def IsFailure (finding : Finding) : Prop := ∃ fault : RuleFault, finding.text = fault.message

/-- What a finding of a safe check keeps to. -/
structure Suits (text : Text) (finding : Finding) : Prop where
  within : finding.span.stop ≤ text.length
  clears : ∀ patch, finding.fix = some patch → patch.Clears text
  no_failure : ¬ finding.IsFailure

variable {text : Text} {finding : Finding}

theorem not_failure_of_head {c : Char} (opens : finding.text.toList.head? = some c)
    (other : c ≠ 'R') :
    ¬ finding.IsFailure := by
  rintro ⟨fault, same⟩
  have opens_alike : finding.text.toList.head? = some 'R' := by
    rw [same]
    simp [RuleFault.message]
  rw [opens, Option.some.injEq] at opens_alike
  exact other opens_alike

theorem Suits.sound (suits : finding.Suits text) : Supplied.IsSound text.length (.proper finding) :=
  ⟨finding, rfl, suits.within, fun patch carried => (suits.clears patch carried).within⟩

theorem Suits.attributedTo (suits : finding.Suits text) (ruleId : String) :
    (finding.attributedTo ruleId).Suits text :=
  ⟨suits.within, suits.clears, suits.no_failure⟩

theorem suits_unfixed (within : finding.span.stop ≤ text.length) (unfixed : finding.fix = none)
    (no_failure : ¬ finding.IsFailure) : finding.Suits text := by
  refine ⟨within, ?_, no_failure⟩
  intro patch carried
  rw [unfixed] at carried
  cases carried

end Finding

theorem Excerpt.StandsIn.clears {text : Text} {excerpt : Excerpt} (stands : excerpt.StandsIn text)
    (expendable : ∀ c ∈ excerpt.text, isExpendable c = true) :
    (Patch.delete excerpt.span).Clears text := by
  refine ⟨stands.within, rfl, ?_⟩
  intro c member
  exact expendable c (stands.read ▸ member)

namespace DocumentCheck

/-- That a check hands over findings about a document, all of which suit its text. -/
def IsSafe (check : DocumentCheck) (context : RuleContext) (document : Document) : Prop :=
  ∃ found : List Finding, check.evaluate context document = .ok (found.map .proper) ∧
    ∀ finding ∈ found, finding.Suits document.text

variable {check : DocumentCheck} {context : RuleContext} {document : Document}

theorem IsSafe.delivers (safe : check.IsSafe context document) :
    ∃ produced, check.Delivers context document produced := by
  obtain ⟨found, handed, suit⟩ := safe
  refine ⟨_, handed, ?_⟩
  intro item member
  obtain ⟨finding, known, same⟩ := List.mem_map.mp member
  exact same ▸ (suit finding known).sound

theorem handed_of_findings {produced : List (Supplied Finding)} {found : List Finding}
    {finding : Finding} (delivers : check.Delivers context document produced)
    (handed : check.evaluate context document = .ok (found.map .proper))
    (said : finding ∈ check.findings context document) :
    ∃ own ∈ found, own.attributedTo context.ruleId = finding := by
  rw [findings_of_delivers delivers, Finding.mem_taken] at said
  obtain ⟨own, known, same⟩ := said
  have produces : produced = found.map .proper := Except.ok.inj (delivers.1.symm.trans handed)
  rw [produces] at known
  obtain ⟨other, member, proper⟩ := List.mem_map.mp known
  cases proper
  exact ⟨own, member, same⟩

theorem IsSafe.findings_suit (safe : check.IsSafe context document) :
    ∀ finding ∈ check.findings context document, finding.Suits document.text := by
  obtain ⟨produced, delivers⟩ := safe.delivers
  obtain ⟨found, handed, suit⟩ := safe
  intro finding said
  obtain ⟨own, member, same⟩ := handed_of_findings delivers handed said
  rw [← same]
  exact (suit own member).attributedTo context.ruleId

end DocumentCheck

namespace Options

theorem prepare_of_read {Settings Check : Type} {read : Value → Except OptionFault Settings}
    {options : Value} {settings : Settings} (known : read options = .ok settings) (ruleId : String)
    (check : Settings → Check) :
    prepare ruleId read check options = .ok (check settings) := by
  rw [prepare, known]

theorem prepare_eq_ok {Settings Check : Type} {ruleId : String}
    {read : Value → Except OptionFault Settings} {check : Settings → Check} {options : Value}
    {prepared : Check} (accepted : prepare ruleId read check options = .ok prepared) :
    ∃ settings, read options = .ok settings ∧ prepared = check settings := by
  rw [prepare] at accepted
  cases known : read options with
  | error fault =>
      rw [known] at accepted
      cases accepted
  | ok settings =>
      rw [known, Except.ok.injEq] at accepted
      exact ⟨settings, rfl, accepted.symm⟩

theorem documentCheck_safe {settings : Value} {find : RuleContext → Document → List Finding}
    {context : RuleContext} {document : Document}
    (suit : ∀ finding ∈ find context document, finding.Suits document.text) :
    (documentCheck settings find).IsSafe context document :=
  ⟨find context document, rfl, suit⟩

end Options

end ProseLinter
