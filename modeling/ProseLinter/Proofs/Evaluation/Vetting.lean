import ProseLinter.Proofs.Fix.Arrangement
import Mathlib.Data.List.Forall2

/-!
# What a rule hands over

What a rule hands over is taken whole or not at all. It is taken if every item is a finding that
lies in the text with its patch, and then the findings stand as they were handed over, under the id
of the rule. Otherwise one error stands for it.
-/

namespace ProseLinter

section

variable {α β ε : Type}

/-- That vetting a list takes something from each item that is good, and is refused at the first
that is not. -/
structure Vets (vet : List α → Except ε (List β)) (good : α → Prop) (take : α → List β) : Prop where
  nothing : vet [] = .ok []
  next : ∀ item rest,
    (good item ∧ vet (item :: rest) = (vet rest).map (take item ++ ·)) ∨
      (¬ good item ∧ ∃ cause, vet (item :: rest) = .error cause)

variable {vet : List α → Except ε (List β)} {good : α → Prop} {take : α → List β} {items : List α}

theorem Vets.all (vets : Vets vet good take) (sound : ∀ item ∈ items, good item) :
    vet items = .ok (items.flatMap take) := by
  induction items with
  | nil => exact vets.nothing
  | cons item rest induction =>
      have others := induction fun other member => sound other (List.mem_cons_of_mem item member)
      rcases vets.next item rest with ⟨-, step⟩ | ⟨bad, -⟩
      · rw [step, others, List.flatMap_cons]
        rfl
      · exact absurd (sound item List.mem_cons_self) bad

theorem Vets.refused (vets : Vets vet good take) (unsound : ¬ ∀ item ∈ items, good item) :
    ∃ cause, vet items = .error cause := by
  induction items with
  | nil => exact absurd (fun item member => nomatch member) unsound
  | cons item rest induction =>
      rcases vets.next item rest with ⟨first, step⟩ | ⟨-, refused⟩
      · have later : ¬ ∀ item ∈ rest, good item := by
          intro others
          exact unsound (List.forall_mem_cons.mpr ⟨first, others⟩)
        obtain ⟨cause, refused⟩ := induction later
        exact ⟨cause, by rw [step, refused, Except.map]⟩
      · exact refused

end

theorem mapM_of_pairs {α β ε : Type} {f : α → Except ε β} {items : List α} {good : α → β → Prop}
    (each : ∀ item ∈ items, ∃ made, f item = .ok made ∧ good item made) :
    ∃ results, items.mapM f = .ok results ∧ List.Forall₂ good items results := by
  induction items with
  | nil => exact ⟨[], rfl, .nil⟩
  | cons first rest induction =>
      obtain ⟨made, own, fine⟩ := each first List.mem_cons_self
      obtain ⟨results, others, all_fine⟩ :=
        induction fun item member => each item (List.mem_cons_of_mem first member)
      refine ⟨made :: results, ?_, .cons fine all_fine⟩
      rw [List.mapM_cons, own, others]
      rfl

theorem mapM_of_each {α β ε : Type} {f : α → Except ε β} {items : List α} {good : β → Prop}
    (each : ∀ item ∈ items, ∃ made, f item = .ok made ∧ good made) :
    ∃ results, items.mapM f = .ok results ∧ ∀ made ∈ results, good made := by
  have paired : ∃ results, items.mapM f = .ok results ∧
      List.Forall₂ (fun _ made => good made) items results :=
    mapM_of_pairs each
  obtain ⟨results, mapped, pairs⟩ := paired
  refine ⟨results, mapped, ?_⟩
  clear mapped each
  induction pairs with
  | nil => exact fun made member => absurd member List.not_mem_nil
  | cons fine _ induction => exact List.forall_mem_cons.mpr ⟨fine, induction⟩

/-- That an item is a finding which lies, with its patch, in a text of the given length. -/
def Supplied.IsSound (length : Nat) (item : Supplied Finding) : Prop :=
  ∃ finding, item = .proper finding ∧ finding.span.stop ≤ length ∧
    ∀ patch, finding.fix = some patch → patch.span.stop ≤ length

namespace Finding

def attributedTo (ruleId : String) (finding : Finding) : Finding := { finding with ruleId }

/-- The findings among what was handed over, in their order and under the id of a rule. -/
def taken (ruleId : String) (produced : List (Supplied Finding)) : List Finding :=
  produced.filterMap fun item => item.thing?.map (attributedTo ruleId)

def takenFrom (ruleId : String) (item : Supplied Finding) : List Finding :=
  (item.thing?.map (attributedTo ruleId)).toList

theorem vets (ruleId : String) (length : Nat) :
    Vets (vet ruleId length) (Supplied.IsSound length) (takenFrom ruleId) where
  nothing := rfl
  next := by
    intro item rest
    cases item with
    | other kindName =>
        refine .inr ⟨?_, _, rfl⟩
        rintro ⟨finding, same, -⟩
        cases same
    | proper finding =>
        by_cases within : finding.span.stop ≤ length
        · have near : finding.span.isWithin length = true := decide_eq_true within
          cases outside : finding.fix.filter fun patch => !patch.span.isWithin length with
          | none =>
              refine .inl ⟨⟨finding, rfl, within, ?_⟩, ?_⟩
              · intro patch carried
                simpa [carried, Span.isWithin] using outside
              · simp [vet, near, outside, takenFrom, Supplied.thing?, attributedTo]
          | some patch =>
              obtain ⟨carried, far⟩ := Option.filter_eq_some_iff.mp outside
              refine .inr ⟨?_, .fixOutside patch.span length, ?_⟩
              · rintro ⟨other, same, -, close⟩
                cases same
                simp [Span.isWithin, close patch carried] at far
              · simp [vet, near, outside]
        · refine .inr ⟨?_, .spanOutside finding.span length, ?_⟩
          · rintro ⟨other, same, near, -⟩
            cases same
            exact within near
          · simp [vet, within, Span.isWithin]

theorem vet_sound (ruleId : String) {length : Nat} {produced : List (Supplied Finding)}
    (sound : ∀ item ∈ produced, item.IsSound length) :
    vet ruleId length produced = .ok (taken ruleId produced) := by
  have whole := (vets ruleId length).all sound
  have same : taken ruleId produced = produced.flatMap (takenFrom ruleId) :=
    List.filterMap_eq_flatMap_toList _ _
  rw [whole, same]

theorem mem_taken {ruleId : String} {produced : List (Supplied Finding)} {finding : Finding} :
    finding ∈ taken ruleId produced ↔
      ∃ own, .proper own ∈ produced ∧ own.attributedTo ruleId = finding := by
  rw [taken, List.mem_filterMap]
  constructor
  · rintro ⟨item, handed, same⟩
    cases item with
    | proper own => exact ⟨own, handed, Option.some.inj same⟩
    | other kindName => cases same
  · rintro ⟨own, handed, same⟩
    exact ⟨.proper own, handed, congrArg some same⟩

theorem taken_sound {ruleId : String} {length : Nat} {produced : List (Supplied Finding)}
    (sound : ∀ item ∈ produced, item.IsSound length) {finding : Finding}
    (member : finding ∈ taken ruleId produced) :
    finding.span.stop ≤ length ∧ ∀ patch, finding.fix = some patch → patch.span.stop ≤ length := by
  obtain ⟨own, handed, same⟩ := mem_taken.mp member
  obtain ⟨other, proper, within⟩ := sound _ handed
  cases proper
  rw [← same]
  exact within

theorem taken_within {ruleId : String} {length : Nat} {produced : List (Supplied Finding)}
    (sound : ∀ item ∈ produced, item.IsSound length) {finding : Finding}
    (member : finding ∈ taken ruleId produced) :
    finding.span.stop ≤ length :=
  (taken_sound sound member).1

theorem taken_attributed {ruleId : String} {produced : List (Supplied Finding)} {finding : Finding}
    (member : finding ∈ taken ruleId produced) : finding.ruleId = ruleId := by
  obtain ⟨own, -, same⟩ := mem_taken.mp member
  rw [← same]
  rfl

end Finding

namespace DocumentCheck

/-- That a check of a document hands over what is taken. -/
def Delivers (check : DocumentCheck) (context : RuleContext) (document : Document)
    (produced : List (Supplied Finding)) : Prop :=
  check.evaluate context document = .ok produced ∧ ∀ item ∈ produced, item.IsSound document.length

/-- That the check words no failure in the name of another rule. -/
def OwnsFaults (check : DocumentCheck) (context : RuleContext) (document : Document) : Prop :=
  ∀ fault, check.evaluate context document = .error (.rule fault) → fault.ruleId = context.ruleId

variable {check : DocumentCheck} {context : RuleContext} {document : Document}
  {produced : List (Supplied Finding)}

theorem findings_of_delivers (delivers : check.Delivers context document produced) :
    check.findings context document = Finding.taken context.ruleId produced := by
  simp only [findings, run, delivers.1, Finding.vet_sound context.ruleId delivers.2]

theorem ruleId_of_fault (context : RuleContext) (fault : Fault)
    (own : ∀ worded, fault = .rule worded → worded.ruleId = context.ruleId) :
    (RuleFault.ofFault context.ruleId fault).ruleId = context.ruleId := by
  cases fault with
  | rule worded => exact own worded rfl
  | _ => rfl

theorem findings_of_failure (fails : ∀ produced, ¬ check.Delivers context document produced) :
    ∃ fault : RuleFault, check.findings context document = [fault.finding] ∧
      (check.OwnsFaults context document → fault.ruleId = context.ruleId) := by
  cases handed : check.evaluate context document with
  | error fault =>
      refine ⟨.ofFault context.ruleId fault, by rw [findings, run, handed], ?_⟩
      intro own
      exact ruleId_of_fault context fault fun worded same => own worded (same ▸ handed)
  | ok produced =>
      have unsound : ¬ ∀ item ∈ produced, item.IsSound document.length :=
        fun sound => fails produced ⟨handed, sound⟩
      obtain ⟨cause, refused⟩ := (Finding.vets context.ruleId document.length).refused unsound
      exact ⟨⟨context.ruleId, cause⟩, by simp only [findings, run, handed, refused], fun _ => rfl⟩

theorem delivers_or_fails (check : DocumentCheck) (context : RuleContext) (document : Document) :
    (∃ produced, check.Delivers context document produced) ∨
      ∀ produced, ¬ check.Delivers context document produced :=
  (Classical.em _).imp_right not_exists.mp

theorem findings_within {finding : Finding} (member : finding ∈ check.findings context document) :
    finding.span.stop ≤ document.length := by
  rcases check.delivers_or_fails context document with ⟨produced, delivers⟩ | fails
  · rw [findings_of_delivers delivers] at member
    exact Finding.taken_within delivers.2 member
  · obtain ⟨fault, only, -⟩ := findings_of_failure fails
    rw [only, List.mem_singleton] at member
    rw [member]
    exact Nat.zero_le _

theorem findings_fix_within {finding : Finding} {patch : Patch}
    (member : finding ∈ check.findings context document) (carried : finding.fix = some patch) :
    patch.span.stop ≤ document.length := by
  rcases check.delivers_or_fails context document with ⟨produced, delivers⟩ | fails
  · rw [findings_of_delivers delivers] at member
    exact (Finding.taken_sound delivers.2 member).2 patch carried
  · obtain ⟨fault, only, -⟩ := findings_of_failure fails
    rw [only, List.mem_singleton] at member
    rw [member] at carried
    cases carried

theorem findings_attributed (own : check.OwnsFaults context document) {finding : Finding}
    (member : finding ∈ check.findings context document) : finding.ruleId = context.ruleId := by
  rcases check.delivers_or_fails context document with ⟨produced, delivers⟩ | fails
  · rw [findings_of_delivers delivers] at member
    exact Finding.taken_attributed member
  · obtain ⟨fault, only, owned⟩ := findings_of_failure fails
    rw [only, List.mem_singleton] at member
    rw [member]
    exact owned own

end DocumentCheck

namespace Profile

variable (profile : Profile) (document : Document)

theorem evaluate_within {finding : Finding} (member : finding ∈ profile.evaluate document) :
    finding.span.stop ≤ document.length := by
  apply profile.arrange_within document _ member
  intro given handed
  obtain ⟨⟨context, check⟩, -, handed⟩ := List.mem_flatMap.mp handed
  exact DocumentCheck.findings_within handed

theorem evaluate_fix_within {finding : Finding} {patch : Patch}
    (member : finding ∈ profile.evaluate document) (carried : finding.fix = some patch) :
    patch.span.stop ≤ document.length := by
  obtain ⟨given, handed, same⟩ := (profile.mem_arrange document).mp member
  obtain ⟨⟨context, check⟩, -, handed⟩ := List.mem_flatMap.mp handed
  rw [← same] at carried
  exact DocumentCheck.findings_fix_within handed carried

end Profile

end ProseLinter
