import ProseLinter.Proofs.Evaluation.Vetting
import ProseLinter.Proofs.Fix.Arrangement
import ProseLinter.Proofs.Profile.Build

/-!
# Rules do not see each other

What a rule has to say about a document is the same whatever other rules there are, whether they are
sound or fail, and wherever they stand. The findings of all rules are put in one order, and those of
one rule stand in it as they would stand alone.
-/

namespace ProseLinter

def EnabledRule.findings (rule : EnabledRule) (document : Document) : List Finding :=
  match rule.check with
  | .document check => check.findings rule.context document
  | .session _ => []

namespace Profile

/-- That no rule words its failure in the name of another. -/
def OwnsFaults (profile : Profile) (document : Document) : Prop :=
  ∀ rule ∈ profile.rules, ∀ check, rule.check = .document check →
    check.OwnsFaults rule.context document

variable {profile : Profile} {document : Document} {rule : EnabledRule} {rules : List EnabledRule}

theorem evaluate_eq_arrange (profile : Profile) (document : Document) :
    profile.evaluate document = profile.arrange document
      (profile.rules.flatMap (·.findings document)) := by
  rw [evaluate, documentChecks]
  congr 1
  induction profile.rules with
  | nil => rfl
  | cons rule rest induction =>
      rw [List.flatMap_cons, ← induction, EnabledRule.findings, List.filterMap_cons]
      cases rule.check with
      | document check => rfl
      | session check => rfl

theorem evaluate_alone (profile : Profile) (rule : EnabledRule) (document : Document) :
    (profile.alone rule).evaluate document =
      (profile.alone rule).arrange document (rule.findings document) := by
  rw [evaluate_eq_arrange, alone, List.flatMap_singleton]

theorem findings_attributed (own : profile.OwnsFaults document) (member : rule ∈ profile.rules)
    {finding : Finding} (said : finding ∈ rule.findings document) : finding.ruleId = rule.id := by
  rw [EnabledRule.findings] at said
  cases made : rule.check with
  | document check =>
      rw [made] at said
      exact DocumentCheck.findings_attributed (own rule member check made) said
  | session check =>
      rw [made] at said
      cases said

theorem evaluate_attributed (own : profile.OwnsFaults document) {finding : Finding}
    (member : finding ∈ profile.evaluate document) :
    ∃ rule ∈ profile.rules, finding.ruleId = rule.id := by
  rw [evaluate_eq_arrange, mem_arrange] at member
  obtain ⟨given, contributed, same⟩ := member
  obtain ⟨rule, there, said⟩ := List.mem_flatMap.mp contributed
  have attributed : given.ruleId = rule.id := findings_attributed own there said
  refine ⟨rule, there, ?_⟩
  rw [← same]
  exact attributed

/-- Of what all rules contribute, the part under the id of a rule is what that rule contributes. -/
theorem filter_contributions (distinct : (rules.map (·.id)).Nodup)
    (attributed : ∀ rule ∈ rules, ∀ finding ∈ rule.findings document, finding.ruleId = rule.id)
    (member : rule ∈ rules) :
    (rules.flatMap (·.findings document)).filter (·.ruleId == rule.id) =
      rule.findings document := by
  -- On the rules: what the first contributes is kept whole if it is the rule asked for, and left
  -- out whole if not.
  induction rules with
  | nil => cases member
  | cons first rest induction =>
      rw [List.map_cons, List.nodup_cons] at distinct
      rw [List.flatMap_cons, List.filter_append]
      have later : ∀ rule ∈ rest, ∀ finding ∈ rule.findings document, finding.ruleId = rule.id :=
        fun rule member => attributed rule (List.mem_cons_of_mem first member)
      rcases List.mem_cons.mp member with same | member
      · subst same
        have own : (rule.findings document).filter (·.ruleId == rule.id) =
            rule.findings document := by
          rw [List.filter_eq_self]
          intro finding said
          exact beq_iff_eq.mpr (attributed rule List.mem_cons_self finding said)
        have others : (rest.flatMap (·.findings document)).filter (·.ruleId == rule.id) = [] := by
          rw [List.filter_eq_nil_iff]
          intro finding said alike
          obtain ⟨other, there, said⟩ := List.mem_flatMap.mp said
          have ids : other.id = rule.id :=
            (later other there finding said).symm.trans (beq_iff_eq.mp alike)
          exact distinct.1 (ids ▸ List.mem_map.mpr ⟨other, there, rfl⟩)
        rw [own, others, List.append_nil]
      · have others : (first.findings document).filter (·.ruleId == rule.id) = [] := by
          rw [List.filter_eq_nil_iff]
          intro finding said alike
          have ids : first.id = rule.id :=
            (attributed first List.mem_cons_self finding said).symm.trans (beq_iff_eq.mp alike)
          exact distinct.1 (ids ▸ List.mem_map.mpr ⟨rule, member, rfl⟩)
        rw [others, List.nil_append]
        exact induction distinct.2 later member

theorem evaluate_of_rule (distinct : (profile.rules.map (·.id)).Nodup)
    (own : profile.OwnsFaults document) (member : rule ∈ profile.rules) :
    (profile.evaluate document).filter (·.ruleId == rule.id) =
      profile.arrange document (rule.findings document) := by
  have attributed : ∀ rule ∈ profile.rules, ∀ finding ∈ rule.findings document,
      finding.ruleId = rule.id :=
    fun rule member finding => findings_attributed own member
  rw [evaluate_eq_arrange, filter_arrange, filter_contributions distinct attributed member]
  exact fun finding => rfl

/-- The findings of a rule stand as they would with that rule alone, in this profile or in
another. -/
theorem evaluate_of_rule_alone (other : Profile) (distinct : (profile.rules.map (·.id)).Nodup)
    (own : profile.OwnsFaults document) (member : rule ∈ profile.rules) :
    (profile.evaluate document).filter (·.ruleId == rule.id) =
      (other.alone rule).evaluate document := by
  rw [evaluate_of_rule distinct own member, evaluate_alone]
  exact profile.arrange_one_rule document _ fun finding => findings_attributed own member

theorem evaluate_tied (distinct : (profile.rules.map (·.id)).Nodup)
    (own : profile.OwnsFaults document) (member : rule ∈ profile.rules) (start : Nat) :
    ((profile.evaluate document).filter (·.ruleId == rule.id)).filter (·.span.start == start) =
      ((rule.findings document).filter (·.span.start == start)).map
        (Finding.locatedIn document) := by
  rw [evaluate_of_rule distinct own member, filter_arrange _ _ (fun finding => rfl),
    arrange_eq_sorted]
  apply List.mergeSort_of_pairwise
  apply List.pairwise_of_forall_mem_list
  intro earlier early later late
  obtain ⟨first, first_member, first_located⟩ := List.mem_map.mp early
  obtain ⟨second, second_member, second_located⟩ := List.mem_map.mp late
  obtain ⟨first_said, first_start⟩ := List.mem_filter.mp first_member
  obtain ⟨second_said, second_start⟩ := List.mem_filter.mp second_member
  have one_rule : first.ruleId = second.ruleId :=
    (findings_attributed own member first_said).trans
      (findings_attributed own member second_said).symm
  have one_start : first.span.start = second.span.start :=
    (beq_iff_eq.mp first_start).trans (beq_iff_eq.mp second_start).symm
  rw [ordered_iff, Precedes, ← first_located, ← second_located]
  exact .inr ⟨one_start, Nat.le_of_eq (congrArg profile.ruleOrder one_rule)⟩

theorem evaluate_located {finding : Finding} (member : finding ∈ profile.evaluate document) :
    finding.span.stop ≤ document.length ∧
      ∃ location, document.lineMap.locationOf finding.span = .ok location ∧
      finding.location = some location := by
  have within := profile.evaluate_within document member
  exact ⟨within, profile.arrange_placed document member within⟩

end Profile

theorem EnabledRule.findings_of_delivers {rule : EnabledRule} {check : DocumentCheck}
    {document : Document} {produced : List (Supplied Finding)} (made : rule.check = .document check)
    (delivers : check.Delivers rule.context document produced) :
    rule.findings document = Finding.taken rule.id produced := by
  rw [findings, made]
  exact DocumentCheck.findings_of_delivers delivers

theorem EnabledRule.findings_of_failure {rule : EnabledRule} {check : DocumentCheck}
    {document : Document} (made : rule.check = .document check)
    (own : check.OwnsFaults rule.context document)
    (fails : ∀ produced, ¬ check.Delivers rule.context document produced) :
    ∃ cause, rule.findings document = [(⟨rule.id, cause⟩ : RuleFault).finding] := by
  obtain ⟨fault, only, owned⟩ := DocumentCheck.findings_of_failure fails
  have same : fault = ⟨rule.id, fault.cause⟩ := congrArg (RuleFault.mk · fault.cause) (owned own)
  rw [findings, made]
  exact ⟨fault.cause, same ▸ only⟩

def DocumentCheck.pointing (spans : List Span) : DocumentCheck where
  settings := .null
  evaluate := fun context _ => .ok (spans.map fun span => .proper (context.report span "here" none))

def RuleEntry.pointing (id : String) (spans : List Span) : RuleEntry :=
  ⟨id, .proper (.document ⟨id, "", .info, false, fun _ => .ok (.pointing spans)⟩), .null, none⟩

def EnabledRule.pointing (id : String) (spans : List Span) : EnabledRule :=
  ⟨id, .document ⟨id, "", .info, false, fun _ => .ok (.pointing spans)⟩, .null, none,
    .document (.pointing spans)⟩

/-- Linting is composed of its rules. If no rule fails in the name of another, then what a rule says
about a document is what it says where it is the only rule, and what it says in every other profile;
the other rules may be any, in any order, and may fail. All findings are those of some rule, lie in
the text, carry their location and stand by where they start and by the order of their rules. Those
of a sound check that start at one place stand as it handed them over, and a check that fails says
one thing. -/
theorem linting_is_compositional (entries : List RuleEntry) (formats : List FormatEntry)
    (configuration : Entries) (profile : Profile) (document : Document)
    (accepted : Profile.build entries formats configuration = .ok profile)
    (own : profile.OwnsFaults document) :
    (∀ finding ∈ profile.evaluate document, finding.ruleId ∈ entries.map (·.id) ∧
      finding.span.stop ≤ document.length ∧
      ∃ location, document.lineMap.locationOf finding.span = .ok location ∧
      finding.location = some location) ∧
    (profile.evaluate document).Pairwise profile.Precedes ∧
    (∀ (place : Nat) rule, profile.rules[place]? = some rule → profile.ruleOrder rule.id = place) ∧
    ∀ entry ∈ entries, ∃ rule ∈ profile.rules, entry.enable = .ok rule ∧
      let said := (profile.evaluate document).filter (·.ruleId == entry.id)
      Profile.build [entry] formats configuration = .ok (profile.alone rule) ∧
      said = (profile.alone rule).evaluate document ∧
      (∀ others otherFormats otherConfiguration other,
        Profile.build others otherFormats otherConfiguration = .ok other → entry ∈ others →
          other.OwnsFaults document →
          (other.evaluate document).filter (·.ruleId == entry.id) = said) ∧
      ∀ check, rule.check = .document check →
        (∀ produced, check.Delivers rule.context document produced → ∀ start,
          said.filter (·.span.start == start) =
            ((Finding.taken entry.id produced).filter (·.span.start == start)).map
              (Finding.locatedIn document)) ∧
        ((∀ produced, ¬ check.Delivers rule.context document produced) →
          ∃ cause, said = [(⟨entry.id, cause⟩ : RuleFault).finding.locatedIn document]) := by
  have distinct := Profile.rules_distinct accepted
  refine ⟨?_, (profile.arrange_sorts document _).in_order,
    fun place rule => Profile.ruleOrder_of_place distinct, ?_⟩
  · intro finding member
    obtain ⟨rule, there, same⟩ := Profile.evaluate_attributed own member
    refine ⟨?_, Profile.evaluate_located member⟩
    rw [same, ← Profile.rule_ids accepted]
    exact List.mem_map.mpr ⟨rule, there, rfl⟩
  intro entry member
  obtain ⟨rule, there, enabled⟩ := Profile.exists_rule accepted member
  have named : rule.id = entry.id := RuleEntry.id_of_enable enabled
  refine ⟨rule, there, enabled, ?_⟩
  rw [← named]
  refine ⟨Profile.build_alone accepted member enabled,
    Profile.evaluate_of_rule_alone profile distinct own there, ?_, ?_⟩
  · intro others otherFormats otherConfiguration other other_accepted other_member other_own
    obtain ⟨same, other_there, other_enabled⟩ := Profile.exists_rule other_accepted other_member
    rw [enabled, Except.ok.injEq] at other_enabled
    subst other_enabled
    rw [Profile.evaluate_of_rule_alone profile
      (Profile.rules_distinct other_accepted) other_own other_there,
      Profile.evaluate_of_rule_alone profile distinct own there]
  · intro check made
    refine ⟨?_, ?_⟩
    · intro produced delivers start
      rw [← EnabledRule.findings_of_delivers made delivers]
      exact Profile.evaluate_tied distinct own there start
    · intro fails
      obtain ⟨cause, only⟩ := EnabledRule.findings_of_failure made (own rule there check made) fails
      refine ⟨cause, ?_⟩
      rw [Profile.evaluate_of_rule distinct own there, only, Profile.arrange_eq_sorted,
        List.map_singleton, List.mergeSort_singleton]

/-- Of two rules the first points out of the text: it says one thing, and the second says what it
says alone. -/
theorem far_rule_disturbs_no_other :
    let near := [⟨2, 3, by decide⟩, ⟨0, 1, by decide⟩]
    let far := [⟨0, 1, by decide⟩, ⟨0, 9, by decide⟩]
    let formats : List FormatEntry := [⟨"text", .proper Format.plainText⟩]
    let text : Text := ['a', 'b', 'c']
    let document : Document :=
      ⟨"d", text, .branch .document (Span.ofLength 0 3) [.leaf .prose 0 text], "txt"⟩
    ∃ profile alone,
      Profile.build [.pointing "far" far, .pointing "near" near] formats [] = .ok profile ∧
      Profile.build [.pointing "near" near] formats [] = .ok alone ∧
      profile.OwnsFaults document ∧
      (profile.evaluate document).filter (·.ruleId == "near") = alone.evaluate document ∧
      ∃ cause, (profile.evaluate document).filter (·.ruleId == "far") =
        [(⟨"far", cause⟩ : RuleFault).finding.locatedIn document] := by
  intro near far formats text document
  let rules : List EnabledRule := [.pointing "far" far, .pointing "near" near]
  let profile : Profile := ⟨rules, [⟨"text", Format.plainText⟩], []⟩
  have accepted : Profile.build [.pointing "far" far, .pointing "near" near] formats [] =
      .ok profile := rfl
  have own : profile.OwnsFaults document := by
    intro rule member check made fault failed
    have known : rule ∈ rules := member
    rcases List.mem_cons.mp known with first | others
    · subst first
      cases made
      cases failed
    · rw [List.mem_singleton.mp others] at made
      cases made
      cases failed
  obtain ⟨-, -, -, each⟩ := linting_is_compositional _ _ _ profile document accepted own
  obtain ⟨rule, -, -, alone, unmoved, -⟩ := each (.pointing "near" near) (by simp)
  obtain ⟨other, -, enabled, -, -, -, speaks⟩ := each (.pointing "far" far) (by simp)
  cases enabled
  refine ⟨profile, _, accepted, alone, own, unmoved, (speaks _ rfl).2 ?_⟩
  intro produced delivers
  obtain ⟨handed, sound⟩ := delivers
  cases handed
  obtain ⟨finding, same, within, -⟩ := sound _ (List.mem_cons_of_mem _ List.mem_cons_self)
  cases same
  exact absurd within (by decide)

end ProseLinter
