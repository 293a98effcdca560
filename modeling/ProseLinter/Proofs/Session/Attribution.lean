import ProseLinter.Proofs.Evaluation.Composition
import ProseLinter.Proofs.Fix.Accounts
import ProseLinter.Proofs.Session.Batch

/-!
# Where findings come from

Every finding in a result was said by a rule or is a notice of the run itself. What a rule says
carries its id, however it fails, with one exception: a rule that raises a failure worded in another
name is told of under that name.
-/

namespace ProseLinter

/-- That a finding stands under one of the ids that a session keeps for itself. -/
def Finding.IsNotice (finding : Finding) : Prop :=
  ∃ notice : Notice, notice ≠ .readError ∧ finding.ruleId = notice.ruleId

theorem FixEnding.notices_are_notices {count : Nat} {ending : FixEnding} {finding : Finding}
    (member : finding ∈ ending.notices count) : finding.IsNotice := by
  cases ending with
  | converged => cases member
  | limited =>
      rw [List.mem_singleton.mp member]
      exact ⟨.fixLimit, by decide, rfl⟩
  | rolledBack fault =>
      rw [List.mem_singleton.mp member]
      exact ⟨.fixUnsafe, by decide, rfl⟩

theorem Outcome.unprocessed_is_noticed {outcome : Outcome} (missing : outcome.document? = none) :
    (∀ finding ∈ outcome.result.findings, finding.IsNotice) ∧ outcome.result.applied = [] := by
  cases outcome with
  | processed work => cases missing
  | failed source fault =>
      cases fault with
      | unsupportedKind kind =>
          exact ⟨List.forall_mem_singleton.mpr ⟨.unsupportedKind, by decide, rfl⟩, rfl⟩
      | parse fault => exact ⟨List.forall_mem_singleton.mpr ⟨.parseError, by decide, rfl⟩, rfl⟩
      | _ => exact ⟨List.forall_mem_singleton.mpr ⟨.internalError, by decide, rfl⟩, rfl⟩
  | expired source seconds => exact ⟨List.forall_mem_singleton.mpr ⟨.timeout, by decide, rfl⟩, rfl⟩

namespace DocumentCheck

variable {check : DocumentCheck} {context : RuleContext} {document : Document} {finding : Finding}

theorem findings_named (said : finding ∈ check.findings context document) :
    finding.ruleId = context.ruleId ∨
      ∃ fault : RuleFault, check.evaluate context document = .error (.rule fault) ∧
      fault.ruleId ≠ context.ruleId ∧
        finding = fault.finding := by
  by_cases own : check.OwnsFaults context document
  · exact .inl (findings_attributed own said)
  · simp only [OwnsFaults, not_forall] at own
    obtain ⟨fault, raised, foreign⟩ := own
    have only : check.findings context document = [fault.finding] := by
      rw [findings, run, raised]
      rfl
    rw [only, List.mem_singleton] at said
    exact .inr ⟨fault, raised, foreign, said⟩

end DocumentCheck

namespace SessionCheck

variable {check : SessionCheck} {context : RuleContext} {documents : List Document} {id : String}
  {finding : Finding}

theorem findings_attributed (own : check.OwnsFaults context documents)
    (reported : finding ∈ (check.findings context documents).under id) :
    finding.ruleId = context.ruleId := by
  by_cases delivers : ∃ produced, check.Delivers context documents produced
  · obtain ⟨produced, delivers⟩ := delivers
    rw [findings_of_delivers delivers] at reported
    exact Finding.taken_attributed reported
  · obtain ⟨fault, failed, owned⟩ := run_of_failure (not_exists.mp delivers)
    rw [under_of_failure failed, List.mem_ite_nil_right, List.mem_singleton] at reported
    rw [reported.2]
    exact owned own

theorem findings_named (reported : finding ∈ (check.findings context documents).under id) :
    finding.ruleId = context.ruleId ∨
      ∃ fault : RuleFault, check.evaluate context documents = .error (.rule fault) ∧
      fault.ruleId ≠ context.ruleId ∧
        finding = fault.finding := by
  by_cases own : check.OwnsFaults context documents
  · exact .inl (findings_attributed own reported)
  · simp only [OwnsFaults, not_forall] at own
    obtain ⟨fault, raised, foreign⟩ := own
    have failed : check.run context documents = .error fault := by
      rw [run, raised]
      rfl
    rw [under_of_failure failed, List.mem_ite_nil_right, List.mem_singleton] at reported
    exact .inr ⟨fault, raised, foreign, reported.2⟩

end SessionCheck

namespace EnabledRule

section

variable (rule : EnabledRule) (batch : List Document) (document : Document)

def reports (id : String) : List Finding :=
  match rule.check with
  | .document _ => []
  | .session check => (check.findings rule.context batch).under id

/-- That a rule fails with a fault of its own when it is asked about a document or about a batch. -/
def Raises (fault : Fault) : Prop :=
  match rule.check with
  | .document check => check.evaluate rule.context document = .error fault
  | .session check => check.evaluate rule.context batch = .error fault

/-- That a rule said a finding of a document, which is located in it. A document that is processed
by itself stands in the empty batch. -/
def Tells (finding : Finding) : Prop :=
  ∃ own ∈ rule.findings document ++ rule.reports batch document.id, own.locatedIn document = finding

/-- That a finding tells of a failure which the rule raised and worded in the name of another. -/
def Misnames (finding : Finding) : Prop :=
  ∃ fault : RuleFault, rule.Raises batch document (.rule fault) ∧ fault.ruleId ≠ rule.id ∧
    finding = fault.finding.locatedIn document

end

variable {rule : EnabledRule} {batch : List Document} {document : Document} {finding : Finding}
  {patch : Patch}

theorem Tells.named (tells : rule.Tells batch document finding) :
    finding.ruleId = rule.id ∨ rule.Misnames batch document finding := by
  obtain ⟨own, said, same⟩ := tells
  rw [← same]
  cases made : rule.check with
  | document check =>
      rw [findings, reports, made, List.append_nil] at said
      rcases DocumentCheck.findings_named said with named | ⟨fault, raised, foreign, worded⟩
      · exact .inl named
      · exact .inr ⟨fault, by rw [Raises, made]; exact raised, foreign, by rw [worded]⟩
  | session check =>
      rw [findings, reports, made, List.nil_append] at said
      rcases SessionCheck.findings_named said with named | ⟨fault, raised, foreign, worded⟩
      · exact .inl named
      · exact .inr ⟨fault, by rw [Raises, made]; exact raised, foreign, by rw [worded]⟩

theorem Tells.named_of_fix (tells : rule.Tells batch document finding)
    (carried : finding.fix = some patch) :
    finding.ruleId = rule.id := by
  rcases tells.named with named | ⟨fault, -, -, worded⟩
  · exact named
  · rw [worded] at carried
    cases carried

end EnabledRule

namespace Profile

variable {profile : Profile} {batch : List Document} {document : Document} {source : Source}
  {mode : Mode} {limit : Nat} {work : Processed} {finding : Finding}

theorem reports_eq_flatMap (profile : Profile) (batch : List Document) (id : String) :
    profile.reports batch id = profile.rules.flatMap (·.reports batch id) := by
  rw [reports, sessionChecks]
  induction profile.rules with
  | nil => rfl
  | cons rule rest induction =>
      rw [List.flatMap_cons, ← induction, EnabledRule.reports, List.filterMap_cons]
      cases rule.check with
      | document check => rfl
      | session check => rfl

theorem evaluate_told (batch : List Document) (member : finding ∈ profile.evaluate document) :
    ∃ rule ∈ profile.rules, rule.Tells batch document finding := by
  rw [evaluate_eq_arrange, mem_arrange] at member
  obtain ⟨own, contributed, same⟩ := member
  obtain ⟨rule, there, said⟩ := List.mem_flatMap.mp contributed
  exact ⟨rule, there, own, List.mem_append_left _ said, same⟩

theorem reports_told (reported : finding ∈ profile.reports batch document.id) :
    ∃ rule ∈ profile.rules, rule.Tells batch document (finding.locatedIn document) := by
  rw [reports_eq_flatMap] at reported
  obtain ⟨rule, there, said⟩ := List.mem_flatMap.mp reported
  exact ⟨rule, there, finding, List.mem_append_right _ said, rfl⟩

theorem process_told (processed : profile.process limit mode source = .ok work)
    (member : finding ∈ work.result.findings) (batch : List Document) :
    finding.IsNotice ∨ ∃ rule ∈ profile.rules, rule.Tells batch work.document finding := by
  obtain ⟨-, ending, count, findings⟩ := process_reports processed
  rw [findings, mem_arrange] at member
  obtain ⟨own, known, same⟩ := member
  rcases List.mem_append.mp known with evaluated | noticed
  · have located : own.locatedIn work.document = own :=
      profile.arrange_located work.document evaluated
    rw [← same, located]
    exact .inr (evaluate_told batch evaluated)
  · obtain ⟨notice, other, named⟩ := FixEnding.notices_are_notices noticed
    exact .inl ⟨notice, other, same ▸ named⟩

theorem process_applies (processed : profile.process limit mode source = .ok work)
    (applied : finding ∈ work.result.applied) :
    ∃ rule ∈ profile.rules, finding.ruleId = rule.id ∧
      ∃ version, version.id = source.id ∧ rule.Tells [] version finding := by
  obtain ⟨document, parsed, linted | ⟨binding, bound, fixed⟩⟩ := process_cases processed
  · rw [linted] at applied
    cases applied
  · rw [fixed] at applied
    obtain ⟨before, earlier, version, patch, passes, found, carried⟩ := fix_applies bound applied
    obtain ⟨rule, there, tells⟩ := evaluate_told [] found
    exact ⟨rule, there, tells.named_of_fix carried, version,
      passes.identity.1.trans (congrArg Source.id (source_of_parse parsed)), tells⟩

end Profile

namespace Session

variable {profile : Profile} {runner : Runner} {mode : Mode} {sources : List Source}
  {record : Record} {result : DocumentResult} {finding : Finding}

theorem run_told (positive : 0 < runner.workers) (valid : 1 ≤ runner.limit)
    (runs : run runner profile mode sources = .ok record) (member : result ∈ record.results)
    (found : finding ∈ result.findings) :
    finding.IsNotice ∨ ∃ document ∈ documents runner profile mode sources,
      document.id = result.documentId ∧
      ∃ rule ∈ profile.rules, rule.Tells
        (documents runner profile mode sources) document finding := by
  rcases result_cases profile mode sources positive valid runs member with
    ⟨outcome, missing, same⟩ | ⟨source, work, processed, known, joined⟩
  · rw [same] at found
    exact .inl ((Outcome.unprocessed_is_noticed missing).1 finding found)
  · have settles := Profile.settles_of_process processed
    have about : work.document.id = result.documentId := by
      rw [joined, settles.named, settles.about]
    rw [joined, Profile.mem_arrange] at found
    obtain ⟨own, handed, same⟩ := found
    rcases List.mem_append.mp handed with earlier | reported
    · have located : own.locatedIn work.document = own := by
        rw [← settles.arranged] at earlier
        exact profile.arrange_located work.document earlier
      rw [← same, located]
      exact (Profile.process_told processed earlier _).imp_right fun tells =>
        ⟨work.document, known, about, tells⟩
    · rw [← same]
      exact .inr ⟨work.document, known, about, Profile.reports_told reported⟩

theorem run_applies (positive : 0 < runner.workers) (valid : 1 ≤ runner.limit)
    (runs : run runner profile mode sources = .ok record) (member : result ∈ record.results)
    (applied : finding ∈ result.applied) :
    ∃ rule ∈ profile.rules, finding.ruleId = rule.id ∧
      ∃ version, version.id = result.documentId ∧ rule.Tells [] version finding := by
  rcases result_cases profile mode sources positive valid runs member with
    ⟨outcome, missing, same⟩ | ⟨source, work, processed, -, joined⟩
  · rw [same, (Outcome.unprocessed_is_noticed missing).2] at applied
    cases applied
  · have about : result.documentId = source.id := by
      rw [joined, (Profile.settles_of_process processed).about]
    rw [joined] at applied
    rw [about]
    exact Profile.process_applies processed applied

end Session

def DocumentCheck.failing (fault : Fault) : DocumentCheck where
  settings := .null
  evaluate := fun _ _ => .error fault

def RuleEntry.failing (id : String) (fault : Fault) : RuleEntry :=
  ⟨id, .proper (.document ⟨id, "", .info, false, fun _ => .ok (.failing fault)⟩), .null, none⟩

def Profile.failing (id : String) (fault : Fault) : Profile where
  rules :=
    [⟨id, .document ⟨id, "", .info, false, fun _ => .ok (.failing fault)⟩, .null, none,
      .document (.failing fault)⟩]
  bindings := [⟨"text", Format.plainText⟩]

theorem Profile.failing_evaluate (id : String) (fault : Fault) (document : Document) :
    (Profile.failing id fault).evaluate document =
      [(RuleFault.ofFault id fault).finding.locatedIn document] := by
  rw [evaluate_eq_arrange, arrange_eq_sorted, failing, List.flatMap_singleton]
  exact List.mergeSort_singleton _

/-- Every finding in the result of a document or of a session comes from a rule of the profile or is
a notice. What a rule says stands under its id, however it fails, unless it raises a failure that it
words in another name itself; and whatever was applied stands under the id of its rule. So where no
rule does that, the ids in results are those of the rules that were asked for and those that a
session keeps for itself. -/
theorem findings_name_their_rule (entries : List RuleEntry) (formats : List FormatEntry)
    (configuration : Entries) (profile : Profile) (limit workers : Int) (timeout : Option Seconds)
    (runner : Runner) (accepted : Profile.build entries formats configuration = .ok profile)
    (made : Runner.make limit workers timeout = .ok runner) (valid : 1 ≤ limit) :
    (∀ rule ∈ profile.rules, rule.id ∈ entries.map (·.id) ∧ ∀ batch document finding,
      rule.Tells batch document finding →
        finding.ruleId = rule.id ∨ rule.Misnames batch document finding) ∧
    (∀ passes mode source work, profile.process passes mode source = .ok work →
      (∀ finding ∈ work.result.findings,
        finding.IsNotice ∨ ∃ rule ∈ profile.rules, rule.Tells [] work.document finding) ∧
      ∀ finding ∈ work.result.applied, ∃ rule ∈ profile.rules, finding.ruleId = rule.id ∧
        ∃ version, version.id = source.id ∧ rule.Tells [] version finding) ∧
    (∀ mode sources record, Session.run runner profile mode sources = .ok record →
      ∀ result ∈ record.results,
      (∀ finding ∈ result.findings, finding.IsNotice ∨
        ∃ document ∈ Session.documents runner profile mode sources,
          document.id = result.documentId ∧
          ∃ rule ∈ profile.rules, rule.Tells
            (Session.documents runner profile mode sources) document finding) ∧
      ∀ finding ∈ result.applied, ∃ rule ∈ profile.rules, finding.ruleId = rule.id ∧
        ∃ version, version.id = result.documentId ∧ rule.Tells [] version finding) ∧
    ((∀ rule ∈ profile.rules, ∀ batch document finding, ¬ rule.Misnames batch document finding) →
      (∀ passes mode source work, profile.process passes mode source = .ok work →
        ∀ finding ∈ work.result.findings ++ work.result.applied,
          finding.IsNotice ∨ finding.ruleId ∈ entries.map (·.id)) ∧
      ∀ mode sources record, Session.run runner profile mode sources = .ok record →
        ∀ result ∈ record.results,
        ∀ finding ∈ result.findings ++ result.applied,
          finding.IsNotice ∨ finding.ruleId ∈ entries.map (·.id)) := by
  obtain ⟨same, positive, -⟩ := Session.runner_of_make made
  subst same
  have asked_for : ∀ rule ∈ profile.rules, rule.id ∈ entries.map (·.id) := by
    intro rule there
    rw [← Profile.rule_ids accepted]
    exact List.mem_map.mpr ⟨rule, there, rfl⟩
  refine ⟨fun rule there => ⟨asked_for rule there, fun _ _ _ tells => tells.named⟩, ?_, ?_, ?_⟩
  · intro passes mode source work processed
    exact ⟨fun _ found => Profile.process_told processed found [],
      fun _ => Profile.process_applies processed⟩
  · intro mode sources record runs result member
    exact ⟨fun _ => Session.run_told positive valid runs member,
      fun _ => Session.run_applies positive valid runs member⟩
  · intro never
    have under_id : ∀ rule ∈ profile.rules, ∀ batch document finding,
        rule.Tells batch document finding →
        finding.ruleId ∈ entries.map (·.id) := by
      intro rule there batch document finding tells
      rw [tells.named.resolve_right (never rule there batch document finding)]
      exact asked_for rule there
    refine ⟨?_, ?_⟩
    · intro passes mode source work processed finding member
      rcases List.mem_append.mp member with found | applied
      · rcases Profile.process_told processed found [] with notice | ⟨rule, there, tells⟩
        · exact .inl notice
        · exact .inr (under_id rule there _ _ _ tells)
      · obtain ⟨rule, there, _, _, _, tells⟩ := Profile.process_applies processed applied
        exact .inr (under_id rule there _ _ _ tells)
    · intro mode sources record runs result member finding listed
      rcases List.mem_append.mp listed with found | applied
      · rcases Session.run_told positive valid runs member
          found with notice | ⟨document, -, -, rule, there, tells⟩
        · exact .inl notice
        · exact .inr (under_id rule there _ _ _ tells)
      · obtain ⟨rule, there, _, _, _, tells⟩ :=
          Session.run_applies positive valid runs member applied
        exact .inr (under_id rule there _ _ _ tells)

/-- A rule that raises a failure worded in another name is told of under that name, which nobody
asked for. -/
theorem failure_in_another_name_is_kept :
    let fault : RuleFault := ⟨"other", .other "boom"⟩
    let profile := Profile.failing "r" (.rule fault)
    Profile.build [.failing "r" (.rule fault)] [⟨"text", .proper Format.plainText⟩] [] =
      .ok profile ∧
    ∃ work finding, profile.process 10 .lint ⟨"d", ['x'], "text"⟩ = .ok work ∧
    work.result.findings = [finding] ∧
      finding.text = "Rule 'other' failed: boom" ∧ ¬ finding.IsNotice ∧
      finding.ruleId ∉ [RuleEntry.failing "r" (.rule fault)].map (·.id) := by
  intro fault profile
  have read : ∃ document, profile.parse ⟨"d", ['x'], "text"⟩ = .ok document := ⟨_, by cbv⟩
  obtain ⟨document, parsed⟩ := read
  have foreign : ¬ (∃ notice : Notice, notice ≠ .readError ∧ "other" = notice.ruleId) := by
    rintro ⟨notice, -, same⟩
    cases notice <;> exact absurd same (by decide)
  have unknown : "other" ∉ ["r"] := by decide
  exact ⟨rfl, _, _, Profile.process_lint 10 parsed,
    Profile.failing_evaluate "r" (.rule fault) document, rfl, foreign, unknown⟩

/-- A rule that fails in any other way is told of under its own id. -/
theorem failure_is_told_under_the_rule :
    ∃ work finding, (Profile.failing "r" (.raised "ValueError" "boom")).process 10 .lint
      ⟨"d", ['x'], "text"⟩ = .ok work ∧
      work.result.findings = [finding] ∧ finding.text = "Rule 'r' failed: ValueError: boom" ∧
      (finding.IsNotice ∨ finding.ruleId ∈ ["r"]) := by
  let profile := Profile.failing "r" (.raised "ValueError" "boom")
  have read : ∃ document, profile.parse ⟨"d", ['x'], "text"⟩ = .ok document := ⟨_, by cbv⟩
  obtain ⟨document, parsed⟩ := read
  have processed := Profile.process_lint 10 parsed
  have never : ∀ rule ∈ profile.rules, ∀ batch document finding,
      ¬ rule.Misnames batch document finding := by
    rintro rule member batch document finding ⟨worded, raised, -⟩
    rw [List.mem_singleton.mp member] at raised
    cases raised
  obtain ⟨-, -, -, ids⟩ :=
    findings_name_their_rule [.failing "r"
      (.raised "ValueError" "boom")] [⟨"text", .proper Format.plainText⟩] [] profile 10 1 none
        ⟨10, 1, none⟩ rfl rfl (by decide)
  have only : (profile.lint document).result.findings = _ := Profile.failing_evaluate "r" _ document
  refine ⟨_, _, processed, only, rfl,
    (ids never).1 10 .lint _ _ processed _ (List.mem_append_left _ ?_)⟩
  rw [only]
  exact List.mem_singleton_self _

end ProseLinter
