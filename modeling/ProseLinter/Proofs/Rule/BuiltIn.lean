import ProseLinter.Proofs.Evaluation.Composition
import ProseLinter.Proofs.Fix.Accounts
import ProseLinter.Proofs.Profile.Build
import ProseLinter.Proofs.Rule.Duplicate
import ProseLinter.Proofs.Rule.Emoji
import ProseLinter.Proofs.Rule.Marker
import ProseLinter.Proofs.Rule.SentenceLength
import ProseLinter.Proofs.Rule.TrailingSpace
import ProseLinter.Proofs.Session.Batch
import ProseLinter.Registry

/-!
# The built-in rules do not fail

Whatever options a built-in rule accepts, its check is safe on every document that a built-in format
reads, and that about the batch is safe on every batch. So nothing in the result of a document reads
like the failure of a rule, and nothing in the results of a session does, unless two documents share
an id and the later of them is shorter.
-/

namespace ProseLinter

namespace Registry

variable {options : Value}

theorem document_rule_safe {rule : DocumentRule} {check : DocumentCheck}
    (builtIn : Rule.document rule ∈ builtinRules) (prepared : rule.prepare options = .ok check)
    (context : RuleContext) {document : Document} (read : document.IsRead) :
    check.IsSafe context document := by
  simp only [builtinRules, List.mem_cons, Rule.document.injEq, reduceCtorEq, List.not_mem_nil,
    or_false] at builtIn
  rcases builtIn with rfl | rfl | rfl | rfl
  · exact Emoji.check_safe prepared context read
  · exact TrailingSpace.check_safe prepared context document
  · exact SentenceLength.check_safe prepared context read
  · exact Marker.check_safe prepared context read

theorem session_rule_safe {rule : SessionRule} {check : SessionCheck}
    (builtIn : Rule.session rule ∈ builtinRules) (prepared : rule.prepare options = .ok check)
    (context : RuleContext) (documents : List Document) :
    check.IsSafe context documents := by
  simp only [builtinRules, List.mem_cons, Rule.session.injEq, reduceCtorEq,
    List.not_mem_nil, or_false, false_or] at builtIn
  subst builtIn
  exact Duplicate.check_safe prepared context documents

end Registry

namespace Rule

variable {rule : Rule} {options : Value}

theorem prepare_document {check : DocumentCheck}
    (prepared : rule.prepare options = .ok (.document check)) :
    ∃ own, rule = .document own ∧ own.prepare options = .ok check := by
  cases rule with
  | document own =>
      rw [prepare] at prepared
      cases known : own.prepare options with
      | error fault =>
          rw [known] at prepared
          cases prepared
      | ok other =>
          rw [known] at prepared
          cases prepared
          exact ⟨own, rfl, known⟩
  | session own =>
      rw [prepare] at prepared
      cases known : own.prepare options <;> rw [known] at prepared <;> cases prepared

theorem prepare_session {check : SessionCheck}
    (prepared : rule.prepare options = .ok (.session check)) :
    ∃ own, rule = .session own ∧ own.prepare options = .ok check := by
  cases rule with
  | document own =>
      rw [prepare] at prepared
      cases known : own.prepare options <;> rw [known] at prepared <;> cases prepared
  | session own =>
      rw [prepare] at prepared
      cases known : own.prepare options with
      | error fault =>
          rw [known] at prepared
          cases prepared
      | ok other =>
          rw [known] at prepared
          cases prepared
          exact ⟨own, rfl, known⟩

end Rule

/-- That a rule is built in, with a check made of options that it accepts. -/
def EnabledRule.IsBuiltIn (rule : EnabledRule) : Prop :=
  rule.rule ∈ Registry.builtinRules ∧ rule.rule.prepare rule.options = .ok rule.check

namespace EnabledRule

variable {rule : EnabledRule}

theorem IsBuiltIn.document_safe {check : DocumentCheck} (builtIn : rule.IsBuiltIn)
    (made : rule.check = .document check) {document : Document} (read : document.IsRead) :
    check.IsSafe rule.context document := by
  obtain ⟨member, prepared⟩ := builtIn
  rw [made] at prepared
  obtain ⟨own, same, checked⟩ := Rule.prepare_document prepared
  exact Registry.document_rule_safe (same ▸ member) checked rule.context read

theorem IsBuiltIn.session_safe {check : SessionCheck} (builtIn : rule.IsBuiltIn)
    (made : rule.check = .session check) (documents : List Document) :
    check.IsSafe rule.context documents := by
  obtain ⟨member, prepared⟩ := builtIn
  rw [made] at prepared
  obtain ⟨own, same, checked⟩ := Rule.prepare_session prepared
  exact Registry.session_rule_safe (same ▸ member) checked rule.context documents

end EnabledRule

/-- That the rules about documents are built in, and so are the formats. Rules about the batch may
be any. -/
structure Profile.ReadsBuiltIn (profile : Profile) : Prop where
  rules : ∀ rule ∈ profile.rules, ∀ check, rule.check = .document check → rule.IsBuiltIn
  formats : ∀ binding ∈ profile.bindings, binding.format.IsBuiltIn

namespace Profile

variable {profile : Profile} {source : Source} {document : Document} {mode : Mode} {limit : Nat}
  {work : Processed}

theorem ReadsBuiltIn.format_of_parse (builtIn : profile.ReadsBuiltIn)
    (parsed : profile.parse source = .ok document) :
    ∃ format : Format, format.IsBuiltIn ∧
      format.parse document.text = .ok (.proper document.tree) := by
  obtain ⟨binding, bound, read⟩ := bound_of_parse parsed
  have text : document.text = source.text := congrArg Source.text (source_of_parse parsed)
  rcases first_accepting_built_in source.kind
    builtIn.formats with ⟨found, member, first⟩ | unsupported
  · have same : found = binding := Except.ok.inj (first.symm.trans bound)
    exact ⟨binding.format, same ▸ builtIn.formats found member, text ▸ Binding.parsed_of_read read⟩
  · rw [bindingFor, unsupported] at bound
    cases bound

theorem ReadsBuiltIn.parse_reads (builtIn : profile.ReadsBuiltIn)
    (parsed : profile.parse source = .ok document) :
    document.IsRead := by
  obtain ⟨format, own, read⟩ := builtIn.format_of_parse parsed
  exact own.reads document.id document.kind read

theorem reads_built_in {entries : List RuleEntry} {formats : List FormatEntry}
    {configuration : Entries} (accepted : build entries formats configuration = .ok profile)
    (rules_asked : ∀ entry ∈ entries, ∀ rule, entry.rule = .proper (.document rule) →
      .document rule ∈ Registry.builtinRules)
    (formats_asked : ∀ entry ∈ formats, ∀ format, entry.format = .proper format →
      format.IsBuiltIn) :
    profile.ReadsBuiltIn := by
  constructor
  · intro rule member check made
    obtain ⟨entry, asked, own, prepared⟩ := rule_asked accepted member
    obtain ⟨about, same, -⟩ := Rule.prepare_document (made ▸ prepared)
    refine ⟨?_, prepared⟩
    rw [same] at own ⊢
    exact rules_asked entry asked about own
  · intro binding member
    obtain ⟨entry, asked, own⟩ := binding_asked accepted member
    exact formats_asked entry asked binding.format own

theorem said_of_evaluate {finding : Finding} (member : finding ∈ profile.evaluate document) :
    ∃ rule ∈ profile.rules, ∃ check own, rule.check = .document check ∧
    own ∈ check.findings rule.context document ∧
      own.locatedIn document = finding := by
  rw [evaluate_eq_arrange, mem_arrange] at member
  obtain ⟨own, contributed, same⟩ := member
  obtain ⟨rule, there, said⟩ := List.mem_flatMap.mp contributed
  rw [EnabledRule.findings] at said
  cases made : rule.check with
  | session check =>
      rw [made] at said
      cases said
  | document check =>
      rw [made] at said
      exact ⟨rule, there, check, own, made, said, same⟩

theorem ReadsBuiltIn.evaluate_suits (builtIn : profile.ReadsBuiltIn) (read : document.IsRead) :
    ∀ finding ∈ profile.evaluate document, finding.Suits document.text := by
  intro finding member
  obtain ⟨rule, there, check, own, made, said, same⟩ := said_of_evaluate member
  have suits :=
    ((builtIn.rules rule there check made).document_safe made read).findings_suit own said
  rw [← same]
  exact ⟨suits.within, suits.clears, suits.no_failure⟩

theorem notice_no_failure {count : Nat} {ending : FixEnding} {notice : Finding}
    (member : notice ∈ ending.notices count) :
    ¬ notice.IsFailure := by
  cases ending with
  | converged => cases member
  | limited =>
      rw [List.mem_singleton.mp member]
      apply Finding.not_failure_of_head (c := 'A')
      · simp [limitFinding]
      · decide
  | rolledBack fault =>
      rw [List.mem_singleton.mp member]
      apply Finding.not_failure_of_head (c := 'A')
      · simp [rollbackFinding]
      · decide

theorem ReadsBuiltIn.process_no_failure (builtIn : profile.ReadsBuiltIn)
    (processed : profile.process limit mode source = .ok work) :
    ∀ finding ∈ work.result.findings ++ work.result.applied, ¬ finding.IsFailure := by
  intro finding listed
  rcases List.mem_append.mp listed with member | applied
  · obtain ⟨parsed, ending, count, findings⟩ := process_reports processed
    rw [findings, mem_arrange] at member
    obtain ⟨own, known, same⟩ := member
    rw [← same]
    rcases List.mem_append.mp known with evaluated | noticed
    · exact (builtIn.evaluate_suits (builtIn.parse_reads parsed) own evaluated).no_failure
    · have plain : ¬ own.IsFailure := notice_no_failure noticed
      exact plain
  · obtain ⟨given, parsed, linted | ⟨binding, bound, fixed⟩⟩ := process_cases processed
    · rw [linted] at applied
      cases applied
    · rw [fixed] at applied
      obtain ⟨before, earlier, version, patch, passes, found, -⟩ := fix_applies bound applied
      have version_parsed := passes.reads ((source_of_parse parsed).symm ▸ parsed)
      exact (builtIn.evaluate_suits (builtIn.parse_reads version_parsed) finding found).no_failure

theorem reports_no_failure (builtIn : ∀ rule ∈ profile.rules, rule.IsBuiltIn)
    {documents : List Document} (longest : SessionCheck.LastIsLongest documents) (id : String) :
    ∀ finding ∈ profile.reports documents id, ¬ finding.IsFailure := by
  intro finding reported
  obtain ⟨⟨context, check⟩, listed, said⟩ := List.mem_flatMap.mp reported
  obtain ⟨rule, there, kept⟩ := List.mem_filterMap.mp listed
  cases made : rule.check with
  | document other =>
      rw [made] at kept
      cases kept
  | session other =>
      rw [made] at kept
      cases kept
      exact ((builtIn rule there).session_safe made documents).no_failure longest id finding said

end Profile

theorem DocumentResult.failure_reads_otherwise {documentId ruleId text : String}
    {position : Option Position} {c : Char} (opens : text.toList.head? = some c) (other : c ≠ 'R') :
    ∀ finding ∈ (failure documentId ruleId text position).findings ++
      (failure documentId ruleId text position).applied,
      ¬ finding.IsFailure := by
  intro finding member
  have only : finding ∈ (failure documentId ruleId text position).findings :=
    (List.mem_append.mp member).resolve_right List.not_mem_nil
  rw [failure, List.mem_singleton] at only
  apply Finding.not_failure_of_head _ other
  rw [only]
  exact opens

theorem Outcome.unprocessed_no_failure {outcome : Outcome} (missing : outcome.document? = none) :
    ∀ finding ∈ outcome.result.findings ++ outcome.result.applied, ¬ finding.IsFailure := by
  cases outcome with
  | processed work => cases missing
  | expired source seconds =>
      exact DocumentResult.failure_reads_otherwise (c := 'P') (by simp) (by decide)
  | failed source fault =>
      cases fault with
      | unsupportedKind kind =>
          have opens : ("No format plugin is bound for kind '" ++ kind ++ "'").toList.head? =
              some 'N' := by simp
          exact DocumentResult.failure_reads_otherwise opens (by decide)
      | parse fault => exact DocumentResult.failure_reads_otherwise (c := 'P') (by simp) (by decide)
      | _ => exact DocumentResult.failure_reads_otherwise (c := 'I') (by simp) (by decide)

theorem Session.run_no_failure {profile : Profile} {runner : Runner} {mode : Mode}
    {sources : List Source} {record : Record} {result : DocumentResult}
    (reads : profile.ReadsBuiltIn) (builtIn : ∀ rule ∈ profile.rules, rule.IsBuiltIn)
    (positive : 0 < runner.workers) (valid : 1 ≤ runner.limit)
    (longest : SessionCheck.LastIsLongest (documents runner profile mode sources))
    (runs : run runner profile mode sources = .ok record) (member : result ∈ record.results) :
    ∀ finding ∈ result.findings ++ result.applied, ¬ finding.IsFailure := by
  rcases result_cases profile mode sources positive valid runs member with
    ⟨outcome, missing, same⟩ | ⟨source, work, processed, -, joined⟩
  · rw [same]
    exact Outcome.unprocessed_no_failure missing
  · have own := reads.process_no_failure processed
    intro finding listed
    rw [joined] at listed
    rcases List.mem_append.mp listed with found | applied
    · obtain ⟨given, handed, same⟩ := (Profile.mem_arrange profile _).mp found
      rw [← same]
      rcases List.mem_append.mp handed with earlier | reported
      · exact own given (List.mem_append_left _ earlier)
      · exact Profile.reports_no_failure builtIn longest _ given reported
    · exact own finding (List.mem_append_right _ applied)

/-- The check that is made to look for copies without any options. -/
def SessionCheck.comparing : SessionCheck where
  settings := .int 1
  evaluate := fun context documents =>
    .ok ((Duplicate.find 1 context documents).map fun entry => (entry.1, entry.2.map .proper))

/-- A profile that reads plain text and looks for copies alone. -/
def Profile.comparing : Profile where
  rules := [⟨Duplicate.ruleId, .session Duplicate.rule, .null, none, .session .comparing⟩]
  bindings := [⟨"text", Format.plainText⟩]

/-- The built-in rules do not fail. Whatever options it accepts, the check of a rule about documents
hands over sound findings and nothing else about every document that a built-in format reads, and
the check of the rule about the batch hands over, about any documents, findings that are sound for a
document of the id under which they stand. So with built-in rules and formats nothing in the result
of a document reads like the failure of a rule. In the results of a session nothing does if the ids
are distinct, or if at least no document is longer than the last one of its id. -/
theorem built_in_rules_do_not_fail (entries : List RuleEntry) (formats : List FormatEntry)
    (configuration : Entries) (profile : Profile) (limit workers : Int) (timeout : Option Seconds)
    (runner : Runner) (accepted : Profile.build entries formats configuration = .ok profile)
    (rules_asked : ∀ entry ∈ entries, ∀ rule, entry.rule = .proper rule →
      rule ∈ Registry.builtinRules)
    (formats_asked : ∀ entry ∈ formats, ∀ format, entry.format = .proper format → format.IsBuiltIn)
    (made : Runner.make limit workers timeout = .ok runner) (valid : 1 ≤ limit) :
    (∀ (rule : DocumentRule) options check, .document rule ∈ Registry.builtinRules →
      rule.prepare options = .ok check →
      ∀ (format : Format) text tree, format.IsBuiltIn → format.parse text = .ok (.proper tree) →
      ∀ context id kind,
        ∃ produced, check.evaluate context ⟨id, text, tree, kind⟩ = .ok produced ∧
          ∀ item ∈ produced, item.IsSound text.length) ∧
    (∀ (rule : SessionRule) options check, .session rule ∈ Registry.builtinRules →
      rule.prepare options = .ok check →
      ∀ context documents, ∃ produced, check.evaluate context documents = .ok produced ∧
        ∀ entry ∈ produced, ∀ item ∈ entry.2, ∃ document ∈ documents,
          document.id = entry.1 ∧ item.IsSound document.length) ∧
    (∀ passes mode source work, profile.process passes mode source = .ok work →
      ∀ finding ∈ work.result.findings ++ work.result.applied, ¬ finding.IsFailure) ∧
    (∀ mode sources record, Session.run runner profile mode sources = .ok record →
      SessionCheck.LastIsLongest (Session.documents runner profile mode sources) →
      ∀ result ∈ record.results,
        ∀ finding ∈ result.findings ++ result.applied, ¬ finding.IsFailure) ∧
    ∀ mode sources, (sources.map (·.id)).Nodup →
      ∃ record, Session.run runner profile mode sources = .ok record ∧
      ∀ result ∈ record.results, ∀ finding ∈ result.findings ++ result.applied,
        ¬ finding.IsFailure := by
  obtain ⟨same, positive, -⟩ := Session.runner_of_make made
  subst same
  have builtIn : ∀ rule ∈ profile.rules, rule.IsBuiltIn := by
    intro rule member
    obtain ⟨entry, asked, own, prepared⟩ := Profile.rule_asked accepted member
    exact ⟨rules_asked entry asked rule.rule own, prepared⟩
  have reads : profile.ReadsBuiltIn :=
    Profile.reads_built_in accepted
      (fun entry asked rule own => rules_asked entry asked _ own) formats_asked
  refine ⟨?_, ?_, ?_, ?_, ?_⟩
  · intro rule options check member prepared format text tree format_built_in read context id kind
    exact (Registry.document_rule_safe member prepared context
      (format_built_in.reads id kind read)).delivers
  · intro rule options check member prepared context documents
    obtain ⟨found, handed, suit⟩ := Registry.session_rule_safe member prepared context documents
    refine ⟨_, handed, ?_⟩
    intro entry listed item inside
    obtain ⟨given, known, same⟩ := List.mem_map.mp listed
    rw [← same] at inside ⊢
    obtain ⟨finding, reported, proper⟩ := List.mem_map.mp inside
    obtain ⟨document, there, named, suits⟩ := (suit given known).2 finding reported
    exact ⟨document, there, named, proper ▸ suits.sound⟩
  · intro passes mode source work processed
    exact reads.process_no_failure processed
  · intro mode sources record runs longest result member
    exact Session.run_no_failure reads builtIn positive valid longest runs member
  · intro mode sources distinct
    have longest := SessionCheck.last_is_longest_of_distinct
      (Session.documents_distinct profile mode sources positive distinct)
    obtain ⟨record, runs⟩ := Session.run_of_distinct profile mode sources positive valid distinct
    exact ⟨record, runs, fun result member =>
      Session.run_no_failure reads builtIn positive valid longest runs member⟩

/-- Two sources with the same text and ids of their own: the later is found to be a copy, and
nothing fails. -/
theorem copy_is_found_without_failure :
    let sources : List Source := [⟨"x", ['a', 'b'], "text"⟩, ⟨"a", ['a', 'b'], "text"⟩]
    Profile.build [⟨Duplicate.ruleId, .proper (.session Duplicate.rule), .null, none⟩]
      [⟨"text", .proper Format.plainText⟩] [] = .ok .comparing ∧
    ∃ record, Session.run ⟨10, 1, none⟩ .comparing .lint sources = .ok record ∧
      ∀ result ∈ record.results, ∀ finding ∈ result.findings ++ result.applied,
        ¬ finding.IsFailure := by
  intro sources
  have accepted : Profile.build [⟨Duplicate.ruleId, .proper (.session Duplicate.rule), .null, none⟩]
      [⟨"text", .proper Format.plainText⟩] [] = .ok .comparing := rfl
  have rules_asked : ∀ entry ∈
      [RuleEntry.mk Duplicate.ruleId (.proper (.session Duplicate.rule)) .null none],
      ∀ rule, entry.rule = .proper rule → rule ∈ Registry.builtinRules := by
    intro entry member rule asked
    rw [List.mem_singleton.mp member] at asked
    cases asked
    simp [Registry.builtinRules]
  have made : Runner.make 10 1 none = .ok ⟨10, 1, none⟩ := rfl
  obtain ⟨-, -, -, -, whole⟩ :=
    built_in_rules_do_not_fail _ _ [] .comparing 10 1 none _ accepted rules_asked
      FormatEntry.plain_text_built_in made (by decide)
  exact ⟨accepted, whole .lint sources (by decide)⟩

/-- The text of a copy is held against the last document of its id. That one is shorter here, and
the rule fails. -/
theorem shorter_namesake_fails_a_built_in_rule :
    let sources : List Source :=
      [⟨"x", ['a', 'b'], "text"⟩, ⟨"a", ['a', 'b'], "text"⟩, ⟨"a", ['c'], "text"⟩]
    Profile.build [⟨Duplicate.ruleId, .proper (.session Duplicate.rule), .null, none⟩]
      [⟨"text", .proper Format.plainText⟩] [] = .ok .comparing ∧
    ∃ record result finding, Session.run ⟨10, 1, none⟩ .comparing .lint sources = .ok record ∧
      result ∈ record.results ∧ finding ∈ result.findings ∧ finding.IsFailure ∧
      finding.text =
        "Rule 'no-duplicate-documents' failed: message range [0, 2) is outside the document (length 1)" := by
  intro sources
  let profile := Profile.comparing
  let fault : RuleFault := ⟨Duplicate.ruleId, .spanOutside (Span.ofLength 0 2) 1⟩
  have read : ∃ first second third : Processed,
      profile.process 10 .lint ⟨"x", ['a', 'b'], "text"⟩ = .ok first ∧
      profile.process 10 .lint ⟨"a", ['a', 'b'], "text"⟩ = .ok second ∧
      profile.process 10 .lint ⟨"a", ['c'], "text"⟩ = .ok third ∧
      (∃ tree, first.document = ⟨"x", ['a', 'b'], tree, "text"⟩) ∧
      (∃ tree, second.document = ⟨"a", ['a', 'b'], tree, "text"⟩) ∧
      ∃ tree, third.document = ⟨"a", ['c'], tree, "text"⟩ :=
    ⟨_, _, _, by cbv, by cbv, by cbv, ⟨_, by cbv⟩, ⟨_, by cbv⟩, ⟨_, by cbv⟩⟩
  obtain ⟨first, second, third, processed, processed_second, processed_third, ⟨tree, same⟩,
    ⟨second_tree, same_second⟩, ⟨third_tree, same_third⟩⟩ := read
  have documents : Session.documents ⟨10, 1, none⟩ profile .lint sources =
      [first.document, second.document, third.document] := by
    rw [Session.documents_untimed profile .lint sources Nat.one_pos rfl]
    simp only [sources, List.filterMap_cons, show (10 : Int).toNat = 10 from rfl,
      Session.runOne_of_process processed, Session.runOne_of_process processed_second,
      Session.runOne_of_process processed_third, Outcome.document?, List.filterMap_nil]
  have reports : ∀ id, profile.reports [first.document, second.document, third.document] id =
      if id ∈ ["x", "a", "a"] then [fault.finding] else [] := by
    intro id
    have failed : SessionCheck.comparing.run ⟨Duplicate.ruleId, .warning⟩
        [first.document, second.document, third.document] = .error fault := by
      rw [same, same_second, same_third]
      rfl
    have under := SessionCheck.under_of_failure failed id
    rw [same, same_second, same_third] at under ⊢
    exact (List.append_nil _).trans under
  have within : profile.ReportsLieWithin
      (Session.documents ⟨10, 1, none⟩ profile .lint sources) := by
    intro document _ finding reported
    rw [documents, reports, List.mem_ite_nil_right, List.mem_singleton] at reported
    rw [reported.2]
    exact Nat.zero_le _
  have some_worker : 0 < (Runner.mk 10 1 none).workers := Nat.one_pos
  rcases Session.run_cases profile .lint sources some_worker (by decide) with
    ⟨-, record, runs⟩ | ⟨outside, -⟩
  · have completes := Session.run_completes profile .lint sources (by decide) runs
    rw [Session.outcomes_untimed profile .lint ⟨10, 1, none⟩ sources Nat.one_pos rfl] at completes
    obtain ⟨result, member, completed⟩ := exists_left completes.flip
      (List.mem_map.mpr ⟨⟨"x", ['a', 'b'], "text"⟩, List.mem_cons_self, rfl⟩)
    rw [documents, show (Runner.mk 10 1 none).limit.toNat = 10 from rfl,
      Session.runOne_of_process processed] at completed
    obtain ⟨-, sorts, -⟩ :=
      Session.complete_joins profile (Profile.settles_of_process processed) List.mem_cons_self
      completed
    have found : fault.finding.locatedIn first.document ∈ result.findings := by
      rw [sorts.together.mem_iff, reports]
      exact List.mem_append_right _ (List.mem_singleton_self _)
    exact ⟨rfl, record, result, _, runs, member, found, ⟨fault, rfl⟩, rfl⟩
  · exact absurd within outside

end ProseLinter
