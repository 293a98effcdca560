import ProseLinter.Proofs.Attempt
import ProseLinter.Proofs.Session.Joining
import ProseLinter.Proofs.Session.Outcomes
import ProseLinter.Proofs.Session.Reports

/-!
# The results of a session

Each source has its result, at its place and under its id. What the rules about the batch report
joins the results of the documents that were processed; a document that could not be processed keeps
the one error that says so. Only if two sources share an id may something be reported that lies
outside one of them, and then the whole session fails.
-/

namespace ProseLinter

namespace Outcome

theorem failure_about (source : Source) (fault : Fault) :
    (failure source fault).documentId = source.id := by
  cases fault <;> rfl

theorem failure_single (source : Source) (fault : Fault) :
    ∃ finding, (failure source fault).findings = [finding] := by
  cases fault <;> exact ⟨_, rfl⟩

end Outcome

namespace Session

section

variable {profile : Profile} {limit : Nat} {mode : Mode} {timeout : Option Seconds}
  {source : Source} {sources : List Source} {outcome : Outcome} {outcomes : List Outcome}
  {collected : Table String (List Finding)} {work : Processed} {result : DocumentResult}
  {results : List DocumentResult} {fault : Fault}

theorem runOne_of_process (processed : profile.process limit mode source = .ok work) :
    runOne profile limit mode source = .processed work := by
  rw [runOne, processed]

theorem runOne_of_failure (failed : profile.process limit mode source = .error fault) :
    runOne profile limit mode source = .failed source fault := by
  rw [runOne, failed]

theorem become_cases (become : MayBecome profile limit mode timeout source outcome) :
    (∃ work, outcome = .processed work ∧ profile.process limit mode source = .ok work) ∨
    (outcome.document? = none ∧ outcome.result.documentId = source.id) := by
  rcases become with own | ⟨seconds, -, expired⟩
  · cases processed : profile.process limit mode source with
    | ok work => exact .inl ⟨work, own.trans (runOne_of_process processed), rfl⟩
    | error fault =>
        rw [own, runOne_of_failure processed]
        exact .inr ⟨rfl, Outcome.failure_about source fault⟩
  · rw [expired]
    exact .inr ⟨rfl, rfl⟩

theorem complete_unprocessed (missing : outcome.document? = none) :
    complete profile collected outcome = .ok outcome.result := by
  cases outcome with
  | processed work => cases missing
  | failed given fault => rfl
  | expired given seconds => rfl

theorem complete_eq_ok (settles : work.Settles profile source)
    (completed : complete profile collected (.processed work) = .ok result) :
    (∀ finding ∈ (collected.get? source.id).getD [], finding.span.stop ≤ work.document.length) ∧
      result = { work.result with
        findings :=
  profile.arrange work.document (work.result.findings ++ (collected.get? source.id).getD []) } := by
  rcases complete_processed settles collected with ⟨within, joined⟩ | ⟨-, fault, refused⟩
  · rw [joined, Except.ok.injEq] at completed
    exact ⟨within, completed.symm⟩
  · rw [refused] at completed
    cases completed

theorem complete_eq_error (become : MayBecome profile limit mode timeout source outcome)
    (stopped : complete profile collected outcome = .error fault) :
    (∃ position, fault = .position position) ∧ ∃ document, outcome.document? = some document ∧
      ∃ finding ∈ (collected.get? document.id).getD [], ¬ finding.span.stop ≤ document.length := by
  rcases become_cases become with ⟨work, same, processed⟩ | ⟨missing, -⟩
  · subst same
    have settles := Profile.settles_of_process processed
    rcases complete_processed settles collected with ⟨-, joined⟩ | ⟨outside, position, refused⟩
    · rw [joined] at stopped
      cases stopped
    · rw [refused, Except.error.injEq] at stopped
      exact ⟨⟨position, stopped.symm⟩, work.document, rfl, settles.named ▸ outside⟩
  · rw [complete_unprocessed missing] at stopped
    cases stopped

theorem complete_about (become : MayBecome profile limit mode timeout source outcome)
    (completed : complete profile collected outcome = .ok result) :
    result.documentId = source.id := by
  rcases become_cases become with ⟨work, same, processed⟩ | ⟨missing, about⟩
  · subst same
    have settles := Profile.settles_of_process processed
    rw [(complete_eq_ok settles completed).2]
    exact settles.about
  · rw [complete_unprocessed missing, Except.ok.injEq] at completed
    rw [← completed]
    exact about

variable (become : List.Forall₂ (MayBecome profile limit mode timeout) sources outcomes)

include become

theorem documents_sublist :
    ((outcomes.filterMap Outcome.document?).map (·.id)).Sublist (sources.map (·.id)) := by
  induction become with
  | nil => exact .slnil
  | @cons source outcome sources rest own others induction =>
      rw [List.map_cons, List.filterMap_cons]
      rcases become_cases own with ⟨work, same, processed⟩ | ⟨missing, -⟩
      · subst same
        rw [← (Profile.settles_of_process processed).named]
        exact induction.cons_cons _
      · rw [missing]
        exact induction.cons _

theorem results_about
    (completed : List.Forall₂
      (fun outcome result => complete profile collected outcome = .ok result) outcomes results) :
      List.Forall₂ (fun source result => result.documentId = source.id) sources results := by
  induction become generalizing results with
  | nil =>
      cases completed
      exact .nil
  | cons own others induction =>
      cases completed with
      | cons first rest => exact .cons (complete_about own first) (induction rest)

/-- Completing goes wrong only where something was collected for a document that lies outside it. -/
theorem completeAll_cases (collected : Table String (List Finding)) :
    ((∀ document ∈ outcomes.filterMap Outcome.document?,
      ∀ finding ∈ (collected.get? document.id).getD [],
        finding.span.stop ≤ document.length) ∧
      ∃ results, outcomes.mapM (complete profile collected) = .ok results) ∨
    ((∃ document ∈ outcomes.filterMap Outcome.document?,
      ∃ finding ∈ (collected.get? document.id).getD [],
        ¬ finding.span.stop ≤ document.length) ∧
      ∃ position, outcomes.mapM (complete profile collected) = .error (.position position)) := by
  cases mapped : outcomes.mapM (complete profile collected) with
  | ok results =>
      refine .inl ⟨?_, results, rfl⟩
      intro document member
      obtain ⟨outcome, inside, same⟩ := List.mem_filterMap.mp member
      obtain ⟨source, -, own⟩ := exists_left become inside
      obtain ⟨result, -, completed⟩ := exists_left (mapM_ok mapped).flip inside
      rcases become_cases own with ⟨work, become_document, processed⟩ | ⟨missing, -⟩
      · subst become_document
        cases same
        have settles := Profile.settles_of_process processed
        rw [settles.named]
        exact (complete_eq_ok settles completed).1
      · rw [missing] at same
        cases same
  | error fault =>
      obtain ⟨outcome, inside, stopped⟩ := mapM_error mapped
      obtain ⟨source, -, own⟩ := exists_left become inside
      obtain ⟨⟨position, same⟩, document, there, outside⟩ := complete_eq_error own stopped
      exact .inr ⟨⟨document, List.mem_filterMap.mpr ⟨outcome, inside, there⟩, outside⟩,
        position, same ▸ rfl⟩

end

section

variable (runner : Runner) (profile : Profile) (mode : Mode) (sources : List Source)

/-- The documents of a session that were processed, which the rules about the batch are told of. -/
def documents : List Document :=
  (outcomes runner profile mode sources).1.filterMap Outcome.document?

variable {runner}

theorem run_eq (valid : 1 ≤ runner.limit) :
    run runner profile mode sources =
      ((outcomes runner profile mode sources).1.mapM
        (complete profile (batchFindings profile
          (documents runner profile mode sources)))).map fun results =>
          ⟨results, startRecord mode sources :: (outcomes runner profile mode sources).2 ++
            [endRecord results]⟩ := by
  have passes : ¬ runner.limit < 1 := by omega
  rw [run, if_neg passes, documents]
  obtain ⟨outcomes, log⟩ := outcomes runner profile mode sources
  change (outcomes.mapM _ >>= fun results => pure _) = _
  cases outcomes.mapM
    (complete profile (batchFindings profile (outcomes.filterMap Outcome.document?))) with
  | ok results => rfl
  | error fault => rfl

/-- A session has results, unless a rule about the batch reported something under the id of a
document that it lies outside of. -/
theorem run_cases (positive : 0 < runner.workers) (valid : 1 ≤ runner.limit) :
    (profile.ReportsLieWithin (documents runner profile mode sources) ∧
      ∃ record, run runner profile mode sources = .ok record) ∨
    (¬ profile.ReportsLieWithin (documents runner profile mode sources) ∧
      ∃ position, run runner profile mode sources = .error (.position position)) := by
  have collects : ∀ document ∈ documents runner profile mode sources,
      ((batchFindings profile (documents runner profile mode sources)).get? document.id).getD [] =
        profile.reports (documents runner profile mode sources) document.id := by
    intro document member
    exact get?_batchFindings profile (List.ne_nil_of_mem member) document.id
  have become := outcomes_become profile mode runner sources positive
  rw [run_eq profile mode sources valid]
  rcases completeAll_cases become
    (batchFindings profile (documents runner profile mode sources)) with
    ⟨within, results, mapped⟩ | ⟨⟨document, member, finding, reported, outside⟩, position, mapped⟩
  · refine .inl ⟨?_, _, by rw [mapped]; rfl⟩
    intro document member
    rw [← collects document member]
    exact within document member
  · refine .inr ⟨?_, position, by rw [mapped]; rfl⟩
    intro within
    rw [collects document member] at reported
    exact outside (within document member finding reported)

theorem run_completes {record : Record} (valid : 1 ≤ runner.limit)
    (runs : run runner profile mode sources = .ok record) :
    List.Forall₂ (fun outcome result =>
        complete profile (batchFindings profile (documents runner profile mode sources))
          outcome = .ok result)
      (outcomes runner profile mode sources).1 record.results := by
  rw [run_eq profile mode sources valid] at runs
  cases mapped : (outcomes runner profile mode sources).1.mapM
      (complete profile (batchFindings profile (documents runner profile mode sources))) with
  | error fault =>
      rw [mapped] at runs
      cases runs
  | ok results =>
      rw [mapped, Except.map, Except.ok.injEq] at runs
      rw [← runs]
      exact mapM_ok mapped

theorem result_cases {record : Record} {result : DocumentResult} (positive : 0 < runner.workers)
    (valid : 1 ≤ runner.limit) (runs : run runner profile mode sources = .ok record)
    (member : result ∈ record.results) :
    (∃ outcome : Outcome, outcome.document? = none ∧ result = outcome.result) ∨
    ∃ source work, profile.process runner.limit.toNat mode source = .ok work ∧
      work.document ∈ documents runner profile mode sources ∧
      result = { work.result with
        findings := profile.arrange work.document
          (work.result.findings ++
            profile.reports (documents runner profile mode sources) work.document.id) } := by
  obtain ⟨outcome, there, completed⟩ :=
    exists_left (run_completes profile mode sources valid runs) member
  obtain ⟨source, -, become⟩ :=
    exists_left (outcomes_become profile mode runner sources positive) there
  rcases become_cases become with ⟨work, same, processed⟩ | ⟨missing, -⟩
  · subst same
    have settles := Profile.settles_of_process processed
    have known : work.document ∈ documents runner profile mode sources :=
      List.mem_filterMap.mpr ⟨_, there, rfl⟩
    obtain ⟨-, joined⟩ := complete_eq_ok settles completed
    rw [get?_batchFindings profile (List.ne_nil_of_mem known), ← settles.named] at joined
    exact .inr ⟨source, work, processed, known, joined⟩
  · rw [complete_unprocessed missing, Except.ok.injEq] at completed
    exact .inl ⟨outcome, missing, completed.symm⟩

theorem run_about {record : Record} (positive : 0 < runner.workers) (valid : 1 ≤ runner.limit)
    (runs : run runner profile mode sources = .ok record) :
    List.Forall₂ (fun source result => result.documentId = source.id) sources record.results :=
  results_about (outcomes_become profile mode runner sources positive)
    (run_completes profile mode sources valid runs)

theorem documents_untimed (positive : 0 < runner.workers) (untimed : runner.timeout = none) :
    documents runner profile mode sources =
      sources.filterMap fun source =>
        (runOne profile runner.limit.toNat mode source).document? := by
  rw [documents, outcomes_untimed profile mode runner sources positive untimed, List.filterMap_map]
  rfl

theorem complete_joins {source : Source} {work : Processed} {result : DocumentResult}
    (settles : work.Settles profile source) {documents : List Document}
    (there : work.document ∈ documents)
    (completed : complete profile (batchFindings profile documents) (.processed work) =
      .ok result) :
    result = { work.result with findings := result.findings } ∧
      profile.Sorts
        (work.result.findings ++ (profile.reports documents source.id).map
          (Finding.locatedIn work.document))
        result.findings ∧
      ∀ finding ∈ result.findings, finding.span.stop ≤ work.document.length ∧
        ∃ location, work.document.lineMap.locationOf finding.span = .ok location ∧
        finding.location = some location := by
  obtain ⟨within, joined⟩ := complete_eq_ok settles completed
  rw [get?_batchFindings profile (List.ne_nil_of_mem there)] at within joined
  rw [joined]
  refine ⟨rfl, joined_sorts settles _, ?_⟩
  intro finding member
  have near : finding.span.stop ≤ work.document.length := by
    apply profile.arrange_within _ _ member
    intro other known
    rcases List.mem_append.mp known with own | reported
    · exact settles.within other own
    · exact within other reported
  exact ⟨near, profile.arrange_placed _ member near⟩

theorem documents_distinct (positive : 0 < runner.workers) (distinct : (sources.map (·.id)).Nodup) :
    ((documents runner profile mode sources).map (·.id)).Nodup :=
  (documents_sublist (outcomes_become profile mode runner sources positive)).nodup distinct

theorem run_of_distinct (positive : 0 < runner.workers) (valid : 1 ≤ runner.limit)
    (distinct : (sources.map (·.id)).Nodup) :
    ∃ record, run runner profile mode sources = .ok record := by
  have within :=
    profile.reports_lie_within (documents_distinct profile mode sources positive distinct)
  rcases run_cases profile mode sources positive valid with ⟨-, runs⟩ | ⟨outside, -⟩
  · exact runs
  · exact absurd within outside

end

theorem runner_of_make {limit workers : Int} {timeout : Option Seconds} {runner : Runner}
    (made : Runner.make limit workers timeout = .ok runner) :
    runner.limit = limit ∧ 0 < runner.workers ∧ runner.timeout = timeout := by
  rw [Runner.make] at made
  split at made
  · cases made
  · rename_i positive
    split at made
    · cases made
    · cases made
      exact ⟨rfl, Int.lt_toNat.mpr (by omega), rfl⟩

end Session

/-- A check of a batch that points at spans of its documents, wherever they lie. -/
def SessionCheck.pointing (marks : Table String (List Span)) : SessionCheck where
  settings := .null
  evaluate := fun context _ =>
    .ok (marks.map fun mark =>
      (mark.1, mark.2.map fun span => .proper (context.report span "here" none)))

def SessionRule.pointing (id : String) (marks : Table String (List Span)) : SessionRule :=
  ⟨id, "", .info, fun _ => .ok (.pointing marks)⟩

def Profile.pointing (rules : Table String (Table String (List Span))) : Profile where
  rules :=
    rules.map fun rule =>
      ⟨rule.1, .session (.pointing rule.1 rule.2), .null, none, .session (.pointing rule.2)⟩
  bindings := [⟨"text", Format.plainText⟩]

/-- A session of any sources gives one result for each of them, in their order and under their ids,
or fails. It fails exactly if a rule about the batch reported something under the id of a document
that lies outside its text, which takes two sources that share the id: what is reported is held
against the last document of the id only. A limit of time, if there is one, is no longer than the
system can wait. -/
theorem session_results_align (profile : Profile) (limit workers : Int) (timeout : Option Seconds)
    (runner : Runner) (mode : Mode) (sources : List Source)
    (made : Runner.make limit workers timeout = .ok runner) (valid : 1 ≤ limit) :
    let documents := Session.documents runner profile mode sources
    (∀ record, Session.run runner profile mode sources = .ok record →
      List.Forall₂ (fun source result => result.documentId = source.id) sources record.results) ∧
    (∀ fault, Session.run runner profile mode sources = .error fault →
      ∃ position, fault = .position position) ∧
    ((∃ record, Session.run runner profile mode sources = .ok record) ↔
      profile.ReportsLieWithin documents) ∧
    ((sources.map (·.id)).Nodup → ∃ record,
      Session.run runner profile mode sources = .ok record) := by
  intro documents
  obtain ⟨same, positive, -⟩ := Session.runner_of_make made
  subst same
  refine ⟨?_, ?_, ?_, Session.run_of_distinct profile mode sources positive valid⟩
  · intro record runs
    exact Session.run_about profile mode sources positive valid runs
  · intro fault fails
    rcases Session.run_cases profile mode sources positive
      valid with ⟨-, record, runs⟩ | ⟨-, position, stops⟩
    · rw [runs] at fails
      cases fails
    · rw [stops, Except.error.injEq] at fails
      exact ⟨position, fails.symm⟩
  · rcases Session.run_cases profile mode sources positive
      valid with ⟨within, runs⟩ | ⟨outside, position, stops⟩
    · exact ⟨fun _ => within, fun _ => runs⟩
    · refine ⟨?_, fun within => absurd within outside⟩
      rintro ⟨record, runs⟩
      rw [stops] at runs
      cases runs

/-- Two sources share an id, and the second of them is long enough for what is reported: the session
fails. -/
theorem shared_id_ends_the_session :
    let marks : Table String (List Span) := [("a", [Span.ofLength 0 4])]
    let profile := Profile.pointing [("s", marks)]
    Profile.build [⟨"s", .proper (.session (.pointing "s" marks)), .null, none⟩] [⟨"text",
      .proper Format.plainText⟩] [] =
      .ok profile ∧
    Runner.make 10 1 none = .ok ⟨10, 1, none⟩ ∧
    Session.run ⟨10, 1, none⟩ profile
      .lint [⟨"a", ['x'], "text"⟩, ⟨"a", ['l', 'o', 'n', 'g'], "text"⟩] =
      .error (.position (.offsetOutside 4 1)) := by
  refine ⟨rfl, rfl, by cbv⟩

/-- With the longer of the two first, the session gives both their results. -/
theorem shared_id_may_be_served :
    let sources : List Source :=
      [⟨"a", ['l', 'o', 'n', 'g', 'e', 'r'], "text"⟩, ⟨"a", ['l', 'o', 'n', 'g'], "text"⟩]
    ∃ first second log,
      Session.run ⟨10, 1, none⟩ (.pointing [("s", [("a", [Span.ofLength 0 4])])]) .lint sources =
        .ok ⟨[first, second], log⟩ ∧
      first.documentId = "a" ∧ second.documentId = "a" := by
  intro sources
  let profile := Profile.pointing [("s", [("a", [Span.ofLength 0 4])])]
  have runs : ∃ record, Session.run ⟨10, 1, none⟩ profile .lint sources = .ok record := ⟨_, by cbv⟩
  obtain ⟨⟨results, log⟩, runs⟩ := runs
  have about :=
    (session_results_align profile 10 1 none ⟨10, 1, none⟩ .lint sources rfl (by decide)).1 _ runs
  obtain ⟨first, second, same, first_about, second_about⟩ := exists_pair about
  subst same
  exact ⟨first, second, log, runs, first_about, second_about⟩

/-- What the rules about a batch report joins the results whole. If no two sources share an id, each
source has its result: one that could not be processed keeps its one error, and to a document that
was processed nothing is added but what is reported under its id, which takes its place in the order
and is located in the last text. Of a rule about the batch either everything is reported, which
takes that each id is known and everything under it is sound for its document, or nothing, and then
each document is told once that the rule failed. -/
theorem batch_rules_join_whole (profile : Profile) (limit workers : Int) (runner : Runner)
    (mode : Mode) (sources : List Source) (made : Runner.make limit workers none = .ok runner)
    (valid : 1 ≤ limit) (distinct : (sources.map (·.id)).Nodup) :
    let documents :=
      sources.filterMap fun source => (Session.runOne profile limit.toNat mode source).document?
    (∃ record, Session.run runner profile mode sources = .ok record ∧
      List.Forall₂ (fun source result =>
        (∀ fault, profile.process limit.toNat mode source = .error fault →
          result = Outcome.failure source fault ∧ ∃ finding, result.findings = [finding]) ∧
        (∀ work, profile.process limit.toNat mode source = .ok work →
          result = { work.result with findings := result.findings } ∧
          profile.Sorts
            (work.result.findings ++
              (profile.reports documents source.id).map (Finding.locatedIn work.document))
            result.findings ∧
          ∀ finding ∈ result.findings, finding.span.stop ≤ work.document.length ∧
            ∃ location, work.document.lineMap.locationOf finding.span = .ok location ∧
              finding.location = some location)) sources record.results) ∧
    ∀ context check, (context, check) ∈ profile.sessionChecks →
      (∃ produced, check.evaluate context documents = .ok produced ∧
        (∀ entry ∈ produced, ∃ document ∈ documents,
          document.id = entry.1 ∧ ∀ item ∈ entry.2, item.IsSound document.length) ∧
        ∀ id, (check.findings context documents).under id =
          Finding.taken context.ruleId (produced.under id)) ∨
      ((∀ produced, check.evaluate context documents = .ok produced →
          ¬ ∀ entry ∈ produced, ∃ document ∈ documents,
            document.id = entry.1 ∧ ∀ item ∈ entry.2, item.IsSound document.length) ∧
        ∃ fault : RuleFault, ∀ document ∈ documents,
          (check.findings context documents).under document.id = [fault.finding]) := by
  obtain ⟨same, positive, untimed⟩ := Session.runner_of_make made
  subst same
  have processed_ones := Session.documents_untimed profile mode sources positive untimed
  have document_ids := Session.documents_distinct profile mode sources positive distinct
  rw [← processed_ones]
  intro documents
  refine ⟨?_, fun context check _ => SessionCheck.findings_whole_or_none check context document_ids⟩
  obtain ⟨record, runs⟩ := Session.run_of_distinct profile mode sources positive valid distinct
  refine ⟨record, runs, ?_⟩
  have completes := Session.run_completes profile mode sources valid runs
  rw [Session.outcomes_untimed profile mode runner sources positive untimed,
    List.forall₂_map_left_iff] at completes
  -- That the source is one of the batch is carried along: it puts its document among those that the
  -- rules were told of.
  have each :=
    (List.forall₂_and_left sources record.results).mpr ⟨fun source given => given, completes⟩
  apply each.imp
  rintro source result ⟨given, completed⟩
  refine ⟨?_, ?_⟩
  · intro fault failed
    rw [Session.runOne_of_failure failed, Session.complete_unprocessed rfl,
      Except.ok.injEq] at completed
    rw [← completed]
    exact ⟨rfl, Outcome.failure_single source fault⟩
  · intro work processed
    have ran := Session.runOne_of_process processed
    have there : work.document ∈ Session.documents runner profile mode sources := by
      rw [processed_ones]
      exact List.mem_filterMap.mpr ⟨source, given, by rw [ran]; rfl⟩
    rw [ran] at completed
    exact Session.complete_joins profile (Profile.settles_of_process processed) there completed

/-- Of two rules the second reports on a document that could not be processed: the other document is
told once that the rule failed, and keeps what the first rule reports on it. -/
theorem broken_batch_rule_is_told_once :
    let near : Table String (List Span) := [("a", [⟨1, 2, by decide⟩])]
    let far : Table String (List Span) := [("a", [⟨0, 1, by decide⟩]), ("b", [])]
    let profile := Profile.pointing [("near", near), ("far", far)]
    let good : Source := ⟨"a", ['a', 'b'], "txt"⟩
    let bad : Source := ⟨"b", ['\x00'], "txt"⟩
    let reported : List Finding :=
      [⟨"near", .info, ⟨1, 2, by decide⟩, "here", none, none⟩,
        RuleFault.finding ⟨"far", .unknownDocument "b"⟩]
    ∃ work fault first second log,
      profile.process 1 .lint good = .ok work ∧ profile.process 1 .lint bad = .error fault ∧
      Session.run ⟨1, 2, none⟩ profile .lint [good, bad] = .ok ⟨[first, second], log⟩ ∧
      profile.Sorts (work.result.findings ++ reported.map (Finding.locatedIn work.document))
        first.findings ∧
      second = Outcome.failure bad fault := by
  intro near far profile good bad reported
  have processed : ∃ work, profile.process 1 .lint good = .ok work ∧ work.document.id = "a" ∧
      work.document.text = ['a', 'b'] := ⟨_, by cbv, by cbv, by cbv⟩
  have failed : ∃ fault, profile.process 1 .lint bad = .error fault := ⟨_, by cbv⟩
  obtain ⟨⟨result, ⟨id, text, tree, kind⟩, notes⟩, processed, own_id, own_text⟩ := processed
  obtain ⟨fault, failed⟩ := failed
  cases own_id
  cases own_text
  obtain ⟨⟨⟨results, log⟩, runs, each⟩, -⟩ :=
    batch_rules_join_whole profile 1 2 ⟨1, 2, none⟩ .lint [good, bad] rfl (by decide) (by decide)
  obtain ⟨first, second, same, joins, fails⟩ := exists_pair each
  subst same
  have one_document :
      ([good, bad].filterMap fun source => (Session.runOne profile 1 .lint source).document?) =
      [⟨"a", ['a', 'b'], tree, kind⟩] := by
    simp [Session.runOne_of_process processed, Session.runOne_of_failure failed, Outcome.document?]
  have reports : profile.reports [⟨"a", ['a', 'b'], tree, kind⟩] good.id = reported := rfl
  obtain ⟨-, sorts, -⟩ := joins.2 _ processed
  rw [show (1 : Int).toNat = 1 from rfl, one_document, reports] at sorts
  exact ⟨_, fault, first, second, log, processed, failed, runs, sorts, (fails.1 fault failed).1⟩

end ProseLinter
