import ProseLinter.Proofs.Fix.Limits
import ProseLinter.Proofs.Session.Batch

/-!
# Sessions that have come to rest

A source that a fix run left, without being cut short, is fixed again to no effect: the same
document is reached, with the same findings and no new text. So the rules about the batch are told
of the same documents and say the same of them, and a second session says of every source what the
first one said.
-/

namespace ProseLinter

/-- That a result says the same as an earlier one and has no new text. -/
structure DocumentResult.RestsAt (again first : DocumentResult) : Prop where
  about : again.documentId = first.documentId
  findings : again.findings = first.findings
  unchanged : again.fixedText = none

/-- That an outcome is about the same document as an earlier one and its result says the same. -/
structure Outcome.RestsAt (again first : Outcome) : Prop where
  document : again.document? = first.document?
  result : again.result.RestsAt first.result

theorem Source.fixedBy_unchanged {source : Source} {result : DocumentResult}
    (unchanged : result.fixedText = none) :
    source.fixedBy result = source := by
  rw [fixedBy, unchanged]
  rfl

theorem Source.fixedBy_congr {source : Source} {result other : DocumentResult}
    (same : result.fixedText = other.fixedText) : source.fixedBy result = source.fixedBy other := by
  rw [fixedBy, fixedBy, same]

theorem Outcome.failure_unchanged (source : Source) (fault : Fault) :
    (failure source fault).fixedText = none := by
  cases fault <;> rfl

namespace Profile

variable {profile : Profile} {source : Source} {limit : Nat} {work : Processed}

/-- Fixing again what a fix run left comes to the same, unless the limit stopped the run. -/
theorem process_rests (processed : profile.process limit .fix source = .ok work)
    (silent : ¬work.result.Reports .fixLimit) :
    ∃ again, profile.process limit .fix (source.fixedBy work.result) = .ok again ∧
    again.document = work.document ∧
      again.result.RestsAt work.result := by
  obtain ⟨document, parsed, -⟩ := process_cases processed
  have same := source_of_parse parsed
  obtain ⟨binding, bound, -⟩ := bound_of_parse parsed
  subst same
  have fixed := processed
  rw [process_fix limit parsed bound, Except.ok.injEq] at fixed
  subst fixed
  obtain ⟨count, applied, current, ending, passes, within, ends⟩ :=
    exists_end bound .start (Nat.zero_add limit)
  cases ends with
  | limited takes => exact absurd (reports_of_limited bound passes takes) silent
  | rolledBack below rejects =>
      -- The text stays, so the second run is the first one over again.
      obtain ⟨-, result⟩ := fix_rolled_back bound ⟨count, applied, current, passes, below, rejects⟩
      have unchanged : (profile.fix binding limit document).result.fixedText =
          none := by rw [result]
      rw [Source.fixedBy_unchanged unchanged]
      exact ⟨_, processed, rfl, rfl, rfl, unchanged⟩
  | converged settled =>
      obtain ⟨last, result⟩ := fix_finished bound passes within (.converged settled) (by simp)
      have left := fix_leaves bound passes within (.converged settled) (by simp)
      have rest : profile.Ends limit 0 current .converged := .converged settled
      obtain ⟨last_again, result_again⟩ :=
        fix_finished (passes.bound bound) .start (Nat.zero_le limit) rest (by simp)
      refine ⟨profile.fix binding limit current, ?_, last_again.trans last.symm, ?_, ?_, ?_⟩
      · rw [left]
        exact process_fix limit (passes.reads parsed) (passes.bound bound)
      · rw [result_again, result, passes.identity.1]
      · rw [result_again, result]
        rfl
      · rw [result_again]
        exact if_pos rfl

end Profile

namespace Session

variable {profile : Profile} {source : Source} {sources : List Source} {limit : Nat}
  {first again : Outcome} {earlier later : List Outcome} {collected : Table String (List Finding)}
  {result : DocumentResult} {results : List DocumentResult}

theorem runOne_rests (silent : ¬(runOne profile limit .fix source).result.Reports .fixLimit) :
    (runOne profile limit .fix (source.fixedBy (runOne profile limit .fix source).result)).RestsAt
      (runOne profile limit .fix source) := by
  cases processed : profile.process limit .fix source with
  | ok work =>
      rw [runOne_of_process processed] at silent ⊢
      obtain ⟨again, runs, document, rests⟩ := Profile.process_rests processed silent
      change (runOne profile limit .fix (source.fixedBy work.result)).RestsAt (.processed work)
      rw [runOne_of_process runs]
      exact ⟨congrArg some document, rests⟩
  | error fault =>
      rw [runOne_of_failure processed]
      have unchanged := Outcome.failure_unchanged source fault
      change (runOne profile limit .fix (source.fixedBy (Outcome.failure source fault))).RestsAt
        (.failed source fault)
      rw [Source.fixedBy_unchanged unchanged, runOne_of_failure processed]
      exact ⟨rfl, rfl, rfl, unchanged⟩

theorem complete_keeps (notice : Notice)
    (completed : complete profile collected first = .ok result) :
    result.fixedText = first.result.fixedText ∧
      (first.result.Reports notice → result.Reports notice) := by
  cases first with
  | failed source fault =>
      cases completed
      exact ⟨rfl, id⟩
  | expired source seconds =>
      cases completed
      exact ⟨rfl, id⟩
  | processed work =>
      rw [complete] at completed
      split at completed
      · cases completed
        exact ⟨rfl, id⟩
      · obtain ⟨-, -, joined⟩ := ok_of_bind completed
        cases joined
        refine ⟨rfl, ?_⟩
        rintro ⟨finding, member, named⟩
        exact ⟨_, (profile.mem_arrange work.document).mpr
          ⟨finding, List.mem_append_left _ member, rfl⟩, named⟩

theorem complete_rests (rests : again.RestsAt first)
    (completed : complete profile collected first = .ok result) :
    ∃ same, complete profile collected again = .ok same ∧ same.RestsAt result := by
  obtain ⟨document, about, findings, unchanged⟩ := rests
  cases missing : first.document? with
  | none =>
      rw [complete_unprocessed missing, Except.ok.injEq] at completed
      subst completed
      exact ⟨again.result, complete_unprocessed (document.trans missing), about,
        findings, unchanged⟩
  | some given =>
      rw [missing] at document
      cases first with
      | failed source fault => cases missing
      | expired source seconds => cases missing
      | processed work =>
          cases again with
          | failed source fault => cases document
          | expired source seconds => cases document
          | processed other =>
              have same_document : other.document = work.document :=
                Option.some.inj (document.trans missing.symm)
              change other.result.documentId = work.result.documentId at about
              change other.result.findings = work.result.findings at findings
              rw [complete] at completed ⊢
              rw [about]
              split at completed
              next nothing =>
                cases completed
                exact ⟨other.result, if_pos nothing, about, findings, unchanged⟩
              next some_reports =>
                rw [if_neg some_reports, Profile.merge, findings, same_document]
                obtain ⟨checked, located, joined⟩ := ok_of_bind completed
                cases joined
                let joined :=
                  work.result.findings ++ (collected.get? work.result.documentId).getD []
                refine ⟨{ other.result with findings := profile.arrange work.document joined }, ?_,
                  about, rfl, unchanged⟩
                rw [located]
                rfl

theorem completeAll_rests (rests : List.Forall₂ Outcome.RestsAt later earlier)
    (completed : List.Forall₂
      (fun outcome result => complete profile collected outcome = .ok result) earlier results) :
    ∃ same, later.mapM (complete profile collected) = .ok same ∧
      List.Forall₂ DocumentResult.RestsAt same results := by
  induction rests generalizing results with
  | nil =>
      cases completed
      exact ⟨[], rfl, .nil⟩
  | @cons again first later earlier own others induction =>
      cases completed with
      | cons done rest =>
          obtain ⟨result, completes, alike⟩ := complete_rests own done
          obtain ⟨results, mapped, all_alike⟩ := induction rest
          exact ⟨result :: results,
            by rw [List.mapM_cons, completes, mapped]; rfl, .cons alike all_alike⟩

theorem documents_of_rests (rests : List.Forall₂ Outcome.RestsAt later earlier) :
    later.filterMap Outcome.document? = earlier.filterMap Outcome.document? := by
  induction rests with
  | nil => rfl
  | cons own others induction =>
      rw [List.filterMap_cons, List.filterMap_cons, own.document, induction]

theorem outcomes_rest (completed : List.Forall₂ (fun source result =>
      complete profile collected (runOne profile limit .fix source) = .ok result) sources results)
    (silent : ∀ result ∈ results, ¬result.Reports .fixLimit) :
    List.Forall₂ Outcome.RestsAt
      ((List.zipWith Source.fixedBy sources results).map (runOne profile limit .fix))
      (sources.map (runOne profile limit .fix)) := by
  induction completed with
  | nil => exact .nil
  | @cons source result sources results done rest induction =>
      obtain ⟨own, others⟩ := List.forall_mem_cons.mp silent
      obtain ⟨text, told⟩ := complete_keeps .fixLimit done
      have quiet : ¬(runOne profile limit .fix source).result.Reports .fixLimit :=
        fun reports => own (told reports)
      refine .cons ?_ (induction others)
      rw [Source.fixedBy_congr text]
      exact runOne_rests quiet

/-- A second session over what a first one left says the same of every source and has no new text,
unless a run of the first was cut short. -/
theorem run_rests {runner : Runner} {record : Record} (positive : 0 < runner.workers)
    (valid : 1 ≤ runner.limit) (untimed : runner.timeout = none)
    (runs : run runner profile .fix sources = .ok record)
    (silent : ∀ result ∈ record.results, ¬result.Reports .fixLimit) :
    ∃ again, run runner profile .fix
      (List.zipWith Source.fixedBy sources record.results) = .ok again ∧
      List.Forall₂ DocumentResult.RestsAt again.results record.results := by
  have completed := run_completes profile .fix sources valid runs
  rw [outcomes_untimed profile .fix runner sources positive untimed] at completed
  have rests := outcomes_rest (List.forall₂_map_left_iff.mp completed) silent
  have documents_same : documents runner profile .fix
      (List.zipWith Source.fixedBy sources record.results) =
      documents runner profile .fix sources := by
    rw [documents, documents, outcomes_untimed profile .fix runner _ positive untimed,
      outcomes_untimed profile .fix runner _ positive untimed]
    exact documents_of_rests rests
  obtain ⟨results, mapped, alike⟩ := completeAll_rests rests completed
  have again := run_eq profile .fix (List.zipWith Source.fixedBy sources record.results) valid
  rw [documents_same, outcomes_untimed profile .fix runner _ positive untimed, mapped] at again
  exact ⟨_, again, alike⟩

end Session

end ProseLinter
