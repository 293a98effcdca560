import ProseLinter.Proofs.Evaluation.Vetting
import ProseLinter.Proofs.Fix.Outcome
import ProseLinter.Session

/-!
# What joins a processed document

What comes of a source that can be processed is about that source and says things about its last
text only, in order. Findings from elsewhere join it if they lie in that text too, and then
everything stands in order again; one finding outside the text, and nothing can be said of the
document at all.
-/

namespace ProseLinter

theorem FixEnding.notices_at_start {count : Nat} {ending : FixEnding} {notice : Finding}
    (member : notice ∈ ending.notices count) : notice.span = Span.point 0 := by
  cases ending with
  | converged => cases member
  | limited =>
      rw [notices, List.mem_singleton] at member
      rw [member]
      rfl
  | rolledBack fault =>
      rw [notices, List.mem_singleton] at member
      rw [member]
      rfl

/-- What holds of everything that comes of a source. -/
structure Processed.Settles (profile : Profile) (source : Source) (work : Processed) : Prop where
  about : work.result.documentId = source.id
  named : work.document.id = source.id
  arranged : profile.arrange work.document work.result.findings = work.result.findings
  within : ∀ finding ∈ work.result.findings, finding.span.stop ≤ work.document.length

namespace Profile

variable {profile : Profile} {mode : Mode} {source : Source} {document : Document}
  {binding : Binding} {work : Processed}

theorem settles_lint (parsed : profile.parse source = .ok document) :
    (profile.lint document).Settles profile source where
  about := congrArg Source.id (source_of_parse parsed)
  named := congrArg Source.id (source_of_parse parsed)
  arranged := profile.evaluate_arranged document
  within := fun _ => profile.evaluate_within document

/-- However a fix run ends, it reports on a document that adopted passes lead to: what linting it
says, and perhaps a notice. -/
theorem fix_reports (limit : Nat) (bound : profile.bindingFor document.kind = .ok binding) :
    ∃ passed applied ending count,
      profile.Passes document passed applied (profile.fix binding limit document).document ∧
      (profile.fix binding limit document).result.documentId = document.id ∧
      (profile.fix binding limit document).result.findings =
        profile.arrange (profile.fix binding limit document).document
          (profile.evaluate (profile.fix binding limit document).document ++
            FixEnding.notices count ending) := by
  obtain ⟨count, applied, current, ending, passes, within, ends⟩ :=
    exists_end bound .start (Nat.zero_add limit)
  by_cases rolls_back : ∃ fault, ending = .rolledBack fault
  · obtain ⟨fault, same⟩ := rolls_back
    subst same
    cases ends with
    | rolledBack below rejects =>
        obtain ⟨last, result⟩ :=
          fix_rolled_back bound ⟨count, applied, current, passes, below, rejects⟩
        refine ⟨0, [], .rolledBack fault, count, ?_, ?_, ?_⟩
        · rw [last]
          exact .start
        · rw [result]
        · rw [result, last]
          rfl
  · obtain ⟨last, result⟩ := fix_finished bound passes within ends (not_exists.mp rolls_back)
    refine ⟨count, applied, ending, count, ?_, ?_, ?_⟩
    · rw [last]
      exact passes
    · rw [result]
    · rw [result, last]

theorem settles_fix (limit : Nat) (parsed : profile.parse source = .ok document)
    (bound : profile.bindingFor document.kind = .ok binding) :
    (profile.fix binding limit document).Settles profile source := by
  have given : document.id = source.id := congrArg Source.id (source_of_parse parsed)
  obtain ⟨passed, applied, ending, count, passes, about, findings⟩ := fix_reports limit bound
  constructor
  · rw [about, given]
  · rw [passes.identity.1, given]
  · rw [findings, arrange_arrange]
  · intro finding member
    rw [findings] at member
    apply profile.arrange_within _ _ member
    intro said said_member
    rcases List.mem_append.mp said_member with evaluated | notice
    · exact profile.evaluate_within _ evaluated
    · rw [FixEnding.notices_at_start notice]
      exact Nat.zero_le _

theorem settles_of_process {limit : Nat}
    (processed : profile.process limit mode source = .ok work) :
    work.Settles profile source := by
  obtain ⟨document, parsed, linted | ⟨binding, bound, fixed⟩⟩ := process_cases processed
  · rw [linted]
    exact settles_lint parsed
  · rw [fixed]
    exact settles_fix limit parsed bound

theorem process_reports {limit : Nat} (processed : profile.process limit mode source = .ok work) :
    profile.parse work.document.source = .ok work.document ∧ ∃ ending count, work.result.findings =
      profile.arrange work.document
        (profile.evaluate work.document ++ FixEnding.notices count ending) := by
  obtain ⟨document, parsed, linted | ⟨binding, bound, fixed⟩⟩ := process_cases processed
  · have same := source_of_parse parsed
    rw [linted]
    refine ⟨same.symm ▸ parsed, .converged, 0, ?_⟩
    rw [FixEnding.notices, List.append_nil]
    exact (profile.evaluate_arranged document).symm
  · have same := source_of_parse parsed
    rw [fixed]
    obtain ⟨passed, applied, ending, count, passes, -, findings⟩ := fix_reports limit bound
    exact ⟨passes.reads (same.symm ▸ parsed), ending, count, findings⟩

end Profile

namespace LineMap

variable (map : LineMap) {span : Span} {finding : Finding} {findings : List Finding}

def vouch (finding : Finding) : Except Fault PUnit :=
  discard ((map.locationOf finding.span).mapError Fault.position)

theorem locationOf_outside (outside : ¬ span.stop ≤ map.length) :
    ∃ fault, map.locationOf span = .error fault := by
  have refused : map.positionOf span.stop = .error (.offsetOutside span.stop map.length) := by
    rw [positionOf, if_pos (by omega)]
  rw [locationOf]
  cases map.positionOf span.start with
  | error fault => exact ⟨fault, rfl⟩
  | ok start => exact ⟨_, by rw [refused]; rfl⟩

theorem vouch_within (within : finding.span.stop ≤ map.length) : map.vouch finding = .ok () := by
  have located : map.locationOf finding.span = .ok (map.locate finding.span) :=
    locationOf_of_within (decide_eq_true within)
  rw [vouch, located]
  rfl

theorem vouch_outside (outside : ¬ finding.span.stop ≤ map.length) :
    ∃ fault, map.vouch finding = .error (.position fault) := by
  obtain ⟨fault, refused⟩ := map.locationOf_outside outside
  exact ⟨fault, by rw [vouch, refused]; rfl⟩

theorem vouch_all (within : ∀ finding ∈ findings, finding.span.stop ≤ map.length) :
    findings.forM map.vouch = .ok () := by
  induction findings with
  | nil => rfl
  | cons first rest induction =>
      have others := induction fun other member => within other (List.mem_cons_of_mem first member)
      rw [List.forM_eq_forM] at others ⊢
      rw [List.forM_cons, map.vouch_within (within first List.mem_cons_self)]
      exact others

theorem vouch_some (member : finding ∈ findings) (outside : ¬ finding.span.stop ≤ map.length) :
    ∃ fault, findings.forM map.vouch = .error (.position fault) := by
  induction findings with
  | nil => cases member
  | cons first rest induction =>
      rw [List.forM_eq_forM, List.forM_cons]
      by_cases within : first.span.stop ≤ map.length
      · have later : finding ∈ rest := by
          rcases List.mem_cons.mp member with same | later
          · exact absurd (same ▸ within) outside
          · exact later
        rw [map.vouch_within within]
        exact induction later
      · obtain ⟨fault, refused⟩ := map.vouch_outside within
        exact ⟨fault, by rw [refused]; rfl⟩

end LineMap

namespace Profile

variable {profile : Profile} {work : Processed} {extra : List Finding}

theorem merge_eq (profile : Profile) (work : Processed) (extra : List Finding) :
    profile.merge work extra =
      ((work.result.findings ++ extra).forM work.document.lineMap.vouch).map fun _ =>
        { work.result with
          findings := profile.arrange work.document (work.result.findings ++ extra) } := by
  rw [merge]
  change ((work.result.findings ++ extra).forM work.document.lineMap.vouch >>= fun _ => pure _) = _
  cases (work.result.findings ++ extra).forM work.document.lineMap.vouch with
  | ok vouched => rfl
  | error fault => rfl

theorem merge_within
    (within : ∀ finding ∈ work.result.findings ++ extra, finding.span.stop ≤ work.document.length) :
    profile.merge work extra =
      .ok { work.result with
        findings := profile.arrange work.document (work.result.findings ++ extra) } := by
  have vouched := work.document.lineMap.vouch_all within
  rw [merge_eq, vouched, Except.map]

theorem merge_outside {finding : Finding} (member : finding ∈ work.result.findings ++ extra)
    (outside : ¬ finding.span.stop ≤ work.document.length) :
    ∃ fault, profile.merge work extra = .error (.position fault) := by
  obtain ⟨fault, stopped⟩ := work.document.lineMap.vouch_some member outside
  exact ⟨fault, by rw [merge_eq, stopped, Except.map]⟩

end Profile

namespace Session

variable {profile : Profile} {source : Source} {work : Processed}

/-- What was collected for a processed document joins it, and nothing else of its result changes;
unless some of it lies outside the text. -/
theorem complete_processed (settles : work.Settles profile source)
    (collected : Table String (List Finding)) :
    ((∀ finding ∈ (collected.get? source.id).getD [], finding.span.stop ≤ work.document.length) ∧
      complete profile collected (.processed work) =
        .ok { work.result with
          findings :=
  profile.arrange work.document (work.result.findings ++ (collected.get? source.id).getD []) }) ∨
    ((∃ finding ∈ (collected.get? source.id).getD [], ¬ finding.span.stop ≤ work.document.length) ∧
      ∃ fault, complete profile collected (.processed work) = .error (.position fault)) := by
  rw [complete, settles.about]
  cases extra : (collected.get? source.id).getD [] with
  | nil =>
      -- With nothing to add the result is not touched, and arranging it again would not move
      -- anything.
      simp [settles.arranged]
  | cons first rest =>
      rw [if_neg (by simp)]
      by_cases within : ∀ finding ∈ first :: rest, finding.span.stop ≤ work.document.length
      · refine .inl ⟨within, Profile.merge_within ?_⟩
        intro finding member
        rcases List.mem_append.mp member with own | joined
        · exact settles.within finding own
        · exact within finding joined
      · have outside : ∃ finding ∈ first :: rest, ¬ finding.span.stop ≤ work.document.length := by
          simpa only [not_forall, exists_prop] using within
        obtain ⟨finding, member, far⟩ := outside
        exact .inr ⟨⟨finding, member, far⟩,
          Profile.merge_outside (List.mem_append_right _ member) far⟩

theorem joined_sorts (settles : work.Settles profile source) (extra : List Finding) :
    profile.Sorts (work.result.findings ++ extra.map (Finding.locatedIn work.document))
      (profile.arrange work.document (work.result.findings ++ extra)) := by
  have located : work.result.findings.map (Finding.locatedIn work.document) =
      work.result.findings := by
    rw [← settles.arranged]
    exact profile.located_arrange work.document _
  have sorted := profile.arrange_sorts work.document (work.result.findings ++ extra)
  rw [List.map_append, located] at sorted
  exact sorted

end Session

end ProseLinter
