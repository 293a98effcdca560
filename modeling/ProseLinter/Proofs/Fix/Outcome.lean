import ProseLinter.Proofs.Fix.Arrangement
import ProseLinter.Proofs.Fix.Passes

/-!
# What comes of a fix run

A fix run that is not rolled back says of its last document what linting that document says. A run
that is rolled back says of the document it was given what linting it says, and one thing more. A
run that ends by itself has come to rest: fixing what it left changes nothing.
-/

namespace ProseLinter

/-- The source with the text that a result leaves it with. -/
def Source.fixedBy (source : Source) (result : DocumentResult) : Source :=
  { source with text := result.fixedText.getD source.text }

/-- What a run adds to the findings of the document that it reports on. -/
def FixEnding.notices (passes : Nat) : FixEnding → List Finding
  | .converged => []
  | .limited => [Profile.limitFinding passes]
  | .rolledBack fault => [Profile.rollbackFinding fault]

namespace Profile

variable {profile : Profile} {source : Source} {given current document : Document}
  {binding : Binding}
  {count limit : Nat} {applied : List Finding} {ending : FixEnding} {fault : ParseFault}

theorem process_lint (limit : Nat) (parsed : profile.parse source = .ok document) :
    profile.process limit .lint source = .ok (profile.lint document) := by
  obtain ⟨binding, bound, read⟩ := bound_of_parse parsed
  rw [process, bound]
  simp only [bind, Except.bind, read, Except.mapError, pure, Except.pure]

theorem process_fix (limit : Nat) (parsed : profile.parse source = .ok document)
    (bound : profile.bindingFor source.kind = .ok binding) :
    profile.process limit .fix source = .ok (profile.fix binding limit document) := by
  obtain ⟨other, other_bound, read⟩ := bound_of_parse parsed
  rw [bound, Except.ok.injEq] at other_bound
  subst other_bound
  rw [process, bound]
  simp only [bind, Except.bind, read, Except.mapError, pure, Except.pure]

theorem process_cases {mode : Mode} {work : Processed}
    (processed : profile.process limit mode source = .ok work) :
    ∃ document, profile.parse source = .ok document ∧
      (work = profile.lint document ∨
        ∃ binding, profile.bindingFor document.kind = .ok binding ∧
          work = profile.fix binding limit document) := by
  have steps := processed
  rw [process] at steps
  obtain ⟨binding, bound, steps⟩ := ok_of_bind steps
  obtain ⟨document, read, -⟩ := ok_of_bind steps
  have parsed : profile.parse source = .ok document := (parse_of_bound bound).trans read
  have given : document.kind = source.kind := congrArg Source.kind (source_of_parse parsed)
  refine ⟨document, parsed, ?_⟩
  cases mode with
  | lint =>
      rw [process_lint limit parsed, Except.ok.injEq] at processed
      exact .inl processed.symm
  | fix =>
      rw [process_fix limit parsed bound, Except.ok.injEq] at processed
      exact .inr ⟨binding, given ▸ bound, processed.symm⟩

theorem fix_finished (bound : profile.bindingFor given.kind = .ok binding)
    (passes : profile.Passes given count applied current) (within : count ≤ limit)
    (ends : profile.Ends limit count current ending)
    (finished : ∀ fault, ending ≠ .rolledBack fault) :
    (profile.fix binding limit given).document = current ∧
      (profile.fix binding limit given).result =
        { documentId := given.id
          findings := profile.arrange current (profile.evaluate current ++ ending.notices count)
          fixedText := if current.text = given.text then none else some current.text
          fixApplied := !applied.isEmpty
          applied
          passes := count } := by
  obtain ⟨ended, counted, gathered, -, last⟩ := fixFrom_records bound passes within ends
  cases ending with
  | converged => simp [fix, fixOutcome, ended, counted, gathered, last, version, FixEnding.notices]
  | limited => simp [fix, fixOutcome, ended, counted, gathered, last, version, FixEnding.notices]
  | rolledBack fault => exact absurd rfl (finished fault)

/-- A run that is rolled back reports on the document it was given, whatever passes were adopted
before. -/
theorem fix_rolled_back (bound : profile.bindingFor given.kind = .ok binding)
    (rolls_back : profile.RollsBack limit given fault) :
    (profile.fix binding limit given).document = given ∧
      (profile.fix binding limit given).result =
        { documentId := given.id
          findings :=
            profile.arrange given (profile.evaluate given ++ [rollbackFinding fault]) } := by
  obtain ⟨count, applied, current, passes, below, rejects⟩ := rolls_back
  obtain ⟨ended, -, -, first, -⟩ :=
    fixFrom_records bound passes (Nat.le_of_lt below) (.rolledBack below rejects)
  simp [fix, fixOutcome, ended, first, version]

/-- Where no pass is rejected, the run comes to a document and stays there. -/
theorem exists_finish (bound : profile.bindingFor given.kind = .ok binding)
    (kept : ∀ fault, ¬ profile.RollsBack limit given fault) :
    ∃ count applied current ending, profile.Passes given count applied current ∧ count ≤ limit ∧
      profile.Ends limit count current ending ∧ ∀ fault, ending ≠ .rolledBack fault := by
  obtain ⟨count, applied, current, ending, passes, within, ends⟩ :=
    exists_end bound .start (Nat.zero_add limit)
  refine ⟨count, applied, current, ending, passes, within, ends, ?_⟩
  intro fault same
  subst same
  cases ends with
  | rolledBack below rejects => exact kept fault ⟨count, applied, current, passes, below, rejects⟩

theorem fix_leaves (bound : profile.bindingFor given.kind = .ok binding)
    (passes : profile.Passes given count applied current) (within : count ≤ limit)
    (ends : profile.Ends limit count current ending)
    (finished : ∀ fault, ending ≠ .rolledBack fault) :
    given.source.fixedBy (profile.fix binding limit given).result = current.source := by
  obtain ⟨-, result⟩ := fix_finished bound passes within ends finished
  rw [Source.fixedBy, result, Document.source, Document.source, passes.identity.1,
    passes.identity.2]
  by_cases kept : current.text = given.text
  · rw [if_pos kept, kept]
    rfl
  · rw [if_neg kept]
    rfl

end Profile

/-- What a fix run reports is said of the text it leaves and of no earlier one. Unless a pass is
rejected, the document of the outcome is the one that the text left is read as, a text is reported
only if it is another than was given, and the findings are those of linting that text; one notice
joins them if the run used up its passes with patches still to take. -/
theorem fix_reports_on_the_text_left (profile : Profile) (limit : Nat) (source : Source)
    (document : Document) (parsed : profile.parse source = .ok document)
    (kept : ∀ fault, ¬ profile.RollsBack limit document fault) :
    ∃ fixed linted,
      profile.process limit .fix source = .ok fixed ∧
      profile.parse (source.fixedBy fixed.result) = .ok fixed.document ∧
      fixed.result.fixedText ≠ some source.text ∧
      profile.process limit .lint (source.fixedBy fixed.result) = .ok linted ∧
      if fixed.result.passes = limit ∧
          Patching.select (source.fixedBy fixed.result).text
            (profile.proposals linted.result.findings) ≠ [] then
        ((Profile.limitFinding limit).locatedIn fixed.document).Joins linted.result.findings
          fixed.result.findings
      else fixed.result.findings = linted.result.findings := by
  have same := Profile.source_of_parse parsed
  obtain ⟨binding, bound, -⟩ := Profile.bound_of_parse parsed
  subst same
  obtain ⟨count, applied, current, ending, passes, within, ends, finished⟩ :=
    Profile.exists_finish bound kept
  obtain ⟨last, result⟩ := Profile.fix_finished bound passes within ends finished
  have left := Profile.fix_leaves bound passes within ends finished
  have reads := passes.reads parsed
  refine ⟨profile.fix binding limit document, profile.lint current,
    Profile.process_fix limit parsed bound, ?_, ?_, ?_, ?_⟩
  · rw [left, last, reads]
  · rw [result]
    by_cases unchanged : current.text = document.text
    · simp [unchanged]
    · simp [unchanged, Document.source]
  · rw [left]
    exact Profile.process_lint limit reads
  · have taken : Patching.select
      (document.source.fixedBy (profile.fix binding limit document).result).text
        (profile.proposals (profile.lint current).result.findings) = profile.takenIn current := by
      rw [left]
      rfl
    -- The notice and the patches still to take go together: both are there exactly at the limit.
    rw [taken, result, last]
    cases ends with
    | converged settled =>
        simp [settled, FixEnding.notices, Profile.lint, Profile.evaluate_arranged]
    | limited takes =>
        simp only [takes, ne_eq, not_false_eq_true, and_self, if_true]
        exact profile.evaluate_joins current _
    | rolledBack below rejects => exact absurd rfl (finished _)

/-- A check that would exchange the whole text `a` for `b`, `b` for a NUL and `x` for `y`. -/
def DocumentCheck.exchange : DocumentCheck where
  settings := .null
  evaluate := fun context document =>
    let whole := Span.ofLength 0 document.length
    let next := Table.get? [(['a'], ['b']), (['b'], ['\x00']), (['x'], ['y'])] document.text
    .ok ((next.map fun text => .proper
      (context.report whole "exchange" (some ⟨whole, text⟩))).toList)

def Profile.exchanging : Profile where
  rules :=
    [⟨"exchange", .document ⟨"exchange", "", .info, true, fun _ => .ok .exchange⟩, .null, none,
    .document .exchange⟩]
  bindings := [⟨"text", Format.plainText⟩]

theorem Profile.exchanging_bound :
    Profile.exchanging.bindingFor "txt" = .ok ⟨"text", Format.plainText⟩ := by cbv

/-- One pass turns `a` into `b`, and then there is still a patch to take. -/
theorem limited_run_reports_on_the_text_left :
    ∃ document fixed linted,
      Profile.exchanging.parse ⟨"d", ['a'], "txt"⟩ = .ok document ∧
      (∀ fault, ¬ Profile.exchanging.RollsBack 1 document fault) ∧
      Profile.exchanging.process 1 .fix ⟨"d", ['a'], "txt"⟩ = .ok fixed ∧
      Profile.exchanging.process 1 .lint ⟨"d", ['b'], "txt"⟩ = .ok linted ∧
      ((Profile.limitFinding 1).locatedIn fixed.document).Joins linted.result.findings
        fixed.result.findings := by
  have read : ∃ document, Profile.exchanging.parse ⟨"d", ['a'], "txt"⟩ = .ok document ∧
      document.kind = "txt" ∧
      (Profile.exchanging.fixFrom ⟨"text", Format.plainText⟩ document 1).ending = .limited :=
    ⟨_, by cbv, by cbv, by cbv⟩
  obtain ⟨document, parsed, kind, ended⟩ := read
  have bound : Profile.exchanging.bindingFor document.kind = .ok ⟨"text", Format.plainText⟩ := by
    rw [kind, Profile.exchanging_bound]
  have kept : ∀ fault, ¬ Profile.exchanging.RollsBack 1 document fault := by
    intro fault
    rw [Profile.rolls_back_iff bound, ended]
    intro same
    cases same
  have outcome : ∃ fixed, Profile.exchanging.process 1 .fix ⟨"d", ['a'], "txt"⟩ = .ok fixed ∧
      fixed.result.passes = 1 ∧ fixed.result.fixedText = some ['b'] := ⟨_, by cbv, by cbv, by cbv⟩
  have left : ∃ linted, Profile.exchanging.process 1 .lint ⟨"d", ['b'], "txt"⟩ = .ok linted ∧
      (Patching.select ['b'] (Profile.exchanging.proposals linted.result.findings)).isEmpty =
        false :=
    ⟨_, by cbv, by cbv⟩
  obtain ⟨fixed, linted, runs, -, -, lints, joins⟩ :=
    fix_reports_on_the_text_left Profile.exchanging 1 ⟨"d", ['a'], "txt"⟩ document parsed kept
  obtain ⟨other, other_runs, used, text⟩ := outcome
  rw [runs, Except.ok.injEq] at other_runs
  subst other_runs
  have final : Source.fixedBy ⟨"d", ['a'], "txt"⟩ fixed.result = ⟨"d", ['b'], "txt"⟩ := by
    rw [Source.fixedBy, text]
    rfl
  rw [final] at lints joins
  obtain ⟨other, other_lints, takes⟩ := left
  rw [lints, Except.ok.injEq] at other_lints
  subst other_lints
  rw [List.isEmpty_eq_false_iff] at takes
  rw [if_pos ⟨used, takes⟩] at joins
  exact ⟨document, fixed, linted, parsed, kept, runs, lints, joins⟩

/-- A run in which any pass is rejected, the first or a later one, leaves nothing behind but one
error at the start of the document it was given, and no other run adds such an error. -/
theorem fix_rolls_back_whole (profile : Profile) (limit : Nat) (source : Source)
    (document : Document) (parsed : profile.parse source = .ok document) :
    ∃ fixed linted,
      profile.process limit .fix source = .ok fixed ∧
      profile.process limit .lint source = .ok linted ∧
      (∀ fault, profile.RollsBack limit document fault →
        fixed.document = document ∧
        fixed.result =
          { documentId := source.id
            findings :=
              profile.arrange document (linted.result.findings ++ [Profile.rollbackFinding fault])
            fixedText := none
            fixApplied := false
            applied := []
            passes := 0 } ∧
        ((Profile.rollbackFinding fault).locatedIn document).Joins linted.result.findings
          fixed.result.findings) ∧
      ((∀ fault, ¬ profile.RollsBack limit document fault) →
        fixed.result.findings.filter (·.ruleId = Notice.fixUnsafe.ruleId) =
          (profile.evaluate fixed.document).filter (·.ruleId = Notice.fixUnsafe.ruleId)) := by
  have same := Profile.source_of_parse parsed
  obtain ⟨binding, bound, -⟩ := Profile.bound_of_parse parsed
  subst same
  refine ⟨profile.fix binding limit document, profile.lint document,
    Profile.process_fix limit parsed bound, Profile.process_lint limit parsed, ?_, ?_⟩
  · intro fault rolls_back
    obtain ⟨last, result⟩ := Profile.fix_rolled_back bound rolls_back
    refine ⟨last, result, ?_⟩
    rw [result]
    exact profile.evaluate_joins document _
  · intro kept
    obtain ⟨count, applied, current, ending, passes, within, ends, finished⟩ :=
      Profile.exists_finish bound kept
    obtain ⟨last, result⟩ := Profile.fix_finished bound passes within ends finished
    rw [result, last]
    cases ends with
    | converged settled => simp only [FixEnding.notices, List.append_nil, Profile.evaluate_arranged]
    | limited takes =>
        have other : decide (Notice.fixLimit.ruleId = Notice.fixUnsafe.ruleId) = false := by decide
        exact (profile.evaluate_joins current _).filter other
    | rolledBack below rejects => exact absurd rfl (finished _)

/-- The second pass over `a` makes a NUL: with two passes the first is undone as well, with one it
is kept. -/
theorem second_pass_rolls_back_whole :
    ∃ document fault fixed once,
      Profile.exchanging.parse ⟨"d", ['a'], "txt"⟩ = .ok document ∧
      Profile.exchanging.RollsBack 2 document fault ∧
      Profile.exchanging.process 2 .fix ⟨"d", ['a'], "txt"⟩ = .ok fixed ∧
      fixed.document = document ∧ fixed.result.fixedText = none ∧ fixed.result.applied = [] ∧
      (∀ fault, ¬ Profile.exchanging.RollsBack 1 document fault) ∧
      Profile.exchanging.process 1 .fix ⟨"d", ['a'], "txt"⟩ = .ok once ∧
      once.result.findings.filter (·.ruleId = Notice.fixUnsafe.ruleId) =
        (Profile.exchanging.evaluate once.document).filter
          (·.ruleId = Notice.fixUnsafe.ruleId) := by
  have read : ∃ document fault, Profile.exchanging.parse ⟨"d", ['a'], "txt"⟩ = .ok document ∧
      document.kind = "txt" ∧
      (Profile.exchanging.fixFrom ⟨"text", Format.plainText⟩ document 2).ending =
        .rolledBack fault ∧
      (Profile.exchanging.fixFrom ⟨"text", Format.plainText⟩ document 1).ending = .limited :=
    ⟨_, _, by cbv, by cbv, by cbv, by cbv⟩
  obtain ⟨document, fault, parsed, kind, ended, ended_once⟩ := read
  have bound : Profile.exchanging.bindingFor document.kind = .ok ⟨"text", Format.plainText⟩ := by
    rw [kind, Profile.exchanging_bound]
  have rolls_back := (Profile.rolls_back_iff bound).mpr ended
  have kept : ∀ fault, ¬ Profile.exchanging.RollsBack 1 document fault := by
    intro fault
    rw [Profile.rolls_back_iff bound, ended_once]
    intro same
    cases same
  obtain ⟨fixed, linted, runs, -, undone, -⟩ :=
    fix_rolls_back_whole Profile.exchanging 2 ⟨"d", ['a'], "txt"⟩ document parsed
  obtain ⟨once, -, runs_once, -, -, silent⟩ :=
    fix_rolls_back_whole Profile.exchanging 1 ⟨"d", ['a'], "txt"⟩ document parsed
  obtain ⟨same, result, -⟩ := undone fault rolls_back
  refine ⟨document, fault, fixed, once, parsed, rolls_back, runs, same, ?_, ?_, kept, runs_once,
    silent kept⟩
  · rw [result]
  · rw [result]

/-- A run that ended by itself came to rest: fixing what it left changes nothing and says the
same. -/
theorem fix_comes_to_rest (profile : Profile) (limit again : Nat) (source : Source)
    (document : Document) (parsed : profile.parse source = .ok document) :
    ∃ first, profile.process limit .fix source = .ok first ∧
      ((∀ finding ∈ first.result.findings,
          finding.ruleId ≠ Notice.fixLimit.ruleId ∧ finding.ruleId ≠ Notice.fixUnsafe.ruleId) →
        ∃ second, profile.process again .fix (source.fixedBy first.result) = .ok second ∧
          second.result =
            { documentId := source.id
              findings := first.result.findings
              fixedText := none
              fixApplied := false
              applied := []
              passes := 0 }) := by
  have same := Profile.source_of_parse parsed
  obtain ⟨binding, bound, -⟩ := Profile.bound_of_parse parsed
  subst same
  refine ⟨profile.fix binding limit document, Profile.process_fix limit parsed bound, ?_⟩
  intro silent
  obtain ⟨count, applied, current, ending, passes, within, ends⟩ :=
    Profile.exists_end bound .start (Nat.zero_add limit)
  cases ends with
  | rolledBack below rejects =>
      obtain ⟨-, result⟩ :=
        Profile.fix_rolled_back bound ⟨count, applied, current, passes, below, rejects⟩
      rw [result] at silent
      exact absurd rfl (silent _ (profile.evaluate_joins document _).mem).2
  | limited takes =>
      obtain ⟨-, result⟩ := Profile.fix_finished bound passes within (.limited takes) (by simp)
      rw [result] at silent
      exact absurd rfl (silent _ (profile.evaluate_joins current _).mem).1
  | converged settled =>
      obtain ⟨-, result⟩ := Profile.fix_finished bound passes within (.converged settled) (by simp)
      have left := Profile.fix_leaves bound passes within (.converged settled) (by simp)
      -- The document it came to is a run of its own that ends before its first pass.
      have rest : profile.Ends again 0 current .converged := .converged settled
      obtain ⟨-, settled_result⟩ :=
        Profile.fix_finished (passes.bound bound) .start (Nat.zero_le again) rest (by simp)
      refine ⟨profile.fix binding again current, ?_, ?_⟩
      · rw [left]
        exact Profile.process_fix again (passes.reads parsed) (passes.bound bound)
      · rw [settled_result, result, passes.identity.1]
        simp [Document.source, FixEnding.notices]

/-- One pass turns `x` into `y`, where the run ends; fixing `y` does nothing. -/
theorem exchanged_text_is_at_rest :
    ∃ first second,
      Profile.exchanging.process 1 .fix ⟨"d", ['x'], "txt"⟩ = .ok first ∧
      first.result.fixedText = some ['y'] ∧
      Profile.exchanging.process 3 .fix ⟨"d", ['y'], "txt"⟩ = .ok second ∧
      second.result =
        { documentId := "d"
          findings := first.result.findings
          fixedText := none
          fixApplied := false
          applied := []
          passes := 0 } := by
  have read : ∃ document, Profile.exchanging.parse ⟨"d", ['x'], "txt"⟩ = .ok document := ⟨_, by cbv⟩
  have outcome : ∃ first, Profile.exchanging.process 1 .fix ⟨"d", ['x'], "txt"⟩ = .ok first ∧
      first.result.findings = [] ∧
      first.result.fixedText = some ['y'] := ⟨_, by cbv, by cbv, by cbv⟩
  obtain ⟨document, parsed⟩ := read
  obtain ⟨first, runs, rest⟩ :=
    fix_comes_to_rest Profile.exchanging 1 3 ⟨"d", ['x'], "txt"⟩ document parsed
  obtain ⟨other, other_runs, nothing, text⟩ := outcome
  rw [runs, Except.ok.injEq] at other_runs
  subst other_runs
  have silent : ∀ finding ∈ first.result.findings,
      finding.ruleId ≠ Notice.fixLimit.ruleId ∧ finding.ruleId ≠ Notice.fixUnsafe.ruleId := by
    rw [nothing]
    intro finding member
    cases member
  obtain ⟨second, runs_again, result⟩ := rest silent
  have final : Source.fixedBy ⟨"d", ['x'], "txt"⟩ first.result = ⟨"d", ['y'], "txt"⟩ := by
    rw [Source.fixedBy, text]
    rfl
  rw [final] at runs_again
  exact ⟨first, second, runs, text, runs_again, result⟩

end ProseLinter
