import ProseLinter.Proofs.Fix.Thinning

/-!
# What the limit does to a fix run

The limit on the number of passes cuts a run short and does nothing else. A run that came to rest
within it is the run of every larger limit, and a run that was cut off is taken up by the next one:
both together do what one run does that is allowed as many passes as the two.
-/

namespace ProseLinter

def DocumentResult.Reports (notice : Notice) (result : DocumentResult) : Prop :=
  ∃ finding ∈ result.findings, finding.ruleId = notice.ruleId

namespace Profile

variable {profile : Profile} {source : Source} {given middle current document : Document}
  {binding : Binding} {count further limit more larger : Nat} {applied others : List Finding}
  {passed : List Document} {ending : FixEnding} {fault : ParseFault}

theorem reports_of_rolls_back (bound : profile.bindingFor given.kind = .ok binding)
    (rolls_back : profile.RollsBack limit given fault) :
    (profile.fix binding limit given).result.Reports .fixUnsafe := by
  obtain ⟨-, result⟩ := fix_rolled_back bound rolls_back
  rw [result]
  exact ⟨_, (profile.evaluate_joins given (rollbackFinding fault)).mem, rfl⟩

theorem reports_of_limited (bound : profile.bindingFor given.kind = .ok binding)
    (passes : profile.Passes given limit applied current) (takes : profile.takenIn current ≠ []) :
    (profile.fix binding limit given).result.Reports .fixLimit := by
  obtain ⟨-, result⟩ := fix_finished bound passes (Nat.le_refl limit) (.limited takes) (by simp)
  rw [result]
  exact ⟨_, (profile.evaluate_joins current (limitFinding limit)).mem, rfl⟩

theorem Passes.rolls_back (passes : profile.Passes given count applied current)
    (ends : profile.Ends limit count current (.rolledBack fault)) :
    profile.RollsBack limit given fault := by
  cases ends with
  | rolledBack below rejects => exact ⟨count, applied, current, passes, below, rejects⟩

theorem RollsBack.mono (rolls_back : profile.RollsBack limit given fault)
    (within : limit ≤ larger) :
    profile.RollsBack larger given fault := by
  obtain ⟨count, applied, current, passes, below, rejects⟩ := rolls_back
  exact ⟨count, applied, current, passes, Nat.lt_of_lt_of_le below within, rejects⟩

theorem Passes.trans (passes : profile.Passes given count applied middle)
    (goes_on : profile.Passes middle further others current) :
    profile.Passes given (count + further) (applied ++ others) current := by
  induction goes_on with
  | start =>
      rw [List.append_nil]
      exact passes
  | adopt goes_on adopts induction =>
      rw [← List.append_assoc]
      exact induction.adopt adopts

theorem Ends.allow (limit : Nat) (ends : profile.Ends more further current ending) :
    profile.Ends (limit + more) (limit + further) current ending := by
  cases ends with
  | converged settled => exact .converged settled
  | limited takes => exact .limited takes
  | rolledBack below rejects => exact .rolledBack (Nat.add_lt_add_left below limit) rejects

theorem exists_continuation (bound : profile.bindingFor middle.kind = .ok binding)
    (ends : profile.Ends limit count middle ending) (finished : ∀ fault, ending ≠ .rolledBack fault)
    (more : Nat) :
    ∃ further others current last, profile.Passes middle further others current ∧ further ≤ more ∧
      profile.Ends more further current last ∧
      profile.Ends (limit + more) (count + further) current last := by
  cases ends with
  | converged settled =>
      exact ⟨0, [], middle, .converged, .start, Nat.zero_le more, .converged settled,
        .converged settled⟩
  | limited takes =>
      obtain ⟨further, others, current, last, goes_on, within, ends⟩ :=
        exists_end bound .start (Nat.zero_add more)
      exact ⟨further, others, current, last, goes_on, within, ends, ends.allow _⟩
  | rolledBack below rejects => exact absurd rfl (finished _)

theorem fixFrom_at_rest (bound : profile.bindingFor given.kind = .ok binding)
    (trail : profile.Trail given passed current) (settled : profile.takenIn current = [])
    (within : passed.length ≤ limit) :
    profile.fixFrom binding given limit =
      (profile.endedAt current .converged).after (passed.map profile.adoptedPass) := by
  obtain ⟨remaining, left⟩ := Nat.exists_eq_add_of_le within
  rw [left, fixFrom_trail bound trail, fixFrom_settled settled]

theorem fix_at_rest (bound : profile.bindingFor given.kind = .ok binding)
    (passes : profile.Passes given count applied current) (settled : profile.takenIn current = [])
    (within : count ≤ limit) (allowed : limit ≤ larger) :
    profile.fix binding larger given = profile.fix binding limit given := by
  obtain ⟨passed, trail, counted, -⟩ := passes.trail
  subst counted
  rw [fix, fix, fixFrom_at_rest bound trail settled within,
    fixFrom_at_rest bound trail settled (Nat.le_trans within allowed)]

end Profile

/-- The limit only cuts a fix run short. If a run tells neither of a rollback nor of the limit, the
run of every larger limit is the same in all that it gives. And unless the run of two limits
together is rolled back, it is made of the two runs: it comes to the document that the second comes
to from what the first left, its passes are those of both, and so is what was applied. -/
theorem limit_only_cuts_short (profile : Profile) (limit : Nat) (source : Source)
    (document : Document) (parsed : profile.parse source = .ok document) :
    ∃ first, profile.process limit .fix source = .ok first ∧
      (¬ first.result.Reports .fixUnsafe → ¬ first.result.Reports .fixLimit →
        ∀ larger, limit ≤ larger → profile.process larger .fix source = .ok first) ∧
      ∀ more, ∃ second whole,
        profile.process more .fix (source.fixedBy first.result) = .ok second ∧
        profile.process (limit + more) .fix source = .ok whole ∧
        (¬ whole.result.Reports .fixUnsafe →
          whole.document = second.document ∧
          source.fixedBy whole.result = (source.fixedBy first.result).fixedBy second.result ∧
          whole.result.passes = first.result.passes + second.result.passes ∧
          whole.result.applied = first.result.applied ++ second.result.applied) := by
  have same := Profile.source_of_parse parsed
  obtain ⟨binding, bound, -⟩ := Profile.bound_of_parse parsed
  subst same
  obtain ⟨count, applied, middle, ending, passes, within, ends⟩ :=
    Profile.exists_end bound .start (Nat.zero_add limit)
  refine ⟨profile.fix binding limit document, Profile.process_fix limit parsed bound, ?_, ?_⟩
  · intro not_unsafe not_limited larger allowed
    rw [Profile.process_fix larger parsed bound]
    cases ends with
    | rolledBack below rejects =>
        exact absurd (Profile.reports_of_rolls_back bound
          (passes.rolls_back (.rolledBack below rejects))) not_unsafe
    | limited takes => exact absurd (Profile.reports_of_limited bound passes takes) not_limited
    | converged settled => rw [Profile.fix_at_rest bound passes settled within allowed]
  · intro more
    by_cases finished : ∀ fault, ending ≠ .rolledBack fault
    · obtain ⟨further, others, current, last, goes_on, further_within, further_ends, whole_ends⟩ :=
        Profile.exists_continuation (passes.bound bound) ends finished more
      have left := Profile.fix_leaves bound passes within ends finished
      refine ⟨profile.fix binding more middle, profile.fix binding (limit + more) document, ?_,
        Profile.process_fix (limit + more) parsed bound, ?_⟩
      · rw [left]
        exact Profile.process_fix more (passes.reads parsed) (passes.bound bound)
      intro not_unsafe
      have whole_passes := passes.trans goes_on
      have whole_within : count + further ≤ limit + more := Nat.add_le_add within further_within
      have whole_finished : ∀ fault, last ≠ .rolledBack fault := by
        intro fault same
        subst same
        exact not_unsafe (Profile.reports_of_rolls_back bound (whole_passes.rolls_back whole_ends))
      obtain ⟨-, first_result⟩ := Profile.fix_finished bound passes within ends finished
      obtain ⟨second_last, second_result⟩ :=
        Profile.fix_finished (passes.bound bound) goes_on further_within further_ends whole_finished
      obtain ⟨whole_last, whole_result⟩ :=
        Profile.fix_finished bound whole_passes whole_within whole_ends whole_finished
      refine ⟨?_, ?_, ?_, ?_⟩
      · rw [whole_last, second_last]
      · rw [left, Profile.fix_leaves bound whole_passes whole_within whole_ends whole_finished,
          Profile.fix_leaves (passes.bound bound) goes_on further_within further_ends
            whole_finished]
      · rw [whole_result, first_result, second_result]
      · rw [whole_result, first_result, second_result]
    · -- A run that is rolled back leaves its source, and a run of more passes is rolled back as
      -- well.
      obtain ⟨fault, same⟩ := not_forall_not.mp finished
      subst same
      have rolls_back := passes.rolls_back ends
      have left : document.source.fixedBy (profile.fix binding limit document).result =
          document.source := by
        rw [(Profile.fix_rolled_back bound rolls_back).2]
        rfl
      refine ⟨profile.fix binding more document, profile.fix binding (limit + more) document, ?_,
        Profile.process_fix (limit + more) parsed bound, ?_⟩
      · rw [left]
        exact Profile.process_fix more parsed bound
      · intro not_unsafe
        have still := rolls_back.mono (Nat.le_add_right limit more)
        exact absurd (Profile.reports_of_rolls_back bound still) not_unsafe

/-- One pass deletes the emoji and is cut off, and the next run deletes the space that is then at
the end of the line. Two passes do both, and as nothing is left to do after them, more passes do no
more. -/
theorem cut_run_is_taken_up :
    let source : Source := ⟨"d", ['a', ' ', '\u2600', '\n'], "txt"⟩
    ∃ document first second whole, Profile.sparing.parse source = .ok document ∧
      Profile.sparing.process 1 .fix source = .ok first ∧
      first.result.fixedText = some ['a', ' ', '\n'] ∧
      Profile.sparing.process 1 .fix ⟨"d", ['a', ' ', '\n'], "txt"⟩ = .ok second ∧
      Profile.sparing.process 2 .fix source = .ok whole ∧ ¬ whole.result.Reports .fixUnsafe ∧
      whole.document = second.document ∧
      whole.result.passes = first.result.passes + second.result.passes ∧
      whole.result.applied = first.result.applied ++ second.result.applied ∧
      ∀ larger, 2 ≤ larger → Profile.sparing.process larger .fix source = .ok whole := by
  intro source
  have read : ∃ document, Profile.sparing.parse source = .ok document := ⟨_, by cbv⟩
  have outcomes : ∃ first whole, Profile.sparing.process 1 .fix source = .ok first ∧
      first.result.fixedText = some ['a', ' ', '\n'] ∧
      Profile.sparing.process 2 .fix source = .ok whole ∧ whole.result.findings = [] :=
    ⟨_, _, by cbv, by cbv, by cbv, by cbv⟩
  obtain ⟨document, parsed⟩ := read
  obtain ⟨first, whole, runs, text, runs_whole, nothing⟩ := outcomes
  have silent : ∀ notice, ¬ whole.result.Reports notice := by
    rintro notice ⟨finding, member, -⟩
    rw [nothing] at member
    cases member
  obtain ⟨once, runs_once, -, together⟩ := limit_only_cuts_short .sparing 1 source document parsed
  obtain ⟨twice, runs_twice, stays, -⟩ := limit_only_cuts_short .sparing 2 source document parsed
  obtain ⟨second, both, runs_second, runs_both, made_of⟩ := together 1
  rw [runs, Except.ok.injEq] at runs_once
  rw [runs_whole, Except.ok.injEq] at runs_twice runs_both
  subst runs_once runs_twice runs_both
  have left : source.fixedBy first.result = ⟨"d", ['a', ' ', '\n'], "txt"⟩ := by
    rw [Source.fixedBy, text]
    rfl
  rw [left] at runs_second
  obtain ⟨last, -, counted, gathered⟩ := made_of (silent .fixUnsafe)
  exact ⟨document, first, second, whole, parsed, runs, text, runs_second, runs_whole,
    silent .fixUnsafe, last, counted, gathered, stays (silent .fixUnsafe) (silent .fixLimit)⟩

end ProseLinter
