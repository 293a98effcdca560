import ProseLinter.Proofs.Evaluation.Vetting
import ProseLinter.Proofs.Fix.Outcome
import ProseLinter.Proofs.Fix.Patches

/-!
# The accounts of a fix run

A fix run carries along the text, the findings that were applied, the number of passes and whether
anything was applied. Here all of them are tied to one list, the documents over which adopted passes
led. A run that is rolled back keeps none of its passes, and its accounts are those of a run without
any.
-/

namespace ProseLinter

def Finding.applyAll (text : Text) (findings : List Finding) : Text :=
  Patching.apply text (findings.filterMap (·.fix))

/-- The documents that were evaluated in a run, with what was found in them. -/
def FixRun.versions (run : FixRun) : List Version := run.passes.map (·.version) ++ [run.last]

namespace Profile

variable {profile : Profile} {given current document : Document} {passed : List Document}
  {proposal : Proposal}

theorem proposed_of_taken (member : proposal ∈ profile.takenIn document) :
    proposal.finding ∈ profile.evaluate document ∧ proposal.finding.fix = some proposal.patch := by
  obtain ⟨finding, found, made⟩ := List.mem_filterMap.mp (Patching.mem_select member)
  obtain ⟨patch, carried, same⟩ := Option.map_eq_some_iff.mp made
  rw [← same]
  exact ⟨found, carried⟩

theorem patches_accepted (profile : Profile) (document : Document) :
    (profile.accepted document).filterMap (·.fix) = (profile.takenIn document).map (·.patch) := by
  rw [accepted, List.filterMap_map, ← List.filterMap_eq_map]
  apply List.filterMap_congr
  intro proposal member
  exact (proposed_of_taken member).2

theorem growth_accepted (profile : Profile) (document : Document) :
    (profile.accepted document).map Finding.growth =
      (profile.takenIn document).map (·.patch.growth) := by
  rw [accepted, List.map_map]
  apply List.map_congr_left
  intro proposal member
  simp [Finding.growth, (proposed_of_taken member).2]

theorem rewritten_eq (profile : Profile) (document : Document) :
    (profile.rewritten document).text =
      Finding.applyAll document.text (profile.accepted document) := by
  rw [rewritten, Finding.applyAll, patches_accepted]

theorem taken_within (profile : Profile) (document : Document) :
    ∀ patch ∈ (profile.takenIn document).map (·.patch), patch.span.stop ≤ document.text.length := by
  intro patch member
  obtain ⟨proposal, taken, same⟩ := List.mem_map.mp member
  obtain ⟨found, carried⟩ := proposed_of_taken taken
  rw [← same]
  exact profile.evaluate_fix_within document found carried

theorem length_rewritten (profile : Profile) (document : Document) :
    ((profile.rewritten document).text.length : Int) =
      document.text.length + ((profile.accepted document).map Finding.growth).sum := by
  have changed :=
    Patching.length_apply (Patching.select_apart document.text _) (profile.taken_within document)
  rw [List.map_map] at changed
  rw [growth_accepted]
  exact changed

theorem Adopts.text_next {next : Document} (adopts : profile.Adopts current next) :
    next.text = (profile.rewritten current).text :=
  congrArg Source.text adopts.source_next

theorem Adopts.accepts {next : Document} (adopts : profile.Adopts current next) :
    profile.accepted current ≠ [] := by
  rw [accepted, ne_eq, List.map_eq_nil_iff]
  exact adopts.takes

namespace Trail

theorem accepts (trail : profile.Trail given passed current) :
    ∀ version ∈ passed, profile.accepted version ≠ [] := by
  induction trail with
  | start => simp
  | adopt trail adopts induction =>
      intro version member
      rcases List.mem_append.mp member with earlier | last
      · exact induction version earlier
      · rw [List.mem_singleton.mp last]
        exact adopts.accepts

theorem applied_eq_nil_iff (trail : profile.Trail given passed current) :
    passed.flatMap profile.accepted = [] ↔ passed = [] := by
  cases trail with
  | start => simp
  | adopt trail adopts => simp [adopts.accepts]

theorem text_eq (trail : profile.Trail given passed current) :
    current.text = (passed.map profile.accepted).foldl Finding.applyAll given.text := by
  induction trail with
  | start => rfl
  | adopt trail adopts induction =>
      rw [adopts.text_next, rewritten_eq, induction, List.map_append, List.foldl_append]
      rfl

theorem length_eq (trail : profile.Trail given passed current) :
    (current.text.length : Int) =
      given.text.length + ((passed.flatMap profile.accepted).map Finding.growth).sum := by
  induction trail with
  | start => simp
  | adopt trail adopts induction =>
      rw [adopts.text_next, length_rewritten, induction, List.flatMap_append,
        List.flatMap_singleton, List.map_append, List.sum_append, Int.add_assoc]

end Trail

theorem versions_of_ends {binding : Binding} {limit : Nat} {ending : FixEnding}
    (bound : profile.bindingFor given.kind = .ok binding)
    (trail : profile.Trail given passed current)
    (ends : profile.Ends limit passed.length current ending) (within : passed.length ≤ limit) :
    (profile.fixFrom binding given limit).versions = (passed ++ [current]).map profile.version := by
  obtain ⟨remaining, left⟩ := Nat.exists_eq_add_of_le within
  rw [left, fixFrom_trail bound trail, fixFrom_of_ends (trail.passes.bound bound) ends left.symm]
  simp [FixRun.versions, FixRun.after, endedAt, adoptedPass]

theorem Passes.applied_found {count : Nat} {applied : List Finding} {finding : Finding}
    (passes : profile.Passes given count applied current) (member : finding ∈ applied) :
    ∃ before earlier version patch, profile.Passes given before earlier version ∧
      finding ∈ profile.evaluate version ∧ finding.fix = some patch := by
  induction passes with
  | start => cases member
  | @adopt count applied current next passes adopts induction =>
      rcases List.mem_append.mp member with earlier | last
      · exact induction earlier
      · obtain ⟨proposal, taken, same⟩ := List.mem_map.mp last
        obtain ⟨found, carried⟩ := proposed_of_taken taken
        exact ⟨count, applied, current, proposal.patch, passes, same ▸ found, same ▸ carried⟩

theorem fix_applies {binding : Binding} {limit : Nat} {finding : Finding}
    (bound : profile.bindingFor given.kind = .ok binding)
    (applied : finding ∈ (profile.fix binding limit given).result.applied) :
    ∃ before earlier version patch, profile.Passes given before earlier version ∧
      finding ∈ profile.evaluate version ∧ finding.fix = some patch := by
  by_cases kept : ∀ fault, ¬ profile.RollsBack limit given fault
  · obtain ⟨count, gathered, current, ending, passes, within, ends, finished⟩ :=
      exists_finish bound kept
    obtain ⟨-, result⟩ := fix_finished bound passes within ends finished
    rw [result] at applied
    exact passes.applied_found applied
  · obtain ⟨fault, rolls_back⟩ := not_forall_not.mp kept
    obtain ⟨-, result⟩ := fix_rolled_back bound rolls_back
    rw [result] at applied
    cases applied

end Profile

/-- That the accounts of a result are those of passes that led over some documents. -/
structure DocumentResult.Accounts (profile : Profile) (source : Source) (passed : List Document)
    (result : DocumentResult) : Prop where
  counted : result.passes = passed.length
  gathered : result.applied = passed.flatMap profile.accepted
  marked : result.fixApplied = true ↔ result.applied ≠ []
  begun : result.applied ≠ [] ↔ 0 < result.passes
  text : (source.fixedBy result).text =
    (passed.map profile.accepted).foldl Finding.applyAll source.text
  balance : ((source.fixedBy result).text.length : Int) - source.text.length =
    (result.applied.map Finding.growth).sum
  told : result.fixedText ≠ none → result.fixApplied = true

namespace Profile

variable {profile : Profile} {given current : Document} {passed : List Document}
  {result : DocumentResult}

/-- A result that says of a trail how long it was, what was accepted on it and where it led keeps
its accounts. -/
theorem Trail.accounts (trail : profile.Trail given passed current)
    (counted : result.passes = passed.length)
    (gathered : result.applied = passed.flatMap profile.accepted)
    (marked : result.fixApplied = !result.applied.isEmpty)
    (told : result.fixedText = if current.text = given.text then none else some current.text) :
    result.Accounts profile given.source passed := by
  have left : (given.source.fixedBy result).text = current.text := by
    rw [Source.fixedBy, told]
    by_cases kept : current.text = given.text
    · rw [if_pos kept, kept]
      rfl
    · rw [if_neg kept]
      rfl
  have nothing : result.applied = [] ↔ passed = [] := by
    rw [gathered]
    exact trail.applied_eq_nil_iff
  constructor
  case counted => exact counted
  case gathered => exact gathered
  case marked => simp [marked]
  case begun => rw [counted, List.length_pos_iff, ne_eq, nothing]
  case text => exact left.trans trail.text_eq
  case balance =>
    have lengths : (current.text.length : Int) =
        given.source.text.length + ((passed.flatMap profile.accepted).map Finding.growth).sum :=
          trail.length_eq
    rw [left, lengths, gathered]
    omega
  case told =>
    intro some_text
    have changed : result.applied ≠ [] := by
      intro none_applied
      rw [nothing] at none_applied
      have same := trail.starts
      rw [none_applied, List.nil_append, List.head?_cons, Option.some.injEq] at same
      exact some_text (by rw [told, same, if_pos rfl])
    simpa [marked] using changed

end Profile

/-- A fix run keeps its accounts however it ends. It evaluates the documents over which its adopted
passes lead and the one at which it ends, at most as many passes as the limit allows, and each of
them accepted something. The passes count that were adopted, or none if the run is rolled back, and
everything that the result says follows from those that count: their number, what was applied, the
text that is left and by how much it is longer. -/
theorem fix_run_keeps_accounts (profile : Profile) (limit : Nat) (source : Source)
    (document : Document) (parsed : profile.parse source = .ok document) :
    ∃ fixed gone last passed,
      profile.process limit .fix source = .ok fixed ∧
      profile.Trail document gone last ∧ gone.length ≤ limit ∧
      (∀ version ∈ gone, profile.accepted version ≠ []) ∧
      (∀ binding, profile.bindingFor source.kind = .ok binding →
        (profile.fixFrom binding document limit).versions = (gone ++ [last]).map profile.version ∧
        (profile.fixFrom binding document limit).versions.length ≤ limit + 1) ∧
      ((∀ fault, ¬ profile.RollsBack limit document fault) →
        passed = gone ∧ fixed.document = last) ∧
      (∀ fault, profile.RollsBack limit document fault → passed = [] ∧ fixed.document = document) ∧
      fixed.result.passes ≤ limit ∧
      fixed.result.Accounts profile source passed := by
  have same := Profile.source_of_parse parsed
  obtain ⟨binding, bound, -⟩ := Profile.bound_of_parse parsed
  subst same
  obtain ⟨count, applied, current, ending, passes, within, ends⟩ :=
    Profile.exists_end bound .start (Nat.zero_add limit)
  obtain ⟨gone, trail, counted, gathered⟩ := passes.trail
  have versions := Profile.versions_of_ends bound trail (counted ▸ ends) (counted ▸ within)
  have all_versions : ∀ other, profile.bindingFor document.source.kind = .ok other →
      (profile.fixFrom other document limit).versions = (gone ++ [current]).map profile.version ∧
      (profile.fixFrom other document limit).versions.length ≤ limit + 1 := by
    intro other other_bound
    rw [bound, Except.ok.injEq] at other_bound
    subst other_bound
    refine ⟨versions, ?_⟩
    rw [versions, List.length_map, List.length_append, List.length_singleton, counted]
    exact Nat.succ_le_succ within
  have runs := Profile.process_fix limit parsed bound
  by_cases rolls_back : ∃ fault, profile.RollsBack limit document fault
  · obtain ⟨fault, rolls_back⟩ := rolls_back
    obtain ⟨last, result⟩ := Profile.fix_rolled_back bound rolls_back
    refine ⟨_, gone, current, [], runs, trail, counted ▸ within, trail.accepts, all_versions,
      ?_, ?_, ?_, ?_⟩
    · intro kept
      exact absurd rolls_back (kept fault)
    · exact fun _ _ => ⟨rfl, last⟩
    · rw [result]
      exact Nat.zero_le limit
    · exact Profile.Trail.accounts .start (by rw [result]; rfl) (by rw [result]; rfl)
        (by rw [result]; rfl) (by rw [result, if_pos rfl])
  · have finished : ∀ fault, ending ≠ .rolledBack fault := by
      intro fault same
      subst same
      cases ends with
      | rolledBack below rejects =>
          exact rolls_back ⟨fault, count, applied, current, passes, below, rejects⟩
    obtain ⟨last, result⟩ := Profile.fix_finished bound passes within ends finished
    refine ⟨_, gone, current, gone, runs, trail, counted ▸ within, trail.accepts, all_versions,
      ?_, ?_, ?_, ?_⟩
    · exact fun _ => ⟨rfl, last⟩
    · intro fault rolled
      exact absurd ⟨fault, rolled⟩ rolls_back
    · rw [result]
      exact within
    · exact trail.accounts (by rw [result, counted]) (by rw [result, gathered]) (by rw [result])
        (by rw [result])

/-- One pass over `a`, all that the limit allows, is accounted for. With one pass more the run is
rolled back, although a pass was adopted before, and the accounts are those of a run without any. -/
theorem exchanged_text_keeps_accounts :
    ∃ document once passed twice gone,
      Profile.exchanging.parse ⟨"d", ['a'], "txt"⟩ = .ok document ∧
      Profile.exchanging.process 1 .fix ⟨"d", ['a'], "txt"⟩ = .ok once ∧
      once.result.Accounts Profile.exchanging ⟨"d", ['a'], "txt"⟩ passed ∧
      passed.length = 1 ∧ once.result.fixedText = some ['b'] ∧
      Profile.exchanging.process 2 .fix ⟨"d", ['a'], "txt"⟩ = .ok twice ∧
      twice.result.Accounts Profile.exchanging ⟨"d", ['a'], "txt"⟩ gone ∧
      gone = [] ∧ twice.result.fixedText = none := by
  have read : ∃ document, Profile.exchanging.parse ⟨"d", ['a'], "txt"⟩ = .ok document := ⟨_, by cbv⟩
  have outcomes : ∃ once twice, Profile.exchanging.process 1 .fix ⟨"d", ['a'], "txt"⟩ = .ok once ∧
      once.result.passes = 1 ∧ once.result.fixedText = some ['b'] ∧
      Profile.exchanging.process 2 .fix ⟨"d", ['a'], "txt"⟩ = .ok twice ∧
      twice.result.passes = 0 ∧ twice.result.fixedText = none :=
    ⟨_, _, by cbv, by cbv, by cbv, by cbv, by cbv, by cbv⟩
  obtain ⟨document, parsed⟩ := read
  obtain ⟨once, -, -, passed, runs, -, -, -, -, -, -, -, accounts⟩ :=
    fix_run_keeps_accounts Profile.exchanging 1 ⟨"d", ['a'], "txt"⟩ document parsed
  obtain ⟨twice, -, -, gone, runs_twice, -, -, -, -, -, -, -, accounts_twice⟩ :=
    fix_run_keeps_accounts Profile.exchanging 2 ⟨"d", ['a'], "txt"⟩ document parsed
  obtain ⟨other, other_twice, other_runs, counted, text, other_runs_twice, counted_twice,
    text_twice⟩ := outcomes
  rw [runs, Except.ok.injEq] at other_runs
  rw [runs_twice, Except.ok.injEq] at other_runs_twice
  subst other_runs other_runs_twice
  refine ⟨document, once, passed, twice, gone, parsed, runs, accounts, ?_, text, runs_twice,
    accounts_twice, ?_, text_twice⟩
  · rw [← accounts.counted, counted]
  · rw [← List.length_eq_zero_iff, ← accounts_twice.counted, counted_twice]

end ProseLinter
