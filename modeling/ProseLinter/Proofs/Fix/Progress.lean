import Mathlib.Algebra.Order.BigOperators.Group.List
import ProseLinter.Proofs.Fix.Thinning

/-!
# Built-in fixing makes progress

A patch that a pass takes changes its text, and a patch of a built-in rule deletes what it covers.
So every pass shortens the text by at least one code point for each patch it takes, whatever
conflicts it dropped others for. The length of the text bounds the number of passes, and a run that
is allowed as many never comes to its limit.
-/

namespace ProseLinter

theorem Patch.Clears.growth_le {text : Text} {patch : Patch} (clears : patch.Clears text)
    (changes : patch.isIdle text = false) : patch.growth ≤ -1 := by
  have some_text : patch.span.read text ≠ [] := by
    rw [isIdle, beq_eq_false_iff_ne, clears.deletes] at changes
    exact changes
  have covered : (patch.span.read text).length ≤ patch.span.length := by
    rw [Span.read, Text.slice, Span.length]
    exact List.length_take_le _ _
  have positive := List.length_pos_iff.mpr some_text
  rw [growth, clears.deletes, List.length_nil]
  omega

namespace Profile

variable {profile : Profile} {source : Source} {given current next document : Document}
  {binding : Binding}
  {count limit : Nat} {applied : List Finding} {passed : List Document} {ending : FixEnding}

theorem ReadsBuiltIn.growth_le (builtIn : profile.ReadsBuiltIn) (read : document.IsRead) :
    ∀ finding ∈ profile.accepted document, finding.growth ≤ -1 := by
  intro finding member
  obtain ⟨proposal, taken, same⟩ := List.mem_map.mp member
  obtain ⟨found, carried⟩ := proposed_of_taken taken
  have clears := (builtIn.evaluate_suits read proposal.finding found).clears proposal.patch carried
  rw [← same, Finding.growth, carried]
  exact clears.growth_le (Patching.select_changes taken)

theorem ReadsBuiltIn.rewritten_shorter (builtIn : profile.ReadsBuiltIn) (read : document.IsRead) :
    (profile.rewritten document).text.length + (profile.accepted document).length ≤
      document.text.length := by
  have bound := List.sum_le_card_nsmul ((profile.accepted document).map Finding.growth) (-1)
    (List.forall_mem_map.mpr (builtIn.growth_le read))
  have changed := length_rewritten profile document
  rw [List.length_map, nsmul_eq_mul] at bound
  omega

theorem ReadsBuiltIn.adopts_shorter (builtIn : profile.ReadsBuiltIn) (read : document.IsRead)
    (adopts : profile.Adopts document next) : next.text.length < document.text.length := by
  have shorter := builtIn.rewritten_shorter read
  have some_taken := List.length_pos_iff.mpr adopts.accepts
  rw [adopts.text_next]
  omega

theorem ReadsBuiltIn.trail_shortens (builtIn : profile.ReadsBuiltIn)
    (readable : profile.parse given.source = .ok given)
    (trail : profile.Trail given passed current) :
    (passed ++ [current]).Pairwise fun earlier later => later.text.length <
      earlier.text.length := by
  induction trail with
  | start => exact List.pairwise_singleton _ _
  | @adopt passed current next trail adopts induction =>
      have shorter :=
        builtIn.adopts_shorter (builtIn.parse_reads (trail.passes.reads readable)) adopts
      rw [List.pairwise_append]
      refine ⟨induction, List.pairwise_singleton _ _, ?_⟩
      intro earlier member last same
      rw [List.mem_singleton.mp same]
      -- The document before the last one is the shortest so far.
      rw [List.pairwise_append] at induction
      rcases List.mem_append.mp member with before | at_end
      · exact Nat.lt_trans shorter
          (induction.2.2 earlier before current (List.mem_singleton_self current))
      · rw [List.mem_singleton.mp at_end]
        exact shorter

/-- The length of the text is a bound on the passes that lead away from it. -/
theorem ReadsBuiltIn.passes_bounded (builtIn : profile.ReadsBuiltIn)
    (readable : profile.parse given.source = .ok given)
    (passes : profile.Passes given count applied current) :
    current.text.length + count ≤ given.text.length := by
  induction passes with
  | start => exact Nat.le_refl _
  | adopt passes adopts induction =>
      have shorter := builtIn.adopts_shorter (builtIn.parse_reads (passes.reads readable)) adopts
      omega

theorem ReadsBuiltIn.settled_of_empty (builtIn : profile.ReadsBuiltIn) (read : document.IsRead)
    (empty : document.text.length = 0) : profile.takenIn document = [] := by
  have shorter := builtIn.rewritten_shorter read
  rw [accepted, List.length_map] at shorter
  exact List.length_eq_zero_iff.mp (by omega)

theorem ReadsBuiltIn.ends_unlimited (builtIn : profile.ReadsBuiltIn)
    (readable : profile.parse given.source = .ok given) (allowed : given.text.length ≤ limit)
    (passes : profile.Passes given count applied current)
    (ends : profile.Ends limit count current ending) : ending ≠ .limited := by
  intro limited
  subst limited
  cases ends with
  | limited takes =>
      have bounded := builtIn.passes_bounded readable passes
      exact takes (builtIn.settled_of_empty
        (builtIn.parse_reads (passes.reads readable)) (by omega))

end Profile

/-- Built-in fixing makes progress. If the rules about documents and the formats are built in, the
versions of the text that a fix run goes through get shorter from each adopted pass to the next, at
whatever limit and however the run ends. And if the limit is no less than the number of code points
of the text, the run does not come to it, and it tells of it nowhere: all that stands under the id
of that notice was found in the text left by a rule of this id. -/
theorem built_in_fixing_makes_progress (entries : List RuleEntry) (formats : List FormatEntry)
    (configuration : Entries) (profile : Profile) (source : Source) (document : Document)
    (accepted : Profile.build entries formats configuration = .ok profile)
    (rules_asked : ∀ entry ∈ entries, ∀ rule, entry.rule = .proper (.document rule) →
      .document rule ∈ Registry.builtinRules)
    (formats_asked : ∀ entry ∈ formats, ∀ format, entry.format = .proper format → format.IsBuiltIn)
    (parsed : profile.parse source = .ok document) :
    ∃ binding, profile.bindingFor source.kind = .ok binding ∧ ∀ limit,
      (profile.fixFrom binding document limit).versions.Pairwise
        (fun earlier later => later.document.text.length < earlier.document.text.length) ∧
      (source.text.length ≤ limit →
        (profile.fixFrom binding document limit).ending ≠ .limited ∧
        ∃ fixed, profile.process limit .fix source = .ok fixed ∧
          fixed.result.findings.filter (·.ruleId = Notice.fixLimit.ruleId) =
            (profile.evaluate fixed.document).filter (·.ruleId = Notice.fixLimit.ruleId)) := by
  have builtIn := Profile.reads_built_in accepted rules_asked formats_asked
  obtain ⟨binding, bound, -⟩ := Profile.bound_of_parse parsed
  have same := Profile.source_of_parse parsed
  subst same
  refine ⟨binding, bound, ?_⟩
  intro limit
  obtain ⟨count, applied, current, ending, passes, within, ends⟩ :=
    Profile.exists_end bound .start (Nat.zero_add limit)
  refine ⟨?_, ?_⟩
  · obtain ⟨passed, trail, counted, -⟩ := passes.trail
    rw [Profile.versions_of_ends bound trail (counted ▸ ends) (counted ▸ within), List.pairwise_map]
    exact builtIn.trail_shortens parsed trail
  · intro allowed
    have unlimited := builtIn.ends_unlimited parsed allowed passes ends
    refine ⟨?_, _, Profile.process_fix limit parsed bound, ?_⟩
    · rw [(Profile.fixFrom_records bound passes within ends).1]
      exact unlimited
    · cases ends with
      | limited takes => exact absurd rfl unlimited
      | converged settled =>
          obtain ⟨last, result⟩ :=
            Profile.fix_finished bound passes within (.converged settled) (by simp)
          rw [result, last, FixEnding.notices, List.append_nil, Profile.evaluate_arranged]
      | rolledBack below rejects =>
          obtain ⟨last, result⟩ :=
            Profile.fix_rolled_back bound ⟨count, applied, current, passes, below, rejects⟩
          have other : decide (Notice.fixUnsafe.ruleId = Notice.fixLimit.ruleId) =
              false := by decide
          rw [result, last]
          exact (profile.evaluate_joins document _).filter other

def Profile.weeding : Profile where
  rules := [⟨Emoji.ruleId, .document Emoji.rule, .null, none,
    .document (Options.documentCheck (Emoji.Settings.value ⟨[]⟩) (Emoji.find ⟨[]⟩))⟩]
  bindings := [⟨"markdown", Format.markdown true⟩]

/-- The first pass deletes the label of the link. Without it there is no link, and the emoji of its
target is prose, which the second pass deletes. Six passes, one for each code point, are more than
enough. -/
theorem emoji_of_a_target_comes_to_light :
    let source : Source := ⟨"d", ['[', '\u2600', ']', '(', '\u2600', ')'], "md"⟩
    let binding : Binding := ⟨"markdown", Format.markdown true⟩
    ∃ document fixed, Profile.weeding.parse source = .ok document ∧
      Profile.weeding.process 6 .fix source = .ok fixed ∧
      fixed.result.passes = 2 ∧ fixed.result.fixedText = some ['[', ']', '(', ')'] ∧
      (Profile.weeding.fixFrom binding document 6).versions.Pairwise
        (fun earlier later => later.document.text.length < earlier.document.text.length) ∧
      (Profile.weeding.fixFrom binding document 6).ending ≠ .limited ∧
      fixed.result.findings.filter (·.ruleId = Notice.fixLimit.ruleId) =
        (Profile.weeding.evaluate fixed.document).filter (·.ruleId = Notice.fixLimit.ruleId) := by
  intro source binding
  let entries : List RuleEntry := [⟨Emoji.ruleId, .proper (.document Emoji.rule), .null, none⟩]
  let formats : List FormatEntry := [⟨"markdown", .proper (Format.markdown true)⟩]
  have accepted : Profile.build entries formats [] = .ok .weeding := rfl
  have rules_asked : ∀ entry ∈ entries, ∀ rule, entry.rule = .proper (.document rule) →
      .document rule ∈ Registry.builtinRules := by
    intro entry member rule asked
    rw [List.mem_singleton.mp member] at asked
    cases asked
    simp [Registry.builtinRules]
  have outcome : ∃ document fixed, Profile.weeding.parse source = .ok document ∧
      Profile.weeding.process 6 .fix source = .ok fixed ∧
      fixed.result.passes = 2 ∧ fixed.result.fixedText = some ['[', ']', '(', ')'] ∧
      Profile.weeding.bindingFor source.kind = .ok binding :=
    ⟨_, _, by cbv, by cbv, by cbv, by cbv, by cbv⟩
  obtain ⟨document, fixed, parsed, runs, passes, text, bound⟩ := outcome
  obtain ⟨other, other_bound, progress⟩ :=
    built_in_fixing_makes_progress entries formats [] .weeding source document
    accepted rules_asked FormatEntry.markdown_built_in parsed
  rw [bound, Except.ok.injEq] at other_bound
  subst other_bound
  obtain ⟨shortens, unlimited⟩ := progress 6
  obtain ⟨ended, again, runs_again, silent⟩ := unlimited (by decide)
  rw [runs, Except.ok.injEq] at runs_again
  subst runs_again
  exact ⟨document, fixed, parsed, runs, passes, text, shortens, ended, silent⟩

end ProseLinter
