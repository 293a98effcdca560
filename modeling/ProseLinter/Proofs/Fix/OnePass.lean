import ProseLinter.Proofs.Evaluation.Composition
import ProseLinter.Proofs.Fix.Accounts
import ProseLinter.Proofs.Fix.Replacement
import ProseLinter.Proofs.Rule.Safety

/-!
# A rule that deletes, alone

A rule may point at parts of a text that lie one behind the other and offer to delete each of them.
Where no other rule is in force, a pass takes all that it offers, and what the pass leaves of the
text is what lies outside of the parts. If the rule has nothing to say of that, the run needs no
second pass.
-/

namespace ProseLinter

/-- That findings of a rule lie one behind the other in a text, hold some of it, and offer to delete
it. -/
structure Finding.Clearing (ruleId : String) (text : Text) (found : List Finding) : Prop where
  own : ∀ finding ∈ found, finding.ruleId = ruleId
  deletes : ∀ finding ∈ found, finding.fix = some (.delete finding.span)
  some_text : ∀ finding ∈ found, finding.span.start < finding.span.stop
  within : ∀ finding ∈ found, finding.span.stop ≤ text.length
  in_turn : found.Pairwise fun earlier later => earlier.span.stop ≤ later.span.start

def Proposal.deletion (order : Nat) (finding : Finding) : Proposal :=
  ⟨order, finding, .delete finding.span⟩

namespace Patching

variable {text : Text} {held proposals : List Proposal}

theorem judge_all (changes : ∀ proposal ∈ proposals, proposal.patch.isIdle text = false)
    (apart : (held ++ proposals).Pairwise fun a b => Apart a.patch b.patch) :
    taken (judge text held proposals) = proposals := by
  induction proposals generalizing held with
  | nil => rfl
  | cons proposal rest induction =>
      rw [List.forall_mem_cons] at changes
      rcases taken_judge_cons text held proposal
        rest with ⟨-, idle | ⟨earlier, member, clash⟩⟩ | ⟨holds, -⟩
      · rw [changes.1] at idle
        cases idle
      · have free := (List.pairwise_append.mp apart).2.2 earlier member proposal List.mem_cons_self
        rw [free.symm] at clash
        cases clash
      · rw [List.append_cons] at apart
        rw [holds, induction changes.2 apart]

theorem select_all (changes : ∀ proposal ∈ proposals, proposal.patch.isIdle text = false)
    (in_turn : proposals.Pairwise fun earlier later =>
      earlier.patch.span.start < later.patch.span.start ∧
        earlier.patch.span.stop ≤ later.patch.span.start) :
    select text proposals = proposals := by
  have sorted : proposals.mergeSort precedes = proposals := by
    apply List.mergeSort_of_pairwise
    refine in_turn.imp ?_
    intro earlier later before
    simp [precedes, before.1]
  have apart : proposals.Pairwise fun a b => Apart a.patch b.patch := by
    refine in_turn.imp ?_
    intro earlier later before
    have distinct : earlier.patch.span.start ≠ later.patch.span.start := Nat.ne_of_lt before.1
    simp [Apart, Patch.conflicts, Span.overlaps, distinct, before.2]
  rw [select, verdicts, sorted]
  exact judge_all changes apart

end Patching

namespace Finding.Clearing

variable {ruleId : String} {text : Text} {found : List Finding}

theorem sound (clearing : Clearing ruleId text found) :
    ∀ item ∈ found.map Supplied.proper, item.IsSound text.length := by
  intro item member
  obtain ⟨finding, known, same⟩ := List.mem_map.mp member
  refine ⟨finding, same.symm, clearing.within finding known, ?_⟩
  intro patch carried
  rw [clearing.deletes finding known, Option.some.injEq] at carried
  rw [← carried]
  exact clearing.within finding known

theorem taken_own (clearing : Clearing ruleId text found) :
    Finding.taken ruleId (found.map .proper) = found := by
  have each : ∀ finding ∈ found, finding.attributedTo ruleId = id finding := by
    intro finding member
    rw [attributedTo, ← clearing.own finding member]
    rfl
  rw [taken, List.filterMap_map]
  change found.filterMap (some ∘ attributedTo ruleId) = found
  rw [List.filterMap_eq_map, List.map_congr_left each, List.map_id]

theorem located (clearing : Clearing ruleId text found) (document : Document) :
    Clearing ruleId text (found.map (locatedIn document)) where
  own := List.forall_mem_map.mpr clearing.own
  deletes := List.forall_mem_map.mpr clearing.deletes
  some_text := List.forall_mem_map.mpr clearing.some_text
  within := List.forall_mem_map.mpr clearing.within
  in_turn := List.pairwise_map.mpr clearing.in_turn

theorem starts_in_turn (clearing : Clearing ruleId text found) :
    found.Pairwise fun earlier later =>
      earlier.span.start < later.span.start ∧ earlier.span.stop ≤ later.span.start := by
  refine clearing.in_turn.imp_of_mem ?_
  intro earlier later member _ before
  have some_text := clearing.some_text earlier member
  exact ⟨by omega, before⟩

end Finding.Clearing

namespace Profile

/-- That the one rule of a profile says of a document what findings say that offer to delete parts
of its text. -/
structure Clears (profile : Profile) (rule : EnabledRule) (document : Document)
    (found : List Finding) : Prop where
  only : profile.rules = [rule]
  contributes : rule.findings document = found
  clearing : Finding.Clearing rule.id document.text found

variable {profile : Profile} {rule : EnabledRule} {source : Source} {document next : Document}
  {found : List Finding} {limit : Nat}

theorem clears_of_find {settings : Value} {find : RuleContext → Document → List Finding}
    (only : profile.rules = [rule])
    (made : rule.check = .document (Options.documentCheck settings find))
    (clearing : Finding.Clearing rule.id document.text (find rule.context document)) :
    profile.Clears rule document (find rule.context document) := by
  refine ⟨only, ?_, clearing⟩
  have delivers : (Options.documentCheck settings find).Delivers rule.context document
      ((find rule.context document).map .proper) := ⟨rfl, clearing.sound⟩
  rw [EnabledRule.findings_of_delivers made delivers, clearing.taken_own]

theorem Clears.evaluate_eq (clears : profile.Clears rule document found) :
    profile.evaluate document = found.map (Finding.locatedIn document) := by
  rw [evaluate_eq_arrange, clears.only, List.flatMap_singleton, clears.contributes,
    arrange_eq_sorted]
  apply List.mergeSort_of_pairwise
  refine (clears.clearing.located document).starts_in_turn.imp ?_
  intro earlier later before
  simp [ordered, before.1]

theorem Clears.proposals_eq (clears : profile.Clears rule document found) :
    profile.proposals (profile.evaluate document) =
      (found.map (Finding.locatedIn document)).map
        (Proposal.deletion (profile.ruleOrder rule.id)) := by
  have located := clears.clearing.located document
  have each : ∀ finding ∈ found.map (Finding.locatedIn document),
      (finding.fix.map fun patch =>
        (⟨profile.ruleOrder finding.ruleId, finding, patch⟩ : Proposal)) =
        (some ∘ Proposal.deletion (profile.ruleOrder rule.id)) finding := by
    intro finding member
    rw [located.deletes finding member, located.own finding member]
    rfl
  rw [clears.evaluate_eq, proposals, List.filterMap_congr each, List.filterMap_eq_map]

theorem Clears.takenIn_eq (clears : profile.Clears rule document found) :
    profile.takenIn document =
      (found.map (Finding.locatedIn document)).map
        (Proposal.deletion (profile.ruleOrder rule.id)) := by
  have located := clears.clearing.located document
  rw [takenIn, clears.proposals_eq]
  apply Patching.select_all
  · intro proposal listed
    obtain ⟨finding, member, same⟩ := List.mem_map.mp listed
    subst same
    have some_text := located.some_text finding member
    have within := located.within finding member
    have covered : (finding.span.read document.text).length =
        finding.span.stop - finding.span.start :=
      Text.length_slice within
    have not_empty : finding.span.read document.text ≠ [] := by
      rw [← List.length_pos_iff, covered]
      omega
    exact beq_eq_false_iff_ne.mpr not_empty
  · exact List.pairwise_map.mpr located.starts_in_turn

theorem Clears.rewritten_text (clears : profile.Clears rule document found) :
    (profile.rewritten document).text = Text.outside (found.map (·.span)) 0 document.text := by
  have patches : (profile.takenIn document).map (·.patch) =
      found.map fun finding => Patch.delete finding.span := by
    rw [clears.takenIn_eq, List.map_map, List.map_map]
    rfl
  have ascends : (found.map fun finding => Patch.delete finding.span).Pairwise fun earlier later =>
      earlier.span.start < later.span.start ∧ earlier.span.stop ≤ later.span.start :=
    List.pairwise_map.mpr clears.clearing.starts_in_turn
  change Patching.apply document.text ((profile.takenIn document).map (·.patch)) = _
  rw [patches, Patching.apply_deletions ascends (List.forall_mem_map.mpr clears.clearing.within)
    (List.forall_mem_map.mpr fun _ _ => rfl), List.map_map]
  rfl

/-- If nothing is said of what one pass makes of a document, a run ends after that pass at the
latest, with nothing said and with the text of that pass. -/
theorem fix_in_one_pass (allowed : 1 ≤ limit) (parsed : profile.parse source = .ok document)
    (reads : profile.parse (profile.rewritten document) = .ok next)
    (silent : profile.evaluate next = []) :
    ∃ fixed, profile.process limit .fix source = .ok fixed ∧ fixed.result.passes ≤ 1 ∧
    fixed.result.findings = [] ∧
      (source.fixedBy fixed.result).text = (profile.rewritten document).text := by
  have settled : profile.takenIn next = [] := by
    simp [takenIn, silent, proposals, Patching.select, Patching.verdicts, Patching.judge,
      Patching.taken]
  obtain ⟨binding, bound, -⟩ := bound_of_parse parsed
  have same := source_of_parse parsed
  subst same
  have finish : ∃ count applied current, profile.Passes document count applied current ∧ count ≤ 1 ∧
      profile.takenIn current = [] ∧ profile.evaluate current = [] ∧
      current.text = (profile.rewritten document).text := by
    by_cases takes : profile.takenIn document = []
    · -- Nothing is taken, so the pass leaves the text, and the document read again is the one that
      -- was given.
      have unchanged : profile.rewritten document = document.source := by
        simp [rewritten, takes, Patching.apply, Patching.lastFirst, Document.source]
      rw [unchanged, parsed, Except.ok.injEq] at reads
      subst reads
      exact ⟨0, [], document, .start, Nat.zero_le 1, settled, silent,
        (congrArg Source.text unchanged).symm⟩
    · have adopts : profile.Adopts document next := ⟨takes, reads⟩
      exact ⟨1, _, next, .adopt .start adopts, Nat.le_refl 1, settled, silent, adopts.text_next⟩
  obtain ⟨count, applied, current, passes, within, settled, silent, text⟩ := finish
  have ends : profile.Ends limit count current .converged := .converged settled
  have in_limit : count ≤ limit := Nat.le_trans within allowed
  obtain ⟨-, result⟩ := fix_finished bound passes in_limit ends (by simp)
  have left := fix_leaves bound passes in_limit ends (by simp)
  refine ⟨profile.fix binding limit document, process_fix limit parsed bound, ?_, ?_, ?_⟩
  · rw [result]
    exact within
  · simp [result, silent, FixEnding.notices, arrange]
  · rw [left]
    exact text

theorem rule_of_build {entry : RuleEntry} {formats : List FormatEntry} {configuration : Entries}
    {asked : DocumentRule} (accepted : build [entry] formats configuration = .ok profile)
    (wanted : entry.rule = .proper (.document asked)) :
    ∃ rule check, profile.rules = [rule] ∧ rule.id = entry.id ∧
    asked.prepare entry.options = .ok check ∧
      rule.check = .document check := by
  obtain ⟨-, clean, -, same⟩ := build_eq_ok_iff.mp accepted
  obtain ⟨-, rule, enabled⟩ :=
    entry.violations_eq_nil_iff.mp (clean entry (List.mem_singleton_self entry))
  obtain ⟨same_id, own, -, -, prepared⟩ := RuleEntry.enables_iff.mp enabled
  rw [wanted, Supplied.proper.injEq] at own
  rw [← own, Rule.prepare] at prepared
  have rules : profile.rules = [rule] := by
    rw [same]
    simp only [List.filterMap_cons, enabled, Except.toOption, List.filterMap_nil]
  cases made : asked.prepare entry.options with
  | error fault =>
      rw [made] at prepared
      cases prepared
  | ok check =>
      rw [made, Except.map, Except.ok.injEq] at prepared
      exact ⟨rule, check, rules, same_id, rfl, prepared.symm⟩

end Profile

end ProseLinter
