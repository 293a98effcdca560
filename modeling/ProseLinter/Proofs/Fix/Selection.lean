import ProseLinter.Proofs.Fix.Patches

/-!
# The choice that a pass makes

A pass goes through the proposals by where their patches start, then by the order of their rules,
and proposals that are alike in both as they were handed over. What it takes is fixed by that order
alone: a proposal that would change the text is passed over exactly if its patch overlaps one that
was taken before its turn.
-/

namespace ProseLinter

/-- That a span takes up an offset: one that it covers, or the one at which it starts. So an
insertion, which covers nothing, takes up the place where it is made. -/
def Span.Occupies (span : Span) (offset : Nat) : Prop :=
  offset = span.start ∨ span.start ≤ offset ∧ offset < span.stop

theorem Span.overlaps_iff (first second : Span) :
    first.overlaps second ↔ ∃ offset, first.Occupies offset ∧ second.Occupies offset := by
  have first_ordered := first.ordered
  have second_ordered := second.ordered
  simp only [overlaps, Occupies, Bool.or_eq_true, Bool.and_eq_true, beq_iff_eq, decide_eq_true_eq]
  constructor
  · intro overlap
    -- The later of the two starts lies in both.
    exact ⟨max first.start second.start, by omega, by omega⟩
  · rintro ⟨offset, here, there⟩
    omega

namespace Patching

/-- That a proposal has its turn before another, each with its place among those handed over: by the
start of the patch, then by the order of the rule, then by the place. -/
def Before (earlier later : Proposal × Nat) : Prop :=
  earlier.1.patch.span.start < later.1.patch.span.start ∨
    earlier.1.patch.span.start = later.1.patch.span.start ∧
      (earlier.1.order < later.1.order ∨ earlier.1.order = later.1.order ∧ earlier.2 < later.2)

variable {text : Text} {held proposals : List Proposal} {queue : List (Proposal × Nat)}

theorem Before.asymm {earlier later : Proposal × Nat} (before : Before earlier later) :
    ¬ Before later earlier := by
  simp only [Before] at before ⊢
  omega

/-- The proposals with their places, in the order of their turns. -/
def turns (proposals : List Proposal) : List (Proposal × Nat) :=
  proposals.zipIdx.mergeSort (List.zipIdxLE precedes)

theorem mem_turns {entry : Proposal × Nat} :
    entry ∈ turns proposals ↔ proposals[entry.2]? = some entry.1 := by
  rw [turns, List.mem_mergeSort, List.mem_zipIdx_iff_getElem?]

/-- A stable sort by start and rule is a sort by start, rule and place. -/
theorem turns_proposals (proposals : List Proposal) :
    (turns proposals).map (·.1) = proposals.mergeSort precedes :=
  List.mergeSort_zipIdx

theorem before_of_sorted {earlier later : Proposal × Nat}
    (sorted : List.zipIdxLE precedes earlier later) (apart : earlier.2 ≠ later.2) :
    Before earlier later := by
  simp only [List.zipIdxLE, precedes, Bool.or_eq_true, Bool.and_eq_true, decide_eq_true_eq,
    beq_iff_eq] at sorted
  rw [Before]
  split at sorted
  · split at sorted
    · rw [decide_eq_true_eq] at sorted
      omega
    · omega
  · cases sorted

theorem turns_in_order (proposals : List Proposal) : (turns proposals).Pairwise Before := by
  have sorted := List.pairwise_mergeSort (List.zipIdxLE_trans precedes_transitive)
    (List.zipIdxLE_total precedes_total) proposals.zipIdx
  have places : ((turns proposals).map (·.2)).Nodup := by
    have same : (turns proposals).Perm proposals.zipIdx := List.mergeSort_perm _ _
    rw [(same.map _).nodup_iff, List.zipIdx_map_snd]
    exact List.nodup_range'
  exact (sorted.and (List.pairwise_map.mp places)).imp fun both => before_of_sorted both.1 both.2

/-- What is taken of proposals that have their turns one after the other, when some are held
already: one that would change the text is passed over exactly if it conflicts with one that is
held, or with one taken before its turn. -/
theorem judge_turns (text : Text) (held : List Proposal) (in_order : queue.Pairwise Before) :
    ∃ chosen : List (Proposal × Nat), chosen.Sublist queue ∧
    chosen.map (·.1) = taken (judge text held (queue.map (·.1))) ∧
      ∀ entry ∈ queue, entry.1.patch.isIdle text = false →
        (entry ∉ chosen ↔
          (∃ earlier ∈ held, entry.1.patch.conflicts earlier.patch) ∨
            ∃ earlier ∈ chosen, Before earlier entry ∧
              entry.1.patch.conflicts earlier.1.patch) := by
  induction queue generalizing held with
  | nil => exact ⟨[], .slnil, rfl, by simp⟩
  | cons next rest induction =>
      obtain ⟨first, rest_in_order⟩ := List.pairwise_cons.mp in_order
      have waits : ∀ chosen : List (Proposal × Nat), chosen.Sublist rest →
          ∀ entry ∈ chosen, ¬ Before entry next :=
        fun chosen part entry member => (first entry (part.mem member)).asymm
      rcases taken_judge_cons text held next.1
        (rest.map (·.1)) with ⟨passed, reason⟩ | ⟨holds, changes, free⟩
      · obtain ⟨chosen, part, made, greedy⟩ := induction held rest_in_order
        refine ⟨chosen, part.cons next, by rw [made, List.map_cons, passed], ?_⟩
        intro entry member changes
        rcases List.mem_cons.mp member with same | later
        · subst same
          have absent : entry ∉ chosen :=
            fun inside => waits chosen part entry inside (first entry (part.mem inside))
          have clash : ∃ earlier ∈ held, entry.1.patch.conflicts earlier.patch := by
            simpa only [changes, Bool.false_eq_true, false_or] using reason
          exact ⟨fun _ => .inl clash, fun _ => absent⟩
        · exact greedy entry later changes
      · obtain ⟨chosen, part, made, greedy⟩ := induction (held ++ [next.1]) rest_in_order
        refine ⟨next :: chosen, part.cons_cons next,
          by rw [List.map_cons, made, List.map_cons, holds], ?_⟩
        intro entry member entry_changes
        rcases List.mem_cons.mp member with same | later
        · subst same
          refine ⟨fun absent => absurd List.mem_cons_self absent, ?_⟩
          rintro (⟨earlier, inside, clash⟩ | ⟨earlier, inside, before, -⟩)
          · rw [free earlier inside] at clash
            cases clash
          · rcases List.mem_cons.mp inside with same | later
            · exact absurd (same ▸ before) before.asymm
            · exact absurd before (waits chosen part earlier later)
        · have other : entry ≠ next := by
            rintro rfl
            exact (first entry later).asymm (first entry later)
          rw [List.mem_cons, not_or, greedy entry later entry_changes]
          have turn := first entry later
          -- Held with the others or taken at the head of the queue: the one that was just taken is
          -- the same obstacle.
          simp only [List.mem_append, List.mem_cons, List.not_mem_nil, or_and_right, exists_or,
            exists_eq_left, other, turn, not_false_eq_true, true_and, or_false, or_assoc]

end Patching

/-- What a pass takes is the choice that is made by going through the proposals in turn, whatever
they are. Each of those that are taken starts behind the one before it and behind where that one
ends, and each would change the text; and of those that would change the text, one is left out
exactly if its patch takes up an offset that one taken before its turn takes up. -/
theorem passes_choose_in_turn (text : Text) (proposals : List Proposal) :
    (Patching.select text proposals).Pairwise (fun earlier later =>
      earlier.patch.span.start < later.patch.span.start ∧
      earlier.patch.span.stop ≤ later.patch.span.start) ∧
    (∀ proposal ∈ Patching.select text proposals, proposal.patch.isIdle text = false) ∧
    ∃ chosen : List (Proposal × Nat), chosen.map (·.1) = Patching.select text proposals ∧
      (∀ entry ∈ chosen, proposals[entry.2]? = some entry.1) ∧
      ∀ (place : Nat) (proposal : Proposal), proposals[place]? = some proposal →
      proposal.patch.isIdle text = false →
        ((proposal, place) ∉ chosen ↔
          ∃ earlier ∈ chosen, Patching.Before earlier (proposal, place) ∧
            ∃ offset, earlier.1.patch.span.Occupies offset ∧
            proposal.patch.span.Occupies offset) := by
  refine ⟨?_, fun proposal => Patching.select_changes, ?_⟩
  · have apart := List.pairwise_map.mp (Patching.select_apart text proposals)
    refine (apart.and (Patching.select_in_turn text proposals)).imp ?_
    rintro earlier later ⟨apart, in_turn⟩
    have ordered := earlier.patch.span.ordered
    have distinct : earlier.patch.span.start ≠ later.patch.span.start := by
      intro same
      rw [Patching.Apart, Patch.conflicts, Span.overlaps, same, beq_self_eq_true,
        Bool.true_or] at apart
      cases apart
    exact ⟨by omega, in_turn⟩
  · obtain ⟨chosen, part, made, greedy⟩ :=
      Patching.judge_turns text [] (Patching.turns_in_order proposals)
    rw [Patching.turns_proposals] at made
    refine ⟨chosen, made, fun entry member => Patching.mem_turns.mp (part.mem member), ?_⟩
    intro place proposal there changes
    rw [greedy (proposal, place) (Patching.mem_turns.mpr there) changes]
    simp only [List.not_mem_nil, false_and, exists_false, false_or, Patch.conflicts,
      Span.overlaps_iff, and_comm (a := proposal.patch.span.Occupies _)]

/-- A proposal of the rule at a place among the rules. -/
def Proposal.at (order : Nat) (patch : Patch) : Proposal :=
  ⟨order, ⟨"", .info, patch.span, "", some patch, none⟩, patch⟩

/-- An insertion inside of what is deleted is left out, though it is handed over first; one at the
end is not. -/
example :
    Patching.select ['a', 'b', 'c', 'd']
      [.at 0 (.insert 2 ['x']), .at 0 (.insert 3 ['y']), .at 1 (.delete (Span.ofLength 1 2))] =
        [.at 1 (.delete (Span.ofLength 1 2)), .at 0 (.insert 3 ['y'])] := by
  cbv

end ProseLinter
