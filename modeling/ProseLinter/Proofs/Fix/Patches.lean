import Mathlib.Algebra.BigOperators.Group.List.Basic
import Mathlib.Algebra.Ring.Int.Defs
import ProseLinter.Patching

/-!
# The patches of a pass

The patches that a pass takes lie apart: each of them ends before the next one starts. Applied from
the last to the first, each meets the part of the text that it was proposed for, and the length of
the text changes by what all of them put in and take out.
-/

namespace ProseLinter

theorem Span.stop_le_of_apart {first second : Span} (apart : first.overlaps second = false)
    (before : first.start ≤ second.start) : first.stop ≤ second.start := by
  have ordered := second.ordered
  simp only [overlaps, Bool.or_eq_false_iff, Bool.and_eq_false_iff, beq_eq_false_iff_ne,
    decide_eq_false_iff_not] at apart
  omega

def Patch.growth (patch : Patch) : Int := patch.replacement.length - patch.span.length

/-- By how much the fix of a finding makes a text longer. -/
def Finding.growth (finding : Finding) : Int := (finding.fix.map Patch.growth).getD 0

namespace Patching

def Apart (first second : Patch) : Prop := first.conflicts second = false

theorem Apart.symm {first second : Patch} (apart : Apart first second) : Apart second first := by
  rw [Apart, Patch.conflicts, Span.overlaps_comm]
  exact apart

section

variable {text : Text} {held proposals : List Proposal} {proposal : Proposal}

theorem precedes_transitive (first second third : Proposal) (early : precedes first second)
    (late : precedes second third) : precedes first third := by
  simp only [precedes, Bool.or_eq_true, Bool.and_eq_true, decide_eq_true_eq,
    beq_iff_eq] at early late ⊢
  omega

theorem precedes_total (first second : Proposal) :
    precedes first second || precedes second first := by
  simp only [precedes, Bool.or_eq_true, Bool.and_eq_true, decide_eq_true_eq, beq_iff_eq]
  omega

theorem start_le_of_precedes {first second : Proposal} (before : precedes first second) :
    first.patch.span.start ≤ second.patch.span.start := by
  simp only [precedes, Bool.or_eq_true, Bool.and_eq_true, decide_eq_true_eq, beq_iff_eq] at before
  omega

/-- What becomes of the next proposal: it is passed over, because it changes nothing or conflicts
with one that is held, or it is held as well. -/
theorem taken_judge_cons (text : Text) (held : List Proposal) (proposal : Proposal)
    (rest : List Proposal) :
    taken (judge text held (proposal :: rest)) = taken (judge text held rest) ∧
        (proposal.patch.isIdle text ∨ ∃ earlier ∈ held, proposal.patch.conflicts earlier.patch) ∨
      taken (judge text held (proposal :: rest)) =
        proposal :: taken (judge text (held ++ [proposal]) rest) ∧
        proposal.patch.isIdle text = false ∧
        ∀ earlier ∈ held, Apart proposal.patch earlier.patch := by
  rw [judge]
  by_cases idle : proposal.patch.isIdle text
  · rw [if_pos idle]
    exact .inl ⟨rfl, .inl idle⟩
  · rw [if_neg idle]
    cases found : held.find? fun earlier => proposal.patch.conflicts earlier.patch with
    | some earlier =>
        have conflicts : proposal.patch.conflicts earlier.patch = true := by
          simpa using List.find?_some found
        exact .inl ⟨rfl, .inr ⟨earlier, List.mem_of_find?_eq_some found, conflicts⟩⟩
    | none =>
        refine .inr ⟨rfl, by simpa using idle, ?_⟩
        intro earlier member
        simpa [Apart] using List.find?_eq_none.mp found earlier member

theorem judge_sublist (text : Text) (held proposals : List Proposal) :
    (taken (judge text held proposals)).Sublist proposals := by
  induction proposals generalizing held with
  | nil => exact .slnil
  | cons proposal rest induction =>
      rcases taken_judge_cons text held proposal rest with ⟨passed, -⟩ | ⟨holds, -⟩
      · rw [passed]
        exact (induction held).cons proposal
      · rw [holds]
        exact (induction _).cons_cons proposal

theorem judge_apart (apart : held.Pairwise fun a b => Apart a.patch b.patch) :
    (held ++ taken (judge text held proposals)).Pairwise fun a b => Apart a.patch b.patch := by
  induction proposals generalizing held with
  | nil => rwa [show taken (judge text held []) = [] from rfl, List.append_nil]
  | cons proposal rest induction =>
      rcases taken_judge_cons text held proposal rest with ⟨passed, -⟩ | ⟨holds, -, free⟩
      · rw [passed]
        exact induction apart
      · have joined : (held ++ [proposal]).Pairwise fun a b => Apart a.patch b.patch := by
          rw [List.pairwise_append]
          refine ⟨apart, List.pairwise_singleton _ _, ?_⟩
          intro earlier member last same
          rw [List.mem_singleton.mp same]
          exact (free earlier member).symm
        rw [holds, List.append_cons]
        exact induction joined

theorem judge_changes (member : proposal ∈ taken (judge text held proposals)) :
    proposal.patch.isIdle text = false := by
  induction proposals generalizing held with
  | nil => cases member
  | cons next rest induction =>
      rcases taken_judge_cons text held next rest with ⟨passed, -⟩ | ⟨holds, changes, -⟩
      · rw [passed] at member
        exact induction member
      · rw [holds, List.mem_cons] at member
        rcases member with same | later
        · rw [same]
          exact changes
        · exact induction later

theorem mem_select (member : proposal ∈ select text proposals) : proposal ∈ proposals :=
  List.mem_mergeSort.mp ((judge_sublist text [] _).mem member)

theorem select_changes (member : proposal ∈ select text proposals) :
    proposal.patch.isIdle text = false :=
  judge_changes member

theorem select_in_turn (text : Text) (proposals : List Proposal) :
    (select text proposals).Pairwise fun a b => a.patch.span.stop ≤ b.patch.span.start := by
  have apart : (select text proposals).Pairwise fun a b => Apart a.patch b.patch := judge_apart .nil
  have sorted := (List.pairwise_mergeSort precedes_transitive precedes_total proposals).sublist
    (judge_sublist text [] _)
  exact (apart.and sorted).imp fun both =>
    Span.stop_le_of_apart both.1 (start_le_of_precedes both.2)

theorem select_apart (text : Text) (proposals : List Proposal) :
    ((select text proposals).map (·.patch)).Pairwise Apart := by
  rw [List.pairwise_map]
  exact judge_apart .nil

end

section

variable {text : Text} {patch : Patch} {patches : List Patch}

/-- Patches in the order in which they are applied: each lies before those that are applied earlier,
and all lie in the text. -/
structure Descend (text : Text) (patches : List Patch) : Prop where
  in_turn : patches.Pairwise fun late early => early.span.stop ≤ late.span.start
  within : ∀ patch ∈ patches, patch.span.stop ≤ text.length

theorem apply_eq_foldl (text : Text) (patches : List Patch) :
    apply text patches = (lastFirst patches).foldl
      (fun patched patch => patch.apply patched) text := rfl

theorem lastFirst_descend (apart : patches.Pairwise Apart)
    (within : ∀ patch ∈ patches, patch.span.stop ≤ text.length) :
    Descend text (lastFirst patches) := by
  have same : (lastFirst patches).Perm patches := List.mergeSort_perm _ _
  constructor
  · have falling : (lastFirst patches).Pairwise fun late early => early.span.start ≤
      late.span.start := by
      have sorted : (lastFirst patches).Pairwise fun a b => decide (b.span.start ≤ a.span.start) :=
        List.pairwise_mergeSort
        (by intro a b c; simp only [decide_eq_true_eq]; omega)
        (by intro a b; simp only [Bool.or_eq_true, decide_eq_true_eq]; omega) patches
      exact sorted.imp fun before => of_decide_eq_true before
    have free := (same.pairwise_iff (fun {_ _} apart => apart.symm)).mpr apart
    exact (free.and falling).imp fun both => Span.stop_le_of_apart both.1.symm both.2
  · intro patch member
    exact within patch (same.mem_iff.mp member)

theorem length_apply_patch (within : patch.span.stop ≤ text.length) :
    ((patch.apply text).length : Int) = text.length + patch.growth := by
  have spliced := text.splice_length patch.span.ordered within patch.replacement
  have ordered := patch.span.ordered
  rw [Patch.apply, Patch.growth, Span.length]
  omega

theorem take_apply_patch (within : patch.span.stop ≤ text.length) :
    (patch.apply text).take patch.span.start = text.take patch.span.start := by
  have ordered := patch.span.ordered
  have reached : (text.take patch.span.start).length = patch.span.start := by
    rw [List.length_take]
    omega
  rw [Patch.apply, Text.splice, List.append_assoc, List.take_left' reached]

theorem Descend.read_of_later (descend : Descend text (patch :: patches)) {later : Patch}
    (member : later ∈ patches) :
    later.span.read (patch.apply text) = later.span.read text := by
  have before := (List.pairwise_cons.mp descend.in_turn).1 later member
  have kept := take_apply_patch (descend.within patch List.mem_cons_self)
  have cut : ∀ whole : Text, later.span.read whole =
      later.span.read (whole.take patch.span.start) := by
    intro whole
    rw [Span.read, Span.read, Text.slice, Text.slice, List.drop_take, List.take_take]
    congr 1
    omega
  rw [cut (patch.apply text), kept, ← cut text]

theorem Descend.rest (descend : Descend text (patch :: patches)) :
    Descend (patch.apply text) patches := by
  obtain ⟨before, in_turn⟩ := List.pairwise_cons.mp descend.in_turn
  refine ⟨in_turn, ?_⟩
  intro later member
  have kept := congrArg List.length (take_apply_patch (descend.within patch List.mem_cons_self))
  have within := descend.within patch List.mem_cons_self
  have ordered := patch.span.ordered
  rw [List.length_take, List.length_take] at kept
  exact Nat.le_trans (before later member) (by omega)

theorem Descend.length_foldl (descend : Descend text patches) :
    ((patches.foldl (fun patched patch => patch.apply patched) text).length : Int) =
      text.length + (patches.map Patch.growth).sum := by
  induction patches generalizing text with
  | nil => simp
  | cons patch rest induction =>
      rw [List.foldl_cons, induction descend.rest,
        length_apply_patch (descend.within patch List.mem_cons_self), List.map_cons, List.sum_cons,
        Int.add_assoc]

theorem length_apply (apart : patches.Pairwise Apart)
    (within : ∀ patch ∈ patches, patch.span.stop ≤ text.length) :
    ((apply text patches).length : Int) = text.length + (patches.map Patch.growth).sum := by
  have same : (lastFirst patches).Perm patches := List.mergeSort_perm _ _
  rw [apply_eq_foldl, (lastFirst_descend apart within).length_foldl, (same.map Patch.growth).sum_eq]

end

end Patching

end ProseLinter
