import Mathlib.Data.List.Permutation
import ProseLinter.Proofs.Fix.Patches
import ProseLinter.Proofs.Text.Outside

/-!
# Patches applied at once

The patches that a pass takes are applied one after the other, from the last to the first. What
comes of it is what they make of the text when all of them are applied to it at once: the parts of
the text that lie before, between and behind them, in their order, and in each gap the replacement
of the patch that stands there.
-/

namespace ProseLinter

theorem Span.start_ne_of_apart {first second : Span} (apart : first.overlaps second = false) :
    first.start ≠ second.start := by
  intro same
  rw [overlaps, same, beq_self_eq_true, Bool.true_or] at apart
  cases apart

theorem Text.slice_append_drop {text : Text} {start stop : Nat} (ordered : start ≤ stop) :
    text.slice start stop ++ text.drop stop = text.drop start := by
  have behind : text.drop stop = (text.drop start).drop (stop - start) := by
    rw [List.drop_drop, Nat.add_sub_cancel' ordered]
  rw [slice, behind, List.take_append_drop]

theorem Text.length_slice {text : Text} {start stop : Nat} (within : stop ≤ text.length) :
    (text.slice start stop).length = stop - start := by
  rw [slice, List.length_take, List.length_drop]
  omega

namespace Patching

/-- The parts of a text from an offset on that stand before, between and behind patches. -/
def keptParts (text : Text) (start : Nat) : List Patch → List Text
  | [] => [text.drop start]
  | patch :: rest => text.slice start patch.span.start :: keptParts text patch.span.stop rest

/-- Parts of a text one after the other, with a replacement in each gap. -/
def woven : List Text → List Text → Text
  | parts, [] => parts.flatten
  | [], _ :: _ => []
  | part :: parts, replacement :: replacements => part ++ replacement ++ woven parts replacements

/-- That patches stand one behind the other in a text, the first of them not before an offset. -/
def Ascend (text : Text) : Nat → List Patch → Prop
  | _, [] => True
  | start, patch :: rest =>
      start ≤ patch.span.start ∧ patch.span.stop ≤ text.length ∧ Ascend text patch.span.stop rest

variable {text : Text} {start : Nat} {patch : Patch} {patches ascending : List Patch}

theorem ascend_of_in_turn
    (in_turn : patches.Pairwise fun earlier later => earlier.span.stop ≤ later.span.start)
    (within : ∀ patch ∈ patches, patch.span.stop ≤ text.length)
    (behind : ∀ patch ∈ patches, start ≤ patch.span.start) :
    Ascend text start patches := by
  induction patches generalizing start with
  | nil => trivial
  | cons patch rest induction =>
      obtain ⟨before, in_turn⟩ := List.pairwise_cons.mp in_turn
      rw [List.forall_mem_cons] at within behind
      exact ⟨behind.1, within.1, induction in_turn within.2 before⟩

theorem Ascend.behind (ascend : Ascend text start patches) :
    ∀ patch ∈ patches, start ≤ patch.span.start := by
  induction patches generalizing start with
  | nil => exact fun patch member => absurd member List.not_mem_nil
  | cons first rest induction =>
      obtain ⟨behind, -, ascend⟩ := ascend
      refine List.forall_mem_cons.mpr ⟨behind, ?_⟩
      intro patch member
      have ordered := first.span.ordered
      have later := induction ascend patch member
      omega

theorem Ascend.foldr_apply (ascend : Ascend text start patches) :
    patches.foldr (fun patch patched => patch.apply patched) text =
      text.take start ++ woven (keptParts text start patches) (patches.map (·.replacement)) := by
  induction patches generalizing start with
  | nil =>
      rw [keptParts, List.map_nil, woven, List.flatten_cons, List.flatten_nil, List.append_nil,
        List.foldr_nil, List.take_append_drop]
  | cons patch rest induction =>
      obtain ⟨behind, within, ascend⟩ := ascend
      have ordered := patch.span.ordered
      have reached : (text.take patch.span.stop).length = patch.span.stop :=
        List.length_take_of_le within
      have before : text.take patch.span.start =
          text.take start ++ text.slice start patch.span.start := by
        rw [Text.slice, ← List.take_add, Nat.add_sub_cancel' behind]
      have first : (text.take patch.span.stop).take patch.span.start =
          text.take patch.span.start := by
        rw [List.take_take, Nat.min_eq_left ordered]
      rw [List.foldr_cons, induction ascend, Patch.apply, Text.splice,
        List.take_append_of_le_length (by omega), first, List.drop_left' reached, before, keptParts,
        List.map_cons, woven]
      simp only [List.append_assoc]

theorem Ascend.spans_behind (ascend : Ascend text start patches) :
    ∀ span ∈ patches.map (·.span), start ≤ span.start :=
  List.forall_mem_map.mpr ascend.behind

theorem Ascend.flatten_kept (ascend : Ascend text start patches) :
    (keptParts text start patches).flatten =
      Text.outside (patches.map (·.span)) start (text.drop start) := by
  induction patches generalizing start with
  | nil =>
      rw [Text.outside_of_free (by simp), keptParts, List.flatten_cons, List.flatten_nil,
        List.append_nil]
  | cons patch rest induction =>
      obtain ⟨behind, within, ascend⟩ := ascend
      have ordered := patch.span.ordered
      have whole : Ascend text patch.span.start (patch :: rest) := ⟨Nat.le_refl _, within, ascend⟩
      let spans := (patch :: rest).map (·.span)
      have before : Text.outside spans start (text.slice start patch.span.start) =
          text.slice start patch.span.start := by
        apply Text.outside_of_behind
        rw [Text.length_slice (by omega), Nat.add_sub_cancel' behind]
        exact whole.spans_behind
      have inside : Text.outside spans patch.span.start
          (text.slice patch.span.start patch.span.stop) = [] := by
        have covering : patch.span ∈ spans := List.mem_cons_self
        refine Text.outside_of_covered covering (Nat.le_refl patch.span.start) ?_
        rw [Text.length_slice within]
        omega
      have after : Text.outside spans patch.span.stop (text.drop patch.span.stop) =
          Text.outside (rest.map (·.span)) patch.span.stop (text.drop patch.span.stop) :=
        Text.outside_of_passed (Nat.le_refl patch.span.stop)
      have first_end : start + (text.slice start patch.span.start).length = patch.span.start := by
        rw [Text.length_slice (by omega)]
        omega
      have patch_end : patch.span.start + (text.slice patch.span.start patch.span.stop).length =
          patch.span.stop := by
        rw [Text.length_slice within]
        omega
      rw [keptParts, List.flatten_cons, induction ascend, ← Text.slice_append_drop behind,
        Text.outside_append, before, first_end, ← Text.slice_append_drop ordered,
        Text.outside_append, inside, patch_end, after, List.nil_append]

theorem woven_of_nothing {parts replacements : List Text}
    (nothing : ∀ replacement ∈ replacements, replacement = [])
    (fewer : replacements.length ≤ parts.length) : woven parts replacements = parts.flatten := by
  induction replacements generalizing parts with
  | nil => rw [woven]
  | cons replacement rest induction =>
      rw [List.forall_mem_cons] at nothing
      cases parts with
      | nil => simp at fewer
      | cons part parts =>
          rw [List.length_cons, List.length_cons, Nat.add_le_add_iff_right] at fewer
          rw [woven, induction nothing.2 fewer, nothing.1, List.append_nil, List.flatten_cons]

theorem length_kept (text : Text) (start : Nat) (patches : List Patch) :
    (keptParts text start patches).length = patches.length + 1 := by
  induction patches generalizing start with
  | nil => rfl
  | cons patch rest induction => rw [keptParts, List.length_cons, List.length_cons, induction]

theorem lastFirst_eq_reverse (listed : patches.Perm ascending)
    (ascends : ascending.Pairwise fun earlier later => earlier.span.start < later.span.start) :
    lastFirst patches = ascending.reverse := by
  have same : (lastFirst patches).Perm ascending.reverse :=
    (List.mergeSort_perm _ _).trans (listed.trans ascending.reverse_perm.symm)
  have sorted : (lastFirst patches).Pairwise fun a b => decide (b.span.start ≤ a.span.start) :=
    List.pairwise_mergeSort
    (by intro a b c; simp only [decide_eq_true_eq]; omega)
    (by intro a b; simp only [Bool.or_eq_true, decide_eq_true_eq]; omega) patches
  have falling : ascending.reverse.Pairwise fun late early => early.span.start < late.span.start :=
    List.pairwise_reverse.mpr ascends
  have distinct : (lastFirst patches).Pairwise fun late early => early.span.start ≠
      late.span.start :=
    (same.pairwise_iff fun differ => differ.symm).mpr
      (falling.imp fun before => Nat.ne_of_lt before)
  have strict : (lastFirst patches).Pairwise fun late early => early.span.start < late.span.start :=
    (sorted.and distinct).imp fun both => Nat.lt_of_le_of_ne (of_decide_eq_true both.1) both.2
  exact same.eq_of_pairwise (fun _ _ _ _ below above => absurd below above.asymm) strict falling

theorem select_ascends (text : Text) (proposals : List Proposal) :
    ((select text proposals).map (·.patch)).Pairwise fun earlier later =>
      earlier.span.start < later.span.start ∧ earlier.span.stop ≤ later.span.start := by
  have in_turn : ((select text proposals).map (·.patch)).Pairwise fun earlier later =>
      earlier.span.stop ≤ later.span.start := List.pairwise_map.mpr (select_in_turn text proposals)
  refine ((select_apart text proposals).and in_turn).imp ?_
  rintro earlier later ⟨apart, in_turn⟩
  have ordered := earlier.span.ordered
  have distinct := Span.start_ne_of_apart apart
  exact ⟨by omega, in_turn⟩

/-- Whatever order patches are listed in, to apply them is to weave their replacements into what
they leave of the text. -/
theorem apply_eq_woven (listed : patches.Perm ascending)
    (ascends : ascending.Pairwise fun earlier later =>
      earlier.span.start < later.span.start ∧ earlier.span.stop ≤ later.span.start)
    (within : ∀ patch ∈ ascending, patch.span.stop ≤ text.length) :
    apply text patches = woven (keptParts text 0 ascending) (ascending.map (·.replacement)) := by
  have ascend : Ascend text 0 ascending :=
    ascend_of_in_turn (ascends.imp (·.2)) within fun patch _ => Nat.zero_le patch.span.start
  rw [apply_eq_foldl, lastFirst_eq_reverse listed (ascends.imp (·.1)), List.foldl_reverse,
    ascend.foldr_apply, List.take_zero, List.nil_append]

theorem apply_deletions (ascends : patches.Pairwise fun earlier later =>
      earlier.span.start < later.span.start ∧ earlier.span.stop ≤ later.span.start)
    (within : ∀ patch ∈ patches, patch.span.stop ≤ text.length)
    (deletes : ∀ patch ∈ patches, patch.replacement = []) :
    apply text patches = Text.outside (patches.map (·.span)) 0 text := by
  have ascend : Ascend text 0 patches :=
    ascend_of_in_turn (ascends.imp (·.2)) within fun patch _ => Nat.zero_le patch.span.start
  have fewer : (patches.map (·.replacement)).length ≤ (keptParts text 0 patches).length := by
    rw [List.length_map, length_kept]
    exact Nat.le_succ _
  rw [apply_eq_woven (List.Perm.refl _) ascends within,
    woven_of_nothing (List.forall_mem_map.mpr deletes) fewer, ascend.flatten_kept, List.drop_zero]

end Patching

/-- Patches that lie in the text and that a pass takes are applied as if at once, in whatever order
they are listed. Told in the order in which they stand, each starts behind the one before it and not
before that one ends. What comes of the text is its part before the first, the replacement of the
first, the part up to the second, and so on, and at last the part behind the last of them. The parts
are together all code points that no patch covers, each once and in their order. The text grows by
what each patch puts in less what it takes out, and any other order gives the same. -/
theorem patches_apply_at_once (text : Text) (proposals : List Proposal) (patches : List Patch)
    (listed : patches.Perm ((Patching.select text proposals).map (·.patch)))
    (within : ∀ patch ∈ patches, patch.span.stop ≤ text.length) :
    let ascending := (Patching.select text proposals).map (·.patch)
    ascending.Pairwise (fun earlier later =>
      earlier.span.start < later.span.start ∧ earlier.span.stop ≤ later.span.start) ∧
    Patching.apply text patches =
      Patching.woven (Patching.keptParts text 0 ascending) (ascending.map (·.replacement)) ∧
    (Patching.keptParts text 0 ascending).flatten = Text.outside (patches.map (·.span)) 0 text ∧
    ((Patching.apply text patches).length : Int) =
      text.length +
        (patches.map fun patch => (patch.replacement.length : Int) - patch.span.length).sum ∧
    ∀ others : List Patch, others.Perm patches →
      Patching.apply text others = Patching.apply text patches := by
  intro ascending
  have ascends := Patching.select_ascends text proposals
  have ascending_within : ∀ patch ∈ ascending, patch.span.stop ≤ text.length :=
    fun patch member => within patch (listed.mem_iff.mpr member)
  have ascend : Patching.Ascend text 0 ascending :=
    Patching.ascend_of_in_turn (ascends.imp (·.2)) ascending_within fun patch _ =>
      Nat.zero_le patch.span.start
  have apart : patches.Pairwise Patching.Apart :=
    (listed.pairwise_iff fun apart => apart.symm).mpr (Patching.select_apart text proposals)
  refine ⟨ascends, Patching.apply_eq_woven listed ascends ascending_within, ?_,
    Patching.length_apply apart within, ?_⟩
  · rw [ascend.flatten_kept, List.drop_zero]
    apply Text.outside_congr
    intro place above below
    exact (listed.map (·.span)).any_eq.symm
  · intro others relisted
    rw [Patching.apply_eq_woven listed ascends ascending_within,
      Patching.apply_eq_woven (relisted.trans listed) ascends ascending_within]

/-- A replacement, a deletion right behind it and an insertion right behind that: none of them is in
the way of another, and in the text that they make of this one, though they are listed in another
order, each has its place. -/
theorem neighbours_are_applied_at_once :
    let text : Text := ['a', 'b', 'c', 'd']
    let proposals : List Proposal := [
      ⟨1, ⟨"", .info, Span.point 3, "", none, none⟩, .insert 3 ['y', 'z']⟩,
      ⟨0, ⟨"", .info, Span.point 0, "", none, none⟩, ⟨Span.ofLength 0 1, ['x', 'x']⟩⟩,
      ⟨0, ⟨"", .info, Span.point 1, "", none, none⟩, .delete (Span.ofLength 1 2)⟩]
    let patches : List Patch :=
      [.delete (Span.ofLength 1 2), .insert 3 ['y', 'z'], ⟨Span.ofLength 0 1, ['x', 'x']⟩]
    patches.Perm ((Patching.select text proposals).map (·.patch)) ∧
      (∀ patch ∈ patches, patch.span.stop ≤ text.length) ∧
      Patching.apply text patches = ['x', 'x', 'y', 'z', 'd'] ∧
      Patching.keptParts text 0 ((Patching.select text proposals).map (·.patch)) =
        [[], [], [], ['d']] ∧
      Text.outside (patches.map (·.span)) 0 text = ['d'] := by
  intro text proposals patches
  have chosen : (Patching.select text proposals).map (·.patch) =
      [⟨Span.ofLength 0 1, ['x', 'x']⟩, .delete (Span.ofLength 1 2), .insert 3 ['y', 'z']] := by cbv
  have listed : patches.Perm ((Patching.select text proposals).map (·.patch)) := by
    rw [chosen]
    decide
  have within : ∀ patch ∈ patches, patch.span.stop ≤ text.length := by decide
  obtain ⟨-, woven, kept, -⟩ := patches_apply_at_once text proposals patches listed within
  rw [chosen] at woven kept
  refine ⟨listed, within, ?_, ?_, ?_⟩
  · rw [woven]
    rfl
  · rw [chosen]
    rfl
  · rw [← kept]
    rfl

end ProseLinter
