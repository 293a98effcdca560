import ProseLinter.Proofs.Rule.Safety
import ProseLinter.Proofs.Tree.Reading

/-!
# Emoji lie in prose

Each emoji that is found stands in the leaf of prose where it is looked for, and is made of bases,
modifiers and joiners alone; to delete it deletes nothing else.
-/

namespace ProseLinter.Emoji

theorem expendable_of_base {c : Char} (base : isBase c = true) : isExpendable c = true := by
  simp [isExpendable, base]

theorem expendable_of_modifier {c : Char} (modifier : isModifier c = true) :
    isExpendable c = true := by
  simp [isExpendable, modifier]

theorem joiner_expendable : isExpendable joiner = true := by decide

theorem tail_length_le (text : Text) : tailLength text ≤ text.length := by
  induction text using tailLength.induct with
  | case1 => exact Nat.le_refl 0
  | case2 c modifier => simp [tailLength, modifier]
  | case3 c other => simp [tailLength, other]
  | case4 c next rest modifier induction =>
      rw [tailLength, if_pos modifier, List.length_cons]
      omega
  | case5 c next rest other joined induction =>
      rw [tailLength, if_neg other, if_pos joined, List.length_cons, List.length_cons]
      omega
  | case6 c next rest other apart =>
      rw [tailLength, if_neg other, if_neg apart]
      exact Nat.zero_le _

theorem tail_expendable (text : Text) :
    ∀ c ∈ text.take (tailLength text), isExpendable c = true := by
  induction text using tailLength.induct with
  | case1 => simp
  | case2 c modifier => simp [tailLength, modifier, expendable_of_modifier modifier]
  | case3 c other => simp [tailLength, other]
  | case4 c next rest modifier induction =>
      rw [tailLength, if_pos modifier, Nat.add_comm, List.take_succ_cons]
      exact List.forall_mem_cons.mpr ⟨expendable_of_modifier modifier, induction⟩
  | case5 c next rest other joined induction =>
      obtain ⟨joins, base⟩ := Bool.and_eq_true_iff.mp joined
      rw [tailLength, if_neg other, if_pos joined, Nat.add_comm, List.take_succ_cons,
        List.take_succ_cons, beq_iff_eq.mp joins]
      exact List.forall_mem_cons.mpr
        ⟨joiner_expendable, List.forall_mem_cons.mpr ⟨expendable_of_base base, induction⟩⟩
  | case6 c next rest other apart => simp [tailLength, other, apart]

theorem occurrences_stand {whole text : Text} {offset : Nat} (holds : text <+: whole.drop offset) :
    ∀ emoji ∈ occurrences offset text, emoji.StandsIn whole ∧
      ∀ c ∈ emoji.text, isExpendable c = true := by
  induction offset, text using occurrences.induct with
  | case1 offset =>
      rw [occurrences]
      exact fun emoji member => absurd member List.not_mem_nil
  | case2 offset c rest base count induction =>
      have cut : c :: rest = (c :: rest.take count) ++ rest.drop count := by
        rw [List.cons_append, List.take_append_drop]
      have length : offset + 1 + count = offset + (c :: rest.take count).length := by
        rw [List.length_cons, List.length_take_of_le (tail_length_le rest), Nat.add_assoc,
          Nat.add_comm 1]
      have later := induction (length ▸ Text.holds_rest (cut ▸ holds))
      rw [occurrences, if_pos base]
      refine List.forall_mem_cons.mpr ⟨⟨?_, ?_⟩, later⟩
      · exact Excerpt.stands_of_prefix holds (List.cons_ne_nil c rest)
          ((List.prefix_cons_inj c).mpr (List.take_prefix count rest))
      · exact List.forall_mem_cons.mpr ⟨expendable_of_base base, tail_expendable rest⟩
  | case3 offset c rest other induction =>
      rw [occurrences, if_neg other]
      exact induction (Text.holds_tail holds)

theorem found_of_read {document : Document} (read : document.IsRead) :
    ∀ emoji ∈ inProse document.tree, emoji.StandsIn document.text ∧
      ∀ c ∈ emoji.text, isExpendable c = true := by
  intro emoji member
  obtain ⟨leaf, selected, found⟩ := List.mem_flatMap.mp member
  exact occurrences_stand (read.prose_holds selected) emoji found

theorem report_suits (context : RuleContext) {text : Text} {emoji : Excerpt}
    (stands : emoji.StandsIn text) (expendable : ∀ c ∈ emoji.text, isExpendable c = true) :
    (report context emoji).Suits text := by
  refine ⟨stands.within, ?_, ?_⟩
  · intro patch carried
    cases carried
    exact stands.clears expendable
  · apply Finding.not_failure_of_head (c := 'F')
    · simp [report, RuleContext.report]
    · decide

theorem check_safe {options : Value} {check : DocumentCheck}
    (prepared : rule.prepare options = .ok check) (context : RuleContext) {document : Document}
    (read : document.IsRead) : check.IsSafe context document := by
  obtain ⟨settings, -, made⟩ := Options.prepare_eq_ok prepared
  rw [made]
  apply Options.documentCheck_safe
  intro finding member
  obtain ⟨emoji, known, same⟩ := List.mem_map.mp member
  obtain ⟨stands, expendable⟩ := found_of_read read emoji (List.mem_filter.mp known).1
  exact same ▸ report_suits context stands expendable

end ProseLinter.Emoji
