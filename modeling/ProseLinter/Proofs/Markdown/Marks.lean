import ProseLinter.Markdown.Mark

/-!
# The marks of a line lose nothing

Each recogniser of a mark cuts the content of a line in two: the mark, which is never empty, and
what follows it. Put together again, the two are the content.
-/

namespace ProseLinter.Markdown

theorem shallow_append {content indent rest : Text}
    (found : shallow? content = some (indent, rest)) :
    indent ++ rest = content := by
  simp only [shallow?] at found
  split at found
  · rw [Option.some.injEq, Prod.mk.injEq] at found
    rw [← found.1, ← found.2]
    exact List.takeWhile_append_dropWhile
  · simp at found

theorem content_ne_nil {content : Text} (notBlank : ¬content.blank = true) : content ≠ [] := by
  rintro rfl
  exact notBlank rfl

theorem fence_marker_length {content : Text} {fence : Fence} (found : fence? content = some fence) :
    3 ≤ fence.marker.length := by
  unfold fence? at found
  split at found
  · simp at found
  · split at found
    · simp at found
    · simp only [Option.ite_none_right_eq_some, Option.some.injEq, Bool.and_eq_true,
        decide_eq_true_eq] at found
      obtain ⟨⟨-, long⟩, rfl⟩ := found
      exact long

theorem closing_ne_nil {opening content : Text} {fence : Fence}
    (found : fence? opening = some fence) (closed : fence.closedBy content = true) :
    content ≠ [] := by
  rintro rfl
  have long := fence_marker_length found
  have short : fence.marker.length ≤ 0 := by simpa [Fence.closedBy, shallow?] using closed
  omega

theorem header_append {content : Text} {mark : HeaderMark} (found : header? content = some mark) :
    mark.opening ++ mark.title = content := by
  unfold header? at found
  split at found
  · simp at found
  next indent rest indented =>
    simp only [Option.ite_none_right_eq_some, Option.some.injEq] at found
    obtain ⟨-, rfl⟩ := found
    rw [← shallow_append indented, HeaderMark.opening]
    simp only [List.append_assoc, List.takeWhile_append_dropWhile]

theorem header_opening_ne_nil {content : Text} {mark : HeaderMark}
    (found : header? content = some mark) :
    mark.opening ≠ [] := by
  unfold header? at found
  split at found
  · simp at found
  · simp only [Option.ite_none_right_eq_some, Option.some.injEq, Bool.and_eq_true,
      decide_eq_true_eq] at found
    obtain ⟨⟨⟨some_hashes, -⟩, -⟩, rfl⟩ := found
    rw [HeaderMark.opening]
    apply List.append_ne_nil_of_left_ne_nil
    apply List.append_ne_nil_of_right_ne_nil
    exact List.length_pos_iff.1 some_hashes

theorem quote_append {content mark text : Text} (found : quote? content = some (mark, text)) :
    mark ++ text = content ∧ mark ≠ [] := by
  unfold quote? at found
  split at found
  · simp at found
  next indent rest indented =>
    have whole := shallow_append indented
    split at found
    next c more =>
      split at found
      all_goals
        rw [Option.some.injEq, Prod.mk.injEq] at found
        obtain ⟨rfl, rfl⟩ := found
        exact ⟨by rw [← whole, List.append_assoc]; rfl, by simp⟩
    next =>
      rw [Option.some.injEq, Prod.mk.injEq] at found
      obtain ⟨rfl, rfl⟩ := found
      exact ⟨by rw [← whole, List.append_nil], by simp⟩
    next => simp at found

theorem item_marker_append {text marker : Text} (found : itemMarker? text = some marker) :
    marker ++ text.drop marker.length = text ∧ marker ≠ [] := by
  unfold itemMarker? at found
  split at found
  · simp at found
  next c rest =>
    split at found
    · rw [Option.some.injEq] at found
      subst found
      exact ⟨rfl, by simp⟩
    · dsimp only at found
      split at found
      next stop after opened =>
        simp only [Option.ite_none_right_eq_some, Option.some.injEq] at found
        obtain ⟨-, rfl⟩ := found
        have whole := List.takeWhile_append_dropWhile (p := isDecimalDigit) (l := c :: rest)
        rw [opened, List.append_cons] at whole
        refine ⟨?_, by simp⟩
        generalize List.takeWhile isDecimalDigit (c :: rest) = digits at whole ⊢
        rw [← whole, List.drop_left]
      next => simp at found

theorem item_append {content : Text} {mark : ItemMark} (found : item? content = some mark) :
    mark.indent ++ ((mark.marker ++ mark.spacing) ++ mark.text) = content ∧ mark.marker ≠ [] := by
  unfold item? at found
  dsimp only at found
  split at found
  · simp at found
  next marker marked =>
    simp only [Option.ite_none_right_eq_some, Option.some.injEq] at found
    obtain ⟨-, rfl⟩ := found
    obtain ⟨whole, some_marker⟩ := item_marker_append marked
    refine ⟨?_, some_marker⟩
    rw [List.append_assoc, List.takeWhile_append_dropWhile, whole, List.takeWhile_append_dropWhile]

end ProseLinter.Markdown
