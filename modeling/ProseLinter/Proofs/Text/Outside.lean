import Mathlib.Data.List.Pairwise
import ProseLinter.Span

/-!
# What lies outside of spans

A code point of a text is outside of some spans if none of them covers the offset at which it
stands. What is outside is said offset by offset, so a text may be cut anywhere and each part looked
at by itself, with the offset at which it starts.
-/

namespace ProseLinter

def Span.covers (span : Span) (offset : Nat) : Bool :=
  decide (span.start ≤ offset) && decide (offset < span.stop)

@[simp]
theorem Span.covers_iff {span : Span} {offset : Nat} :
    span.covers offset = true ↔ span.start ≤ offset ∧ offset < span.stop := by
  rw [covers, Bool.and_eq_true, decide_eq_true_eq, decide_eq_true_eq]

theorem Span.covered_once {Item : Type} {spanOf : Item → Span} {items : List Item}
    (in_turn : items.Pairwise fun earlier later => (spanOf earlier).stop ≤ (spanOf later).start)
    {place : Nat} {first second : Item} (member : first ∈ items) (other_member : second ∈ items)
    (covered : (spanOf first).covers place = true)
    (other_covered : (spanOf second).covers place = true) :
    first = second := by
  rw [covers_iff] at covered other_covered
  have apart : items.Pairwise fun a b => (spanOf a).stop ≤ (spanOf b).start ∨
      (spanOf b).stop ≤ (spanOf a).start :=
    in_turn.imp .inl
  have symmetric : Std.Symm fun a b => (spanOf a).stop ≤ (spanOf b).start ∨
      (spanOf b).stop ≤ (spanOf a).start :=
    ⟨fun _ _ => Or.symm⟩
  by_contra differ
  have disjoint := apart.forall member other_member differ
  omega

namespace Text

/-- The code points of a text that starts at an offset, without those that the spans cover. -/
def outside (spans : List Span) (offset : Nat) : Text → Text
  | [] => []
  | c :: rest =>
      if spans.any (·.covers offset) then outside spans (offset + 1) rest
      else c :: outside spans (offset + 1) rest

variable {spans others : List Span} {offset : Nat} {text : Text}

theorem outside_append (spans : List Span) (offset : Nat) (first second : Text) :
    outside spans offset (first ++ second) =
      outside spans offset first ++ outside spans (offset + first.length) second := by
  induction first generalizing offset with
  | nil => rfl
  | cons c rest induction =>
      have length : offset + (c :: rest).length = offset + 1 + rest.length := by
        rw [List.length_cons]
        omega
      rw [List.cons_append, outside, outside, induction, length]
      split
      · rfl
      · rw [List.cons_append]

theorem outside_congr
    (alike : ∀ place, offset ≤ place → place < offset + text.length →
      spans.any (·.covers place) = others.any (·.covers place)) :
    outside spans offset text = outside others offset text := by
  induction text generalizing offset with
  | nil => rfl
  | cons c rest induction =>
      rw [List.length_cons] at alike
      have later : outside spans (offset + 1) rest = outside others (offset + 1) rest := by
        apply induction
        intro place above below
        exact alike place (by omega) (by omega)
      rw [outside, outside, alike offset (Nat.le_refl offset) (by omega), later]

theorem outside_of_free
    (free : ∀ span ∈ spans, ∀ place, offset ≤ place → place < offset + text.length →
      span.covers place = false) :
    outside spans offset text = text := by
  induction text generalizing offset with
  | nil => rfl
  | cons c rest induction =>
      rw [List.length_cons] at free
      have here : spans.any (·.covers offset) = false := by
        rw [List.any_eq_false]
        intro span member covered
        rw [free span member offset (Nat.le_refl offset) (by omega)] at covered
        cases covered
      rw [outside, here, if_neg Bool.false_ne_true, induction]
      intro span member place above below
      exact free span member place (by omega) (by omega)

theorem outside_of_covered {span : Span} (member : span ∈ spans) (begins : span.start ≤ offset)
    (ends : offset + text.length ≤ span.stop) : outside spans offset text = [] := by
  induction text generalizing offset with
  | nil => rfl
  | cons c rest induction =>
      rw [List.length_cons] at ends
      have here : spans.any (·.covers offset) = true :=
        List.any_eq_true.mpr ⟨span, member, Span.covers_iff.mpr ⟨begins, by omega⟩⟩
      rw [outside, here, if_pos rfl]
      exact induction (by omega) (by omega)

theorem outside_of_behind (behind : ∀ span ∈ spans, offset + text.length ≤ span.start) :
    outside spans offset text = text := by
  apply outside_of_free
  intro span member place above below
  have starts := behind span member
  rw [Bool.eq_false_iff, ne_eq, Span.covers_iff]
  omega

theorem outside_of_passed {span : Span} (passed : span.stop ≤ offset) :
    outside (span :: spans) offset text = outside spans offset text := by
  apply outside_congr
  intro place above below
  have clear : span.covers place = false := by
    rw [Bool.eq_false_iff, ne_eq, Span.covers_iff]
    omega
  rw [List.any_cons, clear, Bool.false_or]

theorem outside_sublist (spans : List Span) (offset : Nat) (text : Text) :
    (outside spans offset text).Sublist text := by
  induction text generalizing offset with
  | nil => exact .slnil
  | cons c rest induction =>
      rw [outside]
      split
      · exact (induction (offset + 1)).cons c
      · exact (induction (offset + 1)).cons_cons c

end Text

end ProseLinter
