import ProseLinter.Span

/-!
# Parts of a text

A part stands in a text at an offset if the text, from there on, begins with it. A scanner that
carries the offset of what is left to read finds parts of what it reads; these lemmas say that they
stand in the whole text.
-/

namespace ProseLinter

namespace Text

variable {text first more : Text} {offset : Nat}

theorem holds_rest (holds : first ++ more <+: text.drop offset) :
    more <+: text.drop (offset + first.length) := by
  obtain ⟨after, equal⟩ := holds
  rw [← List.drop_drop, ← equal, List.append_assoc, List.drop_left]
  exact List.prefix_append more after

theorem holds_tail {c : Char} (holds : c :: more <+: text.drop offset) :
    more <+: text.drop (offset + 1) := by
  have whole : [c] ++ more <+: text.drop offset := holds
  exact holds_rest whole

theorem holds_within (holds : first <+: text.drop offset) (some_text : first ≠ []) :
    offset + first.length ≤ text.length := by
  have short := holds.length_le
  have long := List.length_pos_iff.mpr some_text
  rw [List.length_drop] at short
  omega

theorem getElem?_of_holds {part : Text} {place : Nat} (holds : part <+: text.drop offset)
    (behind : offset ≤ place) (before : place < offset + part.length) :
    text[place]? = part[place - offset]? := by
  obtain ⟨after, whole⟩ := holds
  obtain ⟨distance, rfl⟩ := Nat.exists_eq_add_of_le behind
  have within : distance < part.length := by omega
  rw [← List.getElem?_drop, ← whole, List.getElem?_append_left within, Nat.add_sub_cancel_left]

end Text

namespace Excerpt

/-- That an excerpt stands in a text. -/
structure StandsIn (text : Text) (excerpt : Excerpt) : Prop where
  holds : excerpt.text <+: text.drop excerpt.start
  within : excerpt.span.stop ≤ text.length

variable {text whole part : Text} {excerpt : Excerpt} {offset : Nat}

theorem StandsIn.read (stands : excerpt.StandsIn text) : excerpt.span.read text = excerpt.text := by
  rw [Span.read, Text.slice, span, Span.ofLength, Nat.add_sub_cancel_left]
  exact (List.prefix_iff_eq_take.mp stands.holds).symm

theorem stands_of_prefix (holds : whole <+: text.drop offset) (some_text : whole ≠ [])
    (begins : part <+: whole) :
    StandsIn text ⟨offset, part⟩ := by
  refine ⟨begins.trans holds, ?_⟩
  have short := begins.length_le
  have within := Text.holds_within holds some_text
  change offset + part.length ≤ text.length
  omega

end Excerpt

end ProseLinter
