import ProseLinter.Proofs.Rule.Safety
import ProseLinter.Proofs.Text.Lines
import ProseLinter.Rule.TrailingSpace

/-!
# Trailing white space

What is reported at the end of a line is the spaces and tabs there, from the last other code point
of the content to the terminator.
-/

namespace ProseLinter

theorem Text.dropEndWhile_append (p : Char → Bool) (text : Text) :
    text.dropEndWhile p ++ (text.reverse.takeWhile p).reverse = text := by
  rw [dropEndWhile, ← List.reverse_append, List.takeWhile_append_dropWhile, List.reverse_reverse]

namespace TrailingSpace

def ending (line : Line) : Excerpt :=
  ⟨line.start + (stripped line).length, (line.content.reverse.takeWhile isSpaceOrTab).reverse⟩

theorem stripped_append_ending (line : Line) : stripped line ++ (ending line).text = line.content :=
  Text.dropEndWhile_append isSpaceOrTab line.content

theorem trailing_eq (line : Line) : trailing line = (ending line).span := by
  have lengths := congrArg List.length (stripped_append_ending line)
  rw [List.length_append] at lengths
  rw [trailing, Excerpt.span, Span.ofLength]
  congr 1
  change line.start + line.content.length =
    line.start + (stripped line).length + (ending line).text.length
  omega

theorem ending_expendable (line : Line) : ∀ c ∈ (ending line).text, isExpendable c = true := by
  intro c member
  have white : isSpaceOrTab c = true :=
    List.all_eq_true.mp List.all_takeWhile c (List.mem_reverse.mp member)
  simp [isExpendable, white]

theorem ending_stands {text : Text} {line : Line} (member : line ∈ text.lines) :
    (ending line).StandsIn text := by
  obtain ⟨some_text, holds⟩ := Line.holds_of_lines member
  have parts : line.whole = stripped line ++ ((ending line).text ++ line.ending) := by
    rw [Line.whole, ← List.append_assoc, stripped_append_ending]
  have within := Text.holds_within holds some_text
  constructor
  · exact (List.prefix_append _ _).trans (Text.holds_rest (parts ▸ holds))
  · have lengths := congrArg List.length parts
    rw [List.length_append, List.length_append] at lengths
    change line.start + (stripped line).length + (ending line).text.length ≤ text.length
    omega

theorem check_safe {options : Value} {check : DocumentCheck}
    (prepared : rule.prepare options = .ok check) (context : RuleContext) (document : Document) :
    check.IsSafe context document := by
  obtain ⟨settings, -, made⟩ := Options.prepare_eq_ok prepared
  rw [made]
  apply Options.documentCheck_safe
  intro finding member
  obtain ⟨line, known, same⟩ := List.mem_map.mp member
  have stands := ending_stands (List.mem_filter.mp known).1
  rw [← same, trailing_eq]
  refine ⟨stands.within, ?_, ?_⟩
  · intro patch carried
    cases carried
    exact stands.clears (ending_expendable line)
  · apply Finding.not_failure_of_head (c := 'T')
    · simp [RuleContext.report]
    · decide

end TrailingSpace

end ProseLinter
