import ProseLinter.Proofs.Fix.OnePass
import ProseLinter.Proofs.Markdown.TrimmedLines

/-!
# What the rule about spaces at the ends of lines points at

The rule points at the spaces and tabs at the ends of lines, which lie apart, and none of them in a
block of code. Where it has no regard for hard breaks, what lies outside of all that it points at is
the text with its lines trimmed, but for those in code. So it has nothing to say of a text whose
lines outside of code are trimmed.
-/

namespace ProseLinter

namespace TrailingSpace

open Line (Follow wholeText)

variable {settings : Settings} {skip : Bool} {text : Text} {code blocks later : List Span}
  {line : Line} {lines : List Line} {context : RuleContext} {document : Document} {offset : Nat}

theorem trailing_bounds (line : Line) :
    line.start ≤ (trailing line).start ∧ (trailing line).stop ≤ line.stop :=
  ⟨Nat.le_add_right _ _, Nat.le_add_right _ _⟩

theorem of_reported (reported : isReported settings text code blocks line = true) :
    (trailing line).start < (trailing line).stop ∧ startsIn line code = false := by
  simp only [isReported, Bool.and_eq_true, bne_iff_ne, ne_eq, Bool.not_eq_true'] at reported
  obtain ⟨⟨⟨shorter, -⟩, outside⟩, -⟩ := reported
  refine ⟨?_, outside⟩
  have bound := length_stripped_le line
  change line.start + (stripped line).length < line.start + line.content.length
  omega

theorem find_clearing (settings : Settings) (context : RuleContext) (document : Document) :
    Finding.Clearing context.ruleId document.text (find settings context document) where
  own := List.forall_mem_map.mpr fun _ _ => rfl
  deletes := List.forall_mem_map.mpr fun _ _ => rfl
  some_text :=
    List.forall_mem_map.mpr fun line member => (of_reported (List.mem_filter.mp member).2).1
  within := by
    refine List.forall_mem_map.mpr fun line member => ?_
    have stands := ending_stands (List.mem_filter.mp member).1
    have within := stands.within
    rwa [← trailing_eq] at within
  in_turn := by
    refine List.pairwise_map.mpr (List.Pairwise.filter _ ?_)
    refine (Line.in_turn_of_follow (Line.follow_lines document.text)).imp ?_
    intro earlier later before
    exact Nat.le_trans (trailing_bounds earlier).2 (Nat.le_trans before (trailing_bounds later).1)

theorem outside_line (line : Line) (behind : ∀ span ∈ later, line.stop ≤ span.start) :
    Text.outside (trailing line :: later) line.start line.whole = stripped line ++ line.ending := by
  have parts : line.whole = stripped line ++ ((ending line).text ++ line.ending) := by
    rw [Line.whole, ← List.append_assoc, stripped_append_ending]
  have content := congrArg List.length (stripped_append_ending line)
  have stop : line.stop = line.start + line.content.length + line.ending.length := rfl
  rw [List.length_append] at content
  have front : Text.outside (trailing line :: later) line.start (stripped line) =
      stripped line := by
    apply Text.outside_of_behind
    have own : line.start + (stripped line).length ≤ (trailing line).start := Nat.le_refl _
    refine List.forall_mem_cons.mpr ⟨own, fun span member => ?_⟩
    have starts := behind span member
    omega
  have middle : Text.outside (trailing line :: later) (line.start + (stripped line).length)
      (ending line).text = [] := by
    refine Text.outside_of_covered List.mem_cons_self
      (Nat.le_refl (line.start + (stripped line).length)) ?_
    change _ ≤ line.start + line.content.length
    omega
  have back : Text.outside (trailing line :: later)
      (line.start + (stripped line).length + (ending line).text.length) line.ending =
        line.ending := by
    rw [Text.outside_of_passed, Text.outside_of_behind]
    · intro span member
      have starts := behind span member
      omega
    · change line.start + line.content.length ≤ _
      omega
  rw [parts, Text.outside_append, front, Text.outside_append, middle, back, List.nil_append]

theorem outside_trailing (chosen : Line → Bool) (follow : Follow offset lines) :
    Text.outside ((lines.filter chosen).map trailing) offset (wholeText lines) =
      lines.flatMap fun line => (if chosen line then stripped line else line.content) ++
        line.ending := by
  induction lines generalizing offset with
  | nil => rfl
  | cons line rest induction =>
      have more := induction (Line.follow_rest follow)
      have behind : ∀ span ∈ (rest.filter chosen).map trailing, line.stop ≤ span.start := by
        refine List.forall_mem_map.mpr fun next member => ?_
        have bounds := Line.bounds_of_follow follow.2.2 next (List.mem_filter.mp member).1
        exact Nat.le_trans bounds.1 (trailing_bounds next).1
      obtain ⟨rfl, -, -⟩ := follow
      rw [Line.whole_text_cons, Text.outside_append, List.flatMap_cons, List.filter_cons]
      by_cases wanted : chosen line = true
      · rw [if_pos wanted, if_pos wanted, List.map_cons, outside_line line behind,
          Text.outside_of_passed, more]
        rw [← Line.stop_eq]
        exact (trailing_bounds line).2
      · rw [if_neg wanted, if_neg wanted, Text.outside_of_behind, more]
        · rfl
        · rwa [← Line.stop_eq]

theorem stripped_isEmpty (line : Line) :
    (stripped line).isEmpty = line.content.all isSpaceOrTab := by
  rw [Bool.eq_iff_iff, List.isEmpty_iff, List.all_eq_true]
  exact List.rdropWhile_eq_nil_iff

theorem left_of_line (skip : Bool) (text : Text) (code : List Span) (line : Line) :
    (if isReported ⟨skip, false⟩ text code [] line then stripped line else line.content) =
      kept skip code line := by
  have no_breaks : isHardBreak text [] line = false := by simp [isHardBreak]
  have reported : isReported ⟨skip, false⟩ text code [] line =
      ((stripped line).length != line.content.length && !(skip && line.content.all isSpaceOrTab) &&
        !startsIn line code) := by
    rw [isReported, no_breaks, stripped_isEmpty, Bool.and_false, Bool.not_false, Bool.and_true]
  rw [reported, kept, trim]
  cases startsIn line code with
  | true => simp
  | false =>
      cases stays : skip && line.content.all isSpaceOrTab with
      | true => simp
      | false =>
          by_cases shorter : (stripped line).length = line.content.length
          · have unchanged : stripped line = line.content :=
              (List.rdropWhile_prefix isSpaceOrTab line.content).eq_of_length shorter
            simp [unchanged, ← stripped.eq_1]
          · rw [if_pos (by simp [shorter])]
            rfl

theorem find_spans (skip : Bool) (context : RuleContext) (document : Document) :
    (find ⟨skip, false⟩ context document).map (·.span) =
      (document.lines.filter
        (isReported ⟨skip, false⟩ document.text (codeSpans document.tree) [])).map trailing := by
  rw [find, List.map_map]
  rfl

theorem outside_found (skip : Bool) (context : RuleContext) (document : Document) :
    Text.outside ((find ⟨skip, false⟩ context document).map (·.span)) 0 document.text =
      trimmed skip (codeSpans document.tree) document.text := by
  have whole :=
    outside_trailing (isReported ⟨skip, false⟩ document.text (codeSpans document.tree) [])
    (Line.follow_lines document.text)
  rw [Line.whole_text_lines] at whole
  rw [find_spans, Document.lines, whole, trimmed]
  exact List.flatMap_congr fun line _ => congrArg (· ++ line.ending) (left_of_line skip _ _ line)

theorem find_trimmed
    (settled : ∀ line ∈ document.lines, kept skip (codeSpans document.tree) line = line.content) :
    find ⟨skip, false⟩ context document = [] := by
  have silent := find_spans skip context document
  rw [List.filter_eq_nil_iff.mpr, List.map_nil, List.map_eq_nil_iff] at silent
  · exact silent
  intro line member reported
  have left := left_of_line skip document.text (codeSpans document.tree) line
  rw [if_pos reported, settled line member] at left
  have shorter := (of_reported reported).1
  change line.start + (stripped line).length < line.start + line.content.length at shorter
  rw [left] at shorter
  exact Nat.lt_irrefl _ shorter

end TrailingSpace

end ProseLinter
