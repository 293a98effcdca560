import ProseLinter.Proofs.Markdown.Prose
import ProseLinter.Proofs.PlainText.Tiling
import ProseLinter.Proofs.Rule.EmojiScan
import ProseLinter.Proofs.Text.EditedLines

/-!
# Emoji in plain text

All of a plain text is prose but the white space in front of its lines, its blank lines and the
terminators. None of these holds a part of an emoji, and no emoji reaches over a terminator. So the
emoji that are found in the prose of a plain text are those of the text.
-/

namespace ProseLinter

open Emoji

namespace Emoji

variable {c : Char} {first second rest : Text} {offset : Nat}

/-- That no emoji reaches into a text from before it, and none begins with its first code point. -/
def Apart (text : Text) : Prop :=
  ∀ c ∈ text.head?, isBase c = false ∧ isModifier c = false ∧ c ≠ joiner

theorem tailLength_before (apart : Apart second) (nothing : tailLength first = 0) :
    tailLength (first ++ second) = 0 := by
  cases first with
  | nil =>
      cases second with
      | nil => exact nothing
      | cons c second =>
          obtain ⟨-, no_modifier, no_joiner⟩ := apart c rfl
          exact tailLength_other no_modifier fun joins => absurd joins no_joiner
  | cons c first =>
      obtain ⟨no_modifier, alone⟩ := other_of_tailLength nothing
      apply tailLength_other no_modifier
      intro joins next head
      cases first with
      | nil => exact (apart next head).1
      | cons d first => exact alone joins next head

theorem tailLength_append (apart : Apart second) (first : Text) :
    tailLength (first ++ second) = tailLength first := by
  have cut : first ++ second = first.take (tailLength first) ++
      (first.drop (tailLength first) ++ second) := by
    rw [← List.append_assoc, List.take_append_drop]
  rw [cut, (tail_of_tailLength first).tailLength_append,
    tailLength_before apart (tailLength_drop first), Nat.add_zero,
    List.length_take_of_le (tail_length_le first)]

theorem occurrences_append (apart : Apart second) (offset : Nat) (first : Text) :
    occurrences offset (first ++ second) =
      occurrences offset first ++ occurrences (offset + first.length) second := by
  induction offset, first using occurrences.induct with
  | case1 offset =>
      rw [occurrences]
      rfl
  | case2 offset c rest base count induction =>
      have fits : count ≤ rest.length := tail_length_le rest
      have same : tailLength (rest ++ second) = count := tailLength_append apart rest
      have behind : offset + 1 + count + (rest.drop count).length =
          offset + (c :: rest).length := by
        rw [List.length_drop, List.length_cons]
        omega
      rw [List.cons_append, occurrences, if_pos base, occurrences, if_pos base]
      simp only [same, List.take_append_of_le_length fits, List.drop_append_of_le_length fits]
      rw [induction, behind]
      rfl
  | case3 offset c rest other induction =>
      rw [List.cons_append, occurrences, if_neg other, occurrences, if_neg other, induction,
        List.length_cons, Nat.add_assoc, Nat.add_comm 1]

theorem occurrences_behind (noBase : ∀ c ∈ first, isBase c = false) (offset : Nat) (rest : Text) :
    occurrences offset (first ++ rest) = occurrences (offset + first.length) rest := by
  induction first generalizing offset with
  | nil => rfl
  | cons c first induction =>
      obtain ⟨other, noBase⟩ := List.forall_mem_cons.mp noBase
      rw [List.cons_append, occurrences, if_neg (by simp [other]), induction noBase,
        List.length_cons, Nat.add_assoc, Nat.add_comm 1]

theorem occurrences_none (noBase : ∀ c ∈ first, isBase c = false) (offset : Nat) :
    occurrences offset first = [] := by
  have whole := occurrences_behind noBase offset []
  rw [List.append_nil] at whole
  rw [whole, occurrences]

theorem no_base_of_blank (blank : isBlank c = true) : isBase c = false := by
  have number : c.val.toNat = c.toNat := rfl
  simp only [isBlank, Bool.or_eq_true, Bool.and_eq_true, decide_eq_true_eq, beq_iff_eq] at blank
  simp only [isBase, Bool.or_eq_false_iff, Bool.and_eq_false_iff, decide_eq_false_iff_not,
    Char.le_def, UInt32.le_iff_toNat_le, number, Char.reduceVal, UInt32.reduceToNat]
  omega

theorem no_base_of_terminator {ending : Text} (terminates : Line.Terminates ending) :
    ∀ c ∈ ending, isBase c = false := by
  intro c member
  apply no_base_of_blank
  rcases terminates.breaks c member with rfl | rfl <;> decide

theorem terminator_apart {ending : Text} (terminates : Line.Terminates ending) (rest : Text) :
    Apart (ending ++ rest) := by
  intro c head
  cases terminates <;> cases head <;> decide

theorem occurrences_lines {parts : List (Text × Text)} (lined : Line.Lined parts)
    (number offset : Nat) :
    (Line.numbered number offset parts).flatMap (fun line => occurrences line.start line.content) =
      occurrences offset (parts.flatMap fun part => part.1 ++ part.2) := by
  induction lined generalizing number offset with
  | nil =>
      rw [List.flatMap_nil, occurrences]
      rfl
  | @last content unbroken =>
      rw [List.flatMap_singleton, List.append_nil, Line.numbered, Line.numbered,
        List.flatMap_singleton]
  | @line content ending rest unbroken terminates lined induction =>
      rw [Line.numbered, List.flatMap_cons, induction, List.flatMap_cons, List.append_assoc,
        occurrences_append (terminator_apart terminates _),
        occurrences_behind (no_base_of_terminator terminates)]

theorem inProse_spanning (kind : BranchKind) (start : Nat) (below : List Node) :
    inProse (Node.spanning kind start below) = below.flatMap inProse := by
  rw [inProse, Markdown.prose_of_spanning, List.flatMap_assoc]
  rfl

theorem inProse_leaf {kind : LeafKind} (noProse : kind ≠ .prose) (start : Nat) (raw : Text) :
    inProse (.leaf kind start raw) = [] := by
  rw [inProse, Markdown.no_prose_in_leaf noProse, List.flatMap_nil]

theorem inProse_optional_leaf {kind : LeafKind} (noProse : kind ≠ .prose) (start : Nat)
    (raw : Text) :
    (if raw.isEmpty then [] else [Node.leaf kind start raw]).flatMap inProse = [] := by
  split
  · rfl
  · rw [List.flatMap_singleton, inProse_leaf noProse]

end Emoji

namespace PlainText

theorem emoji_in_blank {line : Line} (blank : line.content.blank = true) :
    inProse line.blankBlock = occurrences line.start line.content := by
  have none : occurrences line.start line.content = [] :=
    occurrences_none (fun c member =>
      no_base_of_blank (List.all_eq_true.mp blank c member)) line.start
  rw [none, Line.blankBlock, inProse_spanning, List.flatMap_append, Line.contentLeaves,
    inProse_optional_leaf (by decide), Line.endingLeaves, inProse_optional_leaf (by decide),
    List.append_nil]

theorem emoji_in_line (line : Line) :
    (proseLine line).flatMap inProse = occurrences line.start line.content := by
  have indent : ∀ c ∈ line.content.takeWhile isSpaceOrTab, isBase c = false := fun c member =>
    no_base_of_blank (blank_of_space_or_tab (List.all_eq_true.mp List.all_takeWhile c member))
  have leaf : inProse (.leaf .prose line.unindentedStart line.unindented) =
      occurrences line.unindentedStart line.unindented := by
    rw [inProse, Node.select_leaf]
    exact List.append_nil _
  have whole := occurrences_behind indent line.start line.unindented
  rw [Line.unindented, List.takeWhile_append_dropWhile] at whole
  rw [whole, proseLine, List.flatMap_append, List.flatMap_cons, leaf, Line.indentLeaves,
    inProse_optional_leaf (by decide), Line.endingLeaves, inProse_optional_leaf (by decide),
    List.nil_append, List.append_nil]
  rfl

theorem emoji_in_blocks (lines : List Line) :
    (blocks lines).flatMap inProse =
      lines.flatMap fun line => occurrences line.start line.content := by
  induction lines using blocks.induct with
  | case1 =>
      rw [blocks]
      rfl
  | case2 line rest blank induction =>
      rw [blocks, if_pos blank, List.flatMap_cons, List.flatMap_cons,
        emoji_in_blank blank, induction]
  | case3 line rest notBlank after =>
      rename_i induction
      have equal : line :: rest =
          (line :: rest.takeWhile fun next => !next.content.blank) ++ after := by
        rw [List.cons_append, List.takeWhile_append_dropWhile]
      have taken :
          inProse (paragraphBlock (line :: rest.takeWhile fun next => !next.content.blank)) =
          (line :: rest.takeWhile fun next => !next.content.blank).flatMap fun line =>
            occurrences line.start line.content := by
        rw [paragraphBlock, inProse_spanning, List.flatMap_assoc]
        exact List.flatMap_congr fun next _ => emoji_in_line next
      rw [blocks, if_neg notBlank, List.flatMap_cons, taken, induction, equal, List.flatMap_append]

theorem parse_of_textual {text : Text} (textual : '\x00' ∉ text) :
    parse text = .ok (Node.spanning .document 0 (blocks text.lines)) := by
  have absent : text.find? '\x00' = none := by
    rw [Text.find?, List.findIdx?_eq_none_iff]
    intro c member
    rw [beq_eq_false_iff_ne]
    rintro rfl
    exact textual member
  rw [parse, absent]

theorem textual_of_parse {text : Text} {tree : Node} (parsed : parse text = .ok tree) :
    '\x00' ∉ text := by
  unfold parse at parsed
  split at parsed
  · cases parsed
  next absent =>
    rw [Text.find?, List.findIdx?_eq_none_iff] at absent
    intro member
    have different := absent _ member
    cases different

theorem emoji_in_text {text : Text} {tree : Node} (parsed : parse text = .ok tree) :
    inProse tree = occurrences 0 text := by
  unfold parse at parsed
  split at parsed
  · cases parsed
  · cases parsed
    rw [inProse_spanning, emoji_in_blocks, Text.lines, occurrences_lines (Line.pieces_lined text),
      Line.pieces_joined]

end PlainText

end ProseLinter
