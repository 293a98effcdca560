import Mathlib.Data.List.Chain
import ProseLinter.Proofs.Text.EditedLines
import ProseLinter.Proofs.Text.LineJoining
import ProseLinter.Proofs.Text.Positions

/-!
# The one division of a text into lines

Lines that are counted from 1, hold a text together without gaps and keep every terminator in one
piece are the lines of that text: there is no other way to divide it. A carriage return and a line
feed behind it are in particular never parted.
-/

namespace ProseLinter.Line

/-- That lines divide a text: none of it is lost, no terminator stands inside a content, and only
the last line may lack one. -/
structure Divide (text : Text) (lines : List Line) : Prop where
  counted : lines.map Line.number = List.range' 1 lines.length
  whole : wholeText lines = text
  first : ∀ line ∈ lines.head?, line.start = 0
  next : lines.IsChain fun line next => next.start = line.stop
  unbroken : ∀ line ∈ lines, Unbroken line.content
  ended : ∀ line ∈ lines.dropLast, Terminates line.ending
  last : ∀ line ∈ lines.getLast?, Terminates line.ending ∨ line.ending = [] ∧ line.content ≠ []
  together : ∀ before after, text = before ++ '\r' :: '\n' :: after →
    ∃ line ∈ lines, line.contentEnd = before.length ∧ line.ending = ['\r', '\n']

variable {text content : Text} {lines : List Line} {parts more : List (Text × Text)}
  {offset number : Nat}

/-! ## Counting and following -/

theorem numbers_numbered (number start : Nat) (parts : List (Text × Text)) :
    (numbered number start parts).map Line.number = List.range' number parts.length := by
  induction parts generalizing number start with
  | nil => rfl
  | cons part rest induction =>
      rw [numbered, List.map_cons, induction, List.length_cons, List.range'_succ]

theorem follow_iff : Follow offset lines ↔
    (∀ line ∈ lines.head?, line.start = offset) ∧
    (lines.IsChain fun line next => next.start = line.stop) ∧
      ∀ line ∈ lines, line.whole ≠ [] := by
  induction lines generalizing offset with
  | nil => simp [Follow]
  | cons line rest induction =>
      rw [Follow, induction, List.isChain_cons, List.forall_mem_cons]
      simp only [List.head?_cons, Option.mem_some_iff, forall_eq']
      constructor
      · rintro ⟨starts, some_text, next, chain, others⟩
        exact ⟨starts, ⟨next, chain⟩, some_text, others⟩
      · rintro ⟨starts, ⟨next, chain⟩, some_text, others⟩
        exact ⟨starts, some_text, next, chain, others⟩

theorem eq_of_contentEnd {line other : Line} (follow : Follow offset lines) (member : line ∈ lines)
    (also : other ∈ lines) (ended : line.ending ≠ []) (other_ended : other.ending ≠ [])
    (same : line.contentEnd = other.contentEnd) :
    line = other := by
  have inside : ∀ {line : Line}, line.ending ≠ [] →
      line.start ≤ line.contentEnd ∧ line.contentEnd < line.stop :=
    fun ended => ⟨Nat.le_add_right _ _, Nat.lt_add_of_pos_right (List.length_pos_iff.mpr ended)⟩
  obtain ⟨reached, before_stop⟩ := inside ended
  obtain ⟨other_reached, other_before_stop⟩ := inside other_ended
  exact eq_of_shared follow member also reached before_stop (same ▸ other_reached)
    (same ▸ other_before_stop)

theorem eq_numbered (counted : lines.map Line.number = List.range' number lines.length)
    (follow : Follow offset lines) :
    lines = numbered number offset (lines.map fun line => (line.content, line.ending)) := by
  induction lines generalizing number offset with
  | nil => rfl
  | cons line rest induction =>
      rw [List.map_cons, List.length_cons, List.range'_succ, List.cons.injEq] at counted
      obtain ⟨starts, -, later⟩ := follow
      have others := induction counted.2 later
      rw [stop, contentEnd, starts] at others
      rw [List.map_cons, numbered, ← others, ← counted.1, ← starts]

/-! ## Terminators -/

theorem Terminates.ne_nil {ending : Text} (terminates : Terminates ending) : ending ≠ [] := by
  cases terminates <;> exact List.cons_ne_nil _ _

theorem lined_iff : Lined parts ↔ (∀ part ∈ parts, Unbroken part.1) ∧
    (∀ part ∈ parts.dropLast, Terminates part.2) ∧
    ∀ part ∈ parts.getLast?, Terminates part.2 ∨ part.2 = [] := by
  constructor
  · intro lined
    refine ⟨lined.unbroken, ?_⟩
    induction lined with
    | nil => simp
    | last unbroken => simp
    | @line content ending rest unbroken terminates lined induction =>
        cases rest with
        | nil => simpa using .inl terminates
        | cons next others =>
            rw [List.dropLast_cons_cons, List.getLast?_cons_cons, List.forall_mem_cons]
            exact ⟨⟨terminates, induction.1⟩, induction.2⟩
  · rintro ⟨unbroken, ended, last⟩
    induction parts with
    | nil => exact .nil
    | cons part rest induction =>
        obtain ⟨own, others⟩ := List.forall_mem_cons.mp unbroken
        cases rest with
        | nil =>
            rcases last part rfl with terminates | open_end
            · exact .line own terminates .nil
            · rw [show part = (part.1, []) from Prod.ext rfl open_end]
              exact .last own
        | cons next rest =>
            rw [List.dropLast_cons_cons, List.forall_mem_cons] at ended
            rw [List.getLast?_cons_cons] at last
            exact .line own ended.1 (induction others ended.2 last)

theorem lined_lines_iff : Lined (lines.map fun line => (line.content, line.ending)) ↔
    (∀ line ∈ lines, Unbroken line.content) ∧ (∀ line ∈ lines.dropLast, Terminates line.ending) ∧
      ∀ line ∈ lines.getLast?, Terminates line.ending ∨ line.ending = [] := by
  rw [lined_iff, ← List.map_dropLast, List.getLast?_map]
  simp only [List.forall_mem_map, Option.mem_def, Option.map_eq_some_iff,
    forall_exists_index, and_imp, forall_apply_eq_imp_iff₂]

/-- That some lines hold a text and then a carriage return and a line feed that are one
terminator. -/
def EndsOneBehind (before : Text) (parts : List (Text × Text)) : Prop :=
  ∃ first content rest, parts = first ++ (content, ['\r', '\n']) :: rest ∧
    first.flatMap (fun part => part.1 ++ part.2) ++ content = before

theorem EndsOneBehind.cons {before : Text} (part : Text × Text)
    (ends : EndsOneBehind before parts) :
    EndsOneBehind (part.1 ++ part.2 ++ before) (part :: parts) := by
  obtain ⟨first, content, rest, rfl, rfl⟩ := ends
  refine ⟨part :: first, content, rest, rfl, ?_⟩
  rw [List.flatMap_cons, List.append_assoc]

theorem EndsOneBehind.push {before : Text} (c : Char) (ends : EndsOneBehind before parts) :
    EndsOneBehind (c :: before) (push c parts) := by
  obtain ⟨first, content, rest, rfl, rfl⟩ := ends
  cases first with
  | nil => exact ⟨[], c :: content, rest, rfl, rfl⟩
  | cons part first => exact ⟨(c :: part.1, part.2) :: first, content, rest, rfl, rfl⟩

theorem ends_one_behind (before after : Text) :
    EndsOneBehind before (pieces (before ++ '\r' :: '\n' :: after)) := by
  induction before using pieces.induct with
  | case1 => exact ⟨[], [], pieces after, pieces_return_feed after, rfl⟩
  | case2 rest induction => exact pieces_return_feed _ ▸ induction.cons ([], ['\r', '\n'])
  | case3 rest notFeed induction =>
      have still_not_feed : ∀ more, rest ++ '\r' :: '\n' :: after = '\n' :: more → False := by
        intro more feeds
        cases rest with
        | nil => cases (List.cons.inj feeds).1
        | cons c rest => exact notFeed rest (by rw [(List.cons.inj feeds).1])
      exact pieces_return still_not_feed ▸ induction.cons ([], ['\r'])
  | case4 rest induction => exact pieces_feed _ ▸ induction.cons ([], ['\n'])
  | case5 c rest _ notReturn notFeed last induction =>
      exact pieces_push notReturn notFeed _ ▸ induction.push c
  | case6 c rest _ notReturn notFeed content ending more opened induction =>
      exact pieces_push notReturn notFeed _ ▸ induction.push c

theorem mem_of_ends_one_behind {before : Text} (ends : EndsOneBehind before (pieces text)) :
    ∃ line ∈ text.lines, line.contentEnd = before.length ∧ line.ending = ['\r', '\n'] := by
  obtain ⟨first, content, rest, same, joined⟩ := ends
  rw [Text.lines, same, numbered_append, numbered]
  refine ⟨_, List.mem_append_right _ List.mem_cons_self, ?_, rfl⟩
  rw [contentEnd, ← joined, List.length_append, Nat.zero_add]

/-! ## The division -/

theorem divide_lines (text : Text) : Divide text text.lines := by
  obtain ⟨first, next, some_text⟩ := follow_iff.mp (follow_lines text)
  obtain ⟨unbroken, ended, last⟩ := lined_lines_iff.mp (lineParts_lined text)
  constructor
  case counted =>
    rw [Text.lines, numbers_numbered, length_numbered]
  case whole => exact whole_text_lines text
  case first => exact first
  case next => exact next
  case unbroken => exact unbroken
  case ended => exact ended
  case last =>
    intro line found
    refine (last line found).imp_right fun none_there => ⟨none_there, fun no_content => ?_⟩
    refine some_text line (List.mem_of_getLast? found) ?_
    rw [Line.whole, no_content, none_there, List.append_nil]
  case together =>
    rintro before after rfl
    exact mem_of_ends_one_behind (ends_one_behind before after)

theorem Joined.eq_of_apart (joined : Joined parts more)
    (some_text : ∀ part ∈ parts, part.1 ++ part.2 ≠ [])
    (apart : parts.IsChain fun line next => ¬(line.2 = ['\r'] ∧ next = ([], ['\n']))) :
    parts = more := by
  induction joined with
  | nil => rfl
  | vanish => exact absurd rfl (some_text ([], []) List.mem_cons_self)
  | keep part joined induction =>
      rw [induction (List.forall_mem_cons.mp some_text).2 apart.tail]
  | join content joined induction =>
      rw [List.isChain_cons_cons] at apart
      exact absurd ⟨rfl, rfl⟩ apart.1

theorem mem_dropLast_or_last {line : Line} (member : line ∈ lines) :
    line ∈ lines.dropLast ∨ line ∈ lines.getLast? := by
  have some_line := List.ne_nil_of_mem member
  rw [← List.dropLast_append_getLast some_line, List.mem_append, List.mem_singleton] at member
  refine member.imp_right fun last => ?_
  rw [last, List.getLast?_eq_some_getLast some_line, Option.mem_def]

namespace Divide

variable (division : Divide text lines)

include division

theorem some_text : ∀ line ∈ lines, line.whole ≠ [] := by
  intro line member no_text
  rw [Line.whole, List.append_eq_nil_iff] at no_text
  rcases mem_dropLast_or_last member with earlier | found
  · exact (division.ended line earlier).ne_nil no_text.2
  · rcases division.last line found with terminates | ⟨-, some_content⟩
    · exact terminates.ne_nil no_text.2
    · exact some_content no_text.1

theorem follow : Follow 0 lines :=
  follow_iff.mpr ⟨division.first, division.next, division.some_text⟩

theorem lined : Lined (lines.map fun line => (line.content, line.ending)) :=
  lined_lines_iff.mpr
    ⟨division.unbroken, division.ended,
      fun line found => (division.last line found).imp_right And.left⟩

/-- A line feed never opens the line behind a carriage return: both would be the terminator of one
line. -/
theorem apart : (lines.map fun line => (line.content, line.ending)).IsChain
    fun line next => ¬(line.2 = ['\r'] ∧ next = ([], ['\n'])) := by
  rw [List.isChain_map, List.isChain_iff_forall_rel_of_append_cons_cons]
  rintro line next before after split ⟨returns, feeds⟩
  change line.ending = ['\r'] at returns
  obtain ⟨no_content, feed⟩ := Prod.mk.inj feeds
  have text_split : text = (wholeText before ++ line.content) ++ '\r' :: '\n' ::
      wholeText after := by
    rw [← division.whole, split, whole_text_append, whole_text_cons, whole_text_cons, Line.whole,
      Line.whole, returns, no_content, feed]
    simp only [List.append_assoc, List.singleton_append, List.nil_append]
  obtain ⟨other, also, stops, both⟩ := division.together _ _ text_split
  -- Both terminators stand where the content of the line ends, so both are of this line.
  have start : line.start = (wholeText before).length := by
    have follow := division.follow
    rw [split, follow_append, Nat.zero_add] at follow
    exact follow.2.1
  have shared : line.contentEnd = other.contentEnd := by
    rw [stops, List.length_append, ← start, contentEnd]
  have member : line ∈ lines := by rw [split]; exact List.mem_append_right _ List.mem_cons_self
  have same :=
    eq_of_contentEnd division.follow member also (by simp [returns]) (by simp [both]) shared
  rw [same, both] at returns
  cases returns

theorem eq_lines : lines = text.lines := by
  have joined := joined_of_lined division.lined
  rw [List.flatMap_map] at joined
  have parts := joined.eq_of_apart (List.forall_mem_map.mpr division.some_text) division.apart
  rw [eq_numbered division.counted division.follow, parts, Text.lines]
  exact congrArg (fun text => numbered 1 0 (pieces text)) division.whole

end Divide

/-- Lines divide a text as they should exactly if they are the lines of that text; there are none
exactly if it is empty. -/
theorem text_has_one_division (text : Text) :
    (∀ lines, Divide text lines ↔ lines = text.lines) ∧ (text.lines = [] ↔ text = []) := by
  refine ⟨fun lines => ⟨Divide.eq_lines, ?_⟩, ?_⟩
  · rintro rfl
    exact divide_lines text
  · constructor
    · intro none_there
      rw [← whole_text_lines text, none_there, whole_text_nil]
    · rintro rfl
      rfl

/-- Two terminators that meet, and a last line without one. -/
example : Text.lines ['a', '\n', '\r', '\r', '\n', 'b'] =
    [⟨1, 0, ['a'], ['\n']⟩, ⟨2, 2, [], ['\r']⟩, ⟨3, 3, [], ['\r', '\n']⟩,
      ⟨4, 5, ['b'], []⟩] := by decide

end ProseLinter.Line
