import Mathlib.Data.List.DropRight
import ProseLinter.Proofs.Markdown.Fencing
import ProseLinter.Proofs.Rule.TrailingSpace
import ProseLinter.Proofs.Text.EditedLines

/-!
# Lines that are trimmed outside of fenced code

No content becomes a fence or stops being one when spaces and tabs are taken off its end. So where
the lines outside of fenced code are trimmed, the text that comes of them has the same lines in
fenced code, and there is nothing left to trim. That holds for the terminators that meet as well,
since a line between them that is emptied stands outside of fenced code.
-/

namespace ProseLinter

namespace TrailingSpace

/-- A content without the spaces and tabs at its end. If blank lines are to be passed over, a
content of nothing else stays. -/
def trim (skip : Bool) (content : Text) : Text :=
  if skip && content.all isSpaceOrTab then content else content.dropEndWhile isSpaceOrTab

variable {skip : Bool} {content : Text}

theorem trim_idem (skip : Bool) (content : Text) :
    trim skip (trim skip content) = trim skip content := by
  by_cases stays : (skip && content.all isSpaceOrTab) = true
  · rw [trim.eq_1 skip content, if_pos stays, trim, if_pos stays]
  · have again : Text.dropEndWhile isSpaceOrTab (Text.dropEndWhile isSpaceOrTab content) =
        Text.dropEndWhile isSpaceOrTab content := List.rdropWhile_idempotent isSpaceOrTab content
    rw [trim.eq_1 skip content, if_neg stays, trim]
    split
    · rfl
    · exact again

theorem trim_append (skip : Bool) (content : Text) :
    ∃ blanks, trim skip content ++ blanks = content ∧ ∀ c ∈ blanks, isSpaceOrTab c = true := by
  unfold trim
  split
  · exact ⟨[], List.append_nil content, fun c member => absurd member List.not_mem_nil⟩
  · refine ⟨_, Text.dropEndWhile_append isSpaceOrTab content, fun c member => ?_⟩
    exact List.all_eq_true.mp List.all_takeWhile c (List.mem_reverse.mp member)

theorem trim_sublist (skip : Bool) (content : Text) : (trim skip content).Sublist content := by
  obtain ⟨blanks, whole, -⟩ := trim_append skip content
  have front := List.sublist_append_left (trim skip content) blanks
  rwa [whole] at front

end TrailingSpace

namespace Markdown

open TrailingSpace (trim trim_idem trim_append trim_sublist)
open Line (Joined pieces)

variable {strict skip : Bool} {c : Char} {count : Nat} {content blanks text : Text}
  {opened : Option Fence} {parts more : List (Text × Text)} {lines : List Line}

theorem OpensFence.append (opens : OpensFence c count content)
    (blank : ∀ d ∈ blanks, isSpaceOrTab d = true) :
    OpensFence c count (content ++ blanks) := by
  obtain ⟨mark, long, indent, info, few, rfl, ends⟩ := opens
  refine ⟨mark, long, indent, info ++ blanks, few, by simp only [List.append_assoc], ?_⟩
  cases info with
  | cons d rest => exact ends
  | nil =>
      intro head
      have spaced := blank c (List.mem_of_head? head)
      rw [ne_space_of_mark mark] at spaced
      cases spaced

theorem no_fence_of_trim (plain : fence? content = none) : fence? (trim skip content) = none := by
  obtain ⟨blanks, whole, blank⟩ := trim_append skip content
  apply Option.eq_none_iff_forall_ne_some.2
  intro fence opens
  have longer := (opens_of_fence opens).append blank
  rw [whole] at longer
  exact not_opens_of_none plain _ _ longer

/-- What is left of a content if it is trimmed, unless it belongs to fenced code. -/
def trimOutside (skip : Bool) (opened : Option Fence) (content : Text) : Text :=
  if isFenced opened content then content else trim skip content

/-- What is left of lines if those are trimmed that do not belong to fenced code. -/
def trimLines (skip : Bool) (opened : Option Fence) : List (Text × Text) → List (Text × Text)
  | [] => []
  | (content, ending) :: rest =>
      (trimOutside skip opened content, ending) :: trimLines skip (fenceAfter opened content) rest

theorem isFenced_eq_false : isFenced opened content = false ↔
    opened = none ∧ fence? content = none := by
  simp [isFenced]

theorem trimOutside_keeps (skip : Bool) (opened : Option Fence) (content : Text) :
    isFenced opened (trimOutside skip opened content) = isFenced opened content ∧
      fenceAfter opened (trimOutside skip opened content) = fenceAfter opened content ∧
      trimOutside skip opened (trimOutside skip opened content) =
        trimOutside skip opened content := by
  cases flag : isFenced opened content with
  | true =>
      have same : trimOutside skip opened content = content := if_pos flag
      simp only [same, flag, and_self]
  | false =>
      obtain ⟨rfl, plain⟩ := isFenced_eq_false.1 flag
      have same : trimOutside skip none content = trim skip content := by simp [trimOutside, flag]
      have trimmed_plain : fence? (trim skip content) = none := no_fence_of_trim plain
      have trimmed_flag : isFenced none (trim skip content) = false :=
        isFenced_eq_false.2 ⟨rfl, trimmed_plain⟩
      refine ⟨by rw [same, trimmed_flag], by simp only [same, fenceAfter, trimmed_plain, plain], ?_⟩
      rw [same, trimOutside, trimmed_flag, if_neg Bool.false_ne_true, trim_idem]

theorem outside_of_emptied (some_content : content ≠ [])
    (emptied : trimOutside skip opened content = []) :
    opened = none ∧ fence? content = none := by
  rw [← isFenced_eq_false, Bool.eq_false_iff]
  intro flag
  rw [trimOutside, if_pos flag] at emptied
  exact some_content emptied

/-- Lines that are put together after they were trimmed leave the same fence open as before, and
there is nothing left to trim: a line that is gone, or whose terminator has met the one before it,
stood outside of fenced code. -/
theorem settled_of_joined (joined : Joined (trimLines skip opened parts) more)
    (some_text : ∀ part ∈ parts, part.1 ++ part.2 ≠ [])
    (apart : parts.IsChain fun line next => ¬(line.2 = ['\r'] ∧ next = ([], ['\n']))) :
    trimLines skip opened more = more ∧
      leftOpen opened (more.map Prod.fst) = leftOpen opened (parts.map Prod.fst) := by
  generalize trimmed : trimLines skip opened parts = given at joined
  induction joined generalizing opened parts with
  | nil =>
      cases parts with
      | nil => exact ⟨rfl, rfl⟩
      | cons part rest => cases trimmed
  | vanish =>
      rcases parts with _ | ⟨⟨content, ending⟩, _ | ⟨next, rest⟩⟩
      · cases trimmed
      · simp only [trimLines, List.cons.injEq, Prod.mk.injEq, and_true] at trimmed
        have some_content : content ≠ [] := by simpa [trimmed.2] using some_text
        obtain ⟨rfl, plain⟩ := outside_of_emptied some_content trimmed.1
        exact ⟨rfl, plain.symm⟩
      · simp [trimLines] at trimmed
  | keep part joined induction =>
      rcases parts with _ | ⟨⟨content, ending⟩, rest⟩
      · cases trimmed
      · rw [trimLines, List.cons.injEq] at trimmed
        obtain ⟨rfl, trimmed⟩ := trimmed
        obtain ⟨-, after, again⟩ := trimOutside_keeps skip opened content
        obtain ⟨settled, left⟩ := induction (List.forall_mem_cons.1 some_text).2 apart.tail trimmed
        refine ⟨?_, ?_⟩
        · rw [trimLines, again, after, settled]
        · simp only [leftOpen, List.map_cons, List.foldl_cons, after]
          exact left
  | join content joined induction =>
      rcases parts with _ | ⟨⟨first, ending⟩, _ | ⟨⟨second, feed⟩, rest⟩⟩
      · cases trimmed
      · simp [trimLines] at trimmed
      · simp only [trimLines, List.cons.injEq, Prod.mk.injEq] at trimmed
        obtain ⟨⟨rfl, rfl⟩, ⟨emptied, rfl⟩, trimmed⟩ := trimmed
        have some_content : second ≠ [] := by
          rintro rfl
          exact (List.isChain_cons_cons.1 apart).1 ⟨rfl, rfl⟩
        obtain ⟨closed, plain⟩ := outside_of_emptied some_content emptied
        obtain ⟨-, after, again⟩ := trimOutside_keeps skip opened first
        have passed : fenceAfter none second = none := plain
        rw [closed, passed] at trimmed
        have some_later := (List.forall_mem_cons.1 (List.forall_mem_cons.1 some_text).2).2
        obtain ⟨settled, left⟩ := induction some_later apart.tail.tail trimmed
        refine ⟨?_, ?_⟩
        · rw [trimLines, again, after, closed, settled]
        · simp only [leftOpen, List.map_cons, List.foldl_cons, after, closed, passed]
          exact left

theorem trimLines_eq_map {inCode : Line → Bool}
    (flags : lines.map inCode = fenced opened (contents lines)) :
    (lines.map fun line =>
      (if inCode line then line.content else trim skip line.content, line.ending)) =
      trimLines skip opened (lines.map fun line => (line.content, line.ending)) := by
  induction lines generalizing opened with
  | nil => rfl
  | cons line rest induction =>
      rw [contents_cons, fenced, List.map_cons, List.cons.injEq] at flags
      rw [List.map_cons, List.map_cons, trimLines, induction flags.2, trimOutside, flags.1]

end Markdown

namespace TrailingSpace

open Line (pieces)

/-- What is left of the content of a line if it is trimmed, unless it starts in one of the spans of
code. -/
def kept (skip : Bool) (code : List Span) (line : Line) : Text :=
  if startsIn line code then line.content else trim skip line.content

theorem kept_sublist (skip : Bool) (code : List Span) (line : Line) :
    (kept skip code line).Sublist line.content := by
  unfold kept
  split
  · exact .refl _
  · exact trim_sublist skip line.content

/-- What is left of a text if its lines are trimmed, but for those that start in code. -/
def trimmed (skip : Bool) (code : List Span) (text : Text) : Text :=
  text.lines.flatMap fun line => kept skip code line ++ line.ending

theorem trimmed_sublist (skip : Bool) (code : List Span) (text : Text) :
    (trimmed skip code text).Sublist text := by
  have parts : (text.lines.flatMap fun line => kept skip code line ++ line.ending).Sublist
      (Line.wholeText text.lines) :=
    List.Sublist.flatMap_right text.lines fun line _ =>
      (kept_sublist skip code line).append (.refl line.ending)
  rwa [Line.whole_text_lines] at parts

end TrailingSpace

namespace Markdown

open TrailingSpace (kept trimmed codeSpans)

variable {strict skip : Bool} {text : Text} {tree : Node}

theorem trimLines_of_parse (skip : Bool) (read : parse strict text = .ok tree) :
    (text.lines.map fun line => (kept skip (codeSpans tree) line, line.ending)) =
      trimLines skip none (Line.pieces text) := by
  have flags := starts_in_code_of_parse read
  rw [← contents_lines] at flags
  rw [← Line.lineParts_eq_pieces]
  exact trimLines_eq_map flags

theorem trimmed_settles (skip : Bool) (read : parse strict text = .ok tree) :
    ∃ next, parse strict (trimmed skip (codeSpans tree) text) = .ok next ∧
      ∀ line ∈ (trimmed skip (codeSpans tree) text).lines,
        kept skip (codeSpans next) line = line.content := by
  have joined :=
    Line.joined_of_edited text fun line _ => TrailingSpace.kept_sublist skip (codeSpans tree) line
  rw [trimLines_of_parse skip read] at joined
  obtain ⟨settled, left⟩ :=
    settled_of_joined joined (Line.piece_ne_nil text) (Line.pieces_apart text)
  have closes := (parse_eq_ok_iff strict text).1 ⟨tree, read⟩
  rw [← left] at closes
  obtain ⟨next, next_read⟩ := (parse_eq_ok_iff strict (trimmed skip (codeSpans tree) text)).2 closes
  refine ⟨next, next_read, fun line member => ?_⟩
  have same := trimLines_of_parse skip next_read
  rw [trimmed, settled, ← Line.lineParts_eq_pieces] at same
  exact congrArg Prod.fst (List.map_inj_left.1 same line member)

end Markdown

end ProseLinter
