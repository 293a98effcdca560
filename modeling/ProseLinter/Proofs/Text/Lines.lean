import ProseLinter.Proofs.Text.Excerpts
import ProseLinter.Text.Line

/-!
# The lines of a text

The lines of a text follow each other without gaps, none of them is empty, and together with their
terminators they are the text. Whoever reads a text line by line carries the offset of the next line
along; these lemmas say what happens to it when lines are taken one by one or in runs.
-/

namespace ProseLinter.Line

def whole (line : Line) : Text := line.content ++ line.ending

def wholeText (lines : List Line) : Text := lines.flatMap whole

/-- Whether lines follow each other from an offset on, each holding some text. -/
def Follow : Nat → List Line → Prop
  | _, [] => True
  | offset, line :: rest => line.start = offset ∧ line.whole ≠ [] ∧ Follow line.stop rest

theorem stop_eq (line : Line) : line.stop = line.start + line.whole.length := by
  rw [stop, contentEnd, whole, List.length_append, Nat.add_assoc]

@[simp]
theorem whole_text_nil : wholeText [] = [] := rfl

@[simp]
theorem whole_text_cons (line : Line) (rest : List Line) :
    wholeText (line :: rest) = line.whole ++ wholeText rest :=
  List.flatMap_cons

@[simp]
theorem whole_text_append (first second : List Line) :
    wholeText (first ++ second) = wholeText first ++ wholeText second :=
  List.flatMap_append

theorem follow_append {offset : Nat} {first second : List Line} :
    Follow offset (first ++ second) ↔
      Follow offset first ∧ Follow (offset + (wholeText first).length) second := by
  induction first generalizing offset with
  | nil =>
      simp only [List.nil_append, Follow, whole_text_nil, List.length_nil, Nat.add_zero, true_and]
  | cons line rest induction =>
      simp only [List.cons_append, Follow, whole_text_cons, List.length_append, induction,
        and_assoc, stop_eq]
      constructor
      · rintro ⟨rfl, some_text, follow, more⟩
        exact ⟨rfl, some_text, follow, Nat.add_assoc _ _ _ ▸ more⟩
      · rintro ⟨rfl, some_text, follow, more⟩
        exact ⟨rfl, some_text, follow, Nat.add_assoc _ _ _ ▸ more⟩

theorem follow_rest {offset : Nat} {line : Line} {rest : List Line}
    (follow : Follow offset (line :: rest)) :
    Follow (offset + line.whole.length) rest := by
  obtain ⟨start, -, more⟩ := follow
  rw [← start, ← stop_eq]
  exact more

theorem bounds_of_follow {offset : Nat} {lines : List Line} (follow : Follow offset lines) :
    ∀ line ∈ lines,
    offset ≤ line.start ∧ line.start < line.stop ∧
      line.stop ≤ offset + (wholeText lines).length := by
  induction lines generalizing offset with
  | nil => exact fun line member => absurd member List.not_mem_nil
  | cons line rest induction =>
      have later := induction (follow_rest follow)
      obtain ⟨rfl, some_text, -⟩ := follow
      have positive := List.length_pos_iff.2 some_text
      rw [whole_text_cons, List.length_append, List.forall_mem_cons, stop_eq]
      refine ⟨by omega, fun next member => ?_⟩
      have bounds := later next member
      omega

theorem in_turn_of_follow {offset : Nat} {lines : List Line} (follow : Follow offset lines) :
    lines.Pairwise fun earlier later => earlier.stop ≤ later.start := by
  induction lines generalizing offset with
  | nil => exact .nil
  | cons line rest induction =>
      refine .cons (fun later member => ?_) (induction (follow_rest follow))
      exact (bounds_of_follow follow.2.2 later member).1

theorem pieces_feed (rest : Text) : pieces ('\n' :: rest) = ([], ['\n']) :: pieces rest := rfl

theorem pieces_return_feed (rest : Text) :
    pieces ('\r' :: '\n' :: rest) = ([], ['\r', '\n']) :: pieces rest := rfl

theorem pieces_return {rest : Text} (notFeed : ∀ more, rest = '\n' :: more → False) :
    pieces ('\r' :: rest) = ([], ['\r']) :: pieces rest := by
  rw [pieces]
  exact notFeed

theorem pieces_other {c : Char} (notReturn : c = '\r' → False) (notFeed : c = '\n' → False)
    (rest : Text) :
    pieces (c :: rest) = match pieces rest with
      | [] => [([c], [])]
      | (content, ending) :: more => (c :: content, ending) :: more := by
  exact pieces.eq_5 c rest (fun _ isReturn _ => notReturn isReturn) notReturn notFeed

/-- The lines of a text with one more code point of content in front. -/
def push (c : Char) : List (Text × Text) → List (Text × Text)
  | [] => [([c], [])]
  | (content, ending) :: more => (c :: content, ending) :: more

theorem pieces_push {c : Char} (notReturn : c ≠ '\r') (notFeed : c ≠ '\n') (rest : Text) :
    pieces (c :: rest) = push c (pieces rest) := by
  rw [pieces_other notReturn notFeed]
  cases pieces rest <;> rfl

theorem pieces_return_cases (text : Text) :
    (∃ rest, text = '\n' :: rest ∧ pieces ('\r' :: text) = ([], ['\r', '\n']) :: pieces rest) ∨
      (∀ rest, text ≠ '\n' :: rest) ∧ pieces ('\r' :: text) = ([], ['\r']) :: pieces text := by
  by_cases feeds : ∃ rest, text = '\n' :: rest
  · obtain ⟨rest, same⟩ := feeds
    subst same
    exact .inl ⟨rest, rfl, pieces_return_feed rest⟩
  · rw [not_exists] at feeds
    exact .inr ⟨feeds, pieces_return feeds⟩

theorem pieces_joined (text : Text) :
    (pieces text).flatMap (fun piece => piece.1 ++ piece.2) = text := by
  induction text using pieces.induct with
  | case1 => rfl
  | case2 rest induction => rw [pieces_return_feed, List.flatMap_cons, induction]; rfl
  | case3 rest notFeed induction => rw [pieces_return notFeed, List.flatMap_cons, induction]; rfl
  | case4 rest induction => rw [pieces_feed, List.flatMap_cons, induction]; rfl
  | case5 c rest _ notReturn notFeed last induction =>
      rw [last] at induction
      rw [pieces_other notReturn notFeed, last, ← induction]
      rfl
  | case6 c rest _ notReturn notFeed content ending more opened induction =>
      rw [opened, List.flatMap_cons] at induction
      rw [pieces_other notReturn notFeed, opened, ← induction]
      rfl

theorem piece_ne_nil (text : Text) : ∀ piece ∈ pieces text, piece.1 ++ piece.2 ≠ [] := by
  induction text using pieces.induct with
  | case1 => exact fun _ member => absurd member List.not_mem_nil
  | case2 rest induction =>
      rw [pieces_return_feed, List.forall_mem_cons]; exact ⟨by simp, induction⟩
  | case3 rest notFeed induction =>
      rw [pieces_return notFeed, List.forall_mem_cons]
      exact ⟨by simp, induction⟩
  | case4 rest induction => rw [pieces_feed, List.forall_mem_cons]; exact ⟨by simp, induction⟩
  | case5 c rest _ notReturn notFeed last induction =>
      rw [pieces_other notReturn notFeed, last, List.forall_mem_cons]
      exact ⟨by simp, fun _ member => absurd member List.not_mem_nil⟩
  | case6 c rest _ notReturn notFeed content ending more opened induction =>
      rw [opened, List.forall_mem_cons] at induction
      rw [pieces_other notReturn notFeed, opened, List.forall_mem_cons]
      exact ⟨by simp, induction.2⟩

theorem whole_text_numbered (number start : Nat) (parts : List (Text × Text)) :
    wholeText (numbered number start parts) = parts.flatMap fun piece => piece.1 ++ piece.2 := by
  induction parts generalizing number start with
  | nil => rfl
  | cons piece rest induction => rw [numbered, whole_text_cons, induction, List.flatMap_cons]; rfl

theorem parts_numbered (number start : Nat) (parts : List (Text × Text)) :
    (numbered number start parts).map (fun line => (line.content, line.ending)) = parts := by
  induction parts generalizing number start with
  | nil => rfl
  | cons part rest induction => rw [numbered, List.map_cons, induction]

theorem follow_numbered (number start : Nat) (parts : List (Text × Text))
    (some_text : ∀ piece ∈ parts, piece.1 ++ piece.2 ≠ []) :
    Follow start (numbered number start parts) := by
  induction parts generalizing number start with
  | nil => trivial
  | cons piece rest induction =>
      rw [List.forall_mem_cons] at some_text
      exact ⟨rfl, some_text.1, induction (number + 1) _ some_text.2⟩

theorem whole_text_lines (text : Text) : wholeText text.lines = text := by
  rw [Text.lines, whole_text_numbered, pieces_joined]

theorem follow_lines (text : Text) : Follow 0 text.lines :=
  follow_numbered 1 0 (pieces text) (piece_ne_nil text)

theorem holds_of_follow {text : Text} {offset : Nat} {lines : List Line}
    (follow : Follow offset lines) (holds : wholeText lines <+: text.drop offset) :
    ∀ line ∈ lines, line.whole ≠ [] ∧ line.whole <+: text.drop line.start := by
  induction lines generalizing offset with
  | nil => exact fun line member => absurd member List.not_mem_nil
  | cons line rest induction =>
      have later := induction (follow_rest follow) (Text.holds_rest holds)
      obtain ⟨rfl, some_text, -⟩ := follow
      exact List.forall_mem_cons.mpr ⟨⟨some_text, (List.prefix_append _ _).trans holds⟩, later⟩

theorem holds_of_lines {text : Text} {line : Line} (member : line ∈ text.lines) :
    line.whole ≠ [] ∧ line.whole <+: text.drop line.start :=
  holds_of_follow (follow_lines text) (by rw [whole_text_lines]; exact List.prefix_rfl) line member

end ProseLinter.Line

namespace ProseLinter

/-- The lines of a text, each with its content and its terminator. -/
def Text.lineParts (text : Text) : List (Text × Text) :=
  text.lines.map fun line => (line.content, line.ending)

theorem Line.lineParts_eq_pieces (text : Text) : text.lineParts = pieces text :=
  parts_numbered 1 0 (pieces text)

end ProseLinter
