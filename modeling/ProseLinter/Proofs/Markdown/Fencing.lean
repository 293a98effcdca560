import ProseLinter.Proofs.Markdown.FencedCode
import ProseLinter.Proofs.Text.Outside
import ProseLinter.Proofs.Tree.Reading
import ProseLinter.Rule.TrailingSpace

/-!
# Fences that are open

Whether a line belongs to fenced code depends on the fence that is open before it, and that on the
contents of the lines alone. A reader that goes from block to block marks the same lines as code,
and refuses a text just if it reads strictly and the lines leave a fence open. So a text whose lines
open and close the same fences is read again, with the same lines in code.
-/

namespace ProseLinter.Markdown

open Node (isCode)
open Line (Follow wholeText follow_append bounds_of_follow)

/-- The fence that is open behind a line, given the one that is open before it. -/
def fenceAfter (opened : Option Fence) (content : Text) : Option Fence :=
  match opened with
  | none => fence? content
  | some fence => if fence.closedBy content then none else some fence

def leftOpen (opened : Option Fence) (contents : List Text) : Option Fence :=
  contents.foldl fenceAfter opened

/-- Whether a line belongs to fenced code: a fence is open before it, or it opens one. -/
def isFenced (opened : Option Fence) (content : Text) : Bool :=
  opened.isSome || (fence? content).isSome

def fenced (opened : Option Fence) : List Text → List Bool
  | [] => []
  | content :: rest => isFenced opened content :: fenced (fenceAfter opened content) rest

theorem leftOpen_append (opened : Option Fence) (first second : List Text) :
    leftOpen opened (first ++ second) = leftOpen (leftOpen opened first) second :=
  List.foldl_append

theorem fenced_append (opened : Option Fence) (first second : List Text) :
    fenced opened (first ++ second) =
      fenced opened first ++ fenced (leftOpen opened first) second := by
  induction first generalizing opened with
  | nil => rfl
  | cons content rest induction =>
      exact congrArg (isFenced opened content :: ·) (induction (fenceAfter opened content))

section Runs

variable {fence : Fence} {content : Text} {contents : List Text}

theorem opened_by (opens : fence? content = some fence) :
    fenceAfter none content = some fence := opens

theorem outside_of_none (plain : ∀ content ∈ contents, fence? content = none) :
    fenced none contents = List.replicate contents.length false ∧
      leftOpen none contents = none := by
  induction contents with
  | nil => exact ⟨rfl, rfl⟩
  | cons content rest induction =>
      rw [List.forall_mem_cons] at plain
      obtain ⟨flags, left⟩ := induction plain.2
      have opens_none : fenceAfter none content = none := plain.1
      have flag : isFenced none content = false := by simp [isFenced, plain.1]
      refine ⟨?_, ?_⟩
      · rw [fenced, flag, opens_none, flags, List.length_cons, List.replicate_succ]
      · rw [leftOpen, List.foldl_cons, opens_none]
        exact left

theorem inside_of_open (still : ∀ content ∈ contents, fence.closedBy content = false) :
    fenced (some fence) contents = List.replicate contents.length true ∧
      leftOpen (some fence) contents = some fence := by
  induction contents with
  | nil => exact ⟨rfl, rfl⟩
  | cons content rest induction =>
      rw [List.forall_mem_cons] at still
      obtain ⟨flags, left⟩ := induction still.2
      have stays : fenceAfter (some fence) content = some fence := by simp [fenceAfter, still.1]
      refine ⟨?_, ?_⟩
      · rw [fenced, stays, flags, List.length_cons, List.replicate_succ]
        rfl
      · rw [leftOpen, List.foldl_cons, stays]
        exact left

end Runs

section Reader

variable {strict : Bool} {offset : Nat} {taken after lines : List Line} {block : Node}
  {nodes : List Node}

def contents (lines : List Line) : List Text := lines.map Line.content

theorem contents_cons (line : Line) (rest : List Line) :
    contents (line :: rest) = line.content :: contents rest := rfl

theorem contents_append (first second : List Line) :
    contents (first ++ second) = contents first ++ contents second :=
  List.map_append

theorem forall_contents {lines : List Line} {Holds : Text → Prop} :
    (∀ content ∈ contents lines, Holds content) ↔ ∀ line ∈ lines, Holds line.content :=
  List.forall_mem_map

/-- What the lines of a step are to fences: all of them are in code if the block is code, and none
of them otherwise. A fence is left open only by a lenient reader that has come to the end. -/
theorem next_fenced (next : NextBlock strict taken after block) :
    fenced none (contents taken) = List.replicate taken.length block.isCode ∧
      (leftOpen none (contents taken) = none ∨ ¬strict = true ∧ after = []) := by
  have passed {line : Line} {more : List Line} {kind : BranchKind} {start : Nat} {below : List Node}
      (no_code : kind.isCodeBlock = false) (opens : fence? line.content = none)
      (goes_on : ∀ next ∈ more, fence? next.content = none) :
      fenced none (contents (line :: more)) =
          List.replicate (line :: more).length (Node.spanning kind start below).isCode ∧
        (leftOpen none (contents (line :: more)) = none ∨ ¬strict = true ∧ after = []) := by
    obtain ⟨flags, left⟩ :=
      outside_of_none (forall_contents.2 (List.forall_mem_cons.2 ⟨opens, goes_on⟩))
    have kind_of : (Node.spanning kind start below).isCode = false := by
      rw [isCode, Node.isBranch_spanning, no_code]
    exact ⟨by rw [flags, kind_of, contents, List.length_map], .inl left⟩
  have none_more : ∀ next ∈ ([] : List Line), fence? next.content = none :=
    fun next member => absurd member List.not_mem_nil
  cases next with
  | blank line _ blank => exact passed rfl (no_fence_of_blank blank) none_more
  | closedCode line inside _ closing notBlank fence opens open_inside closes =>
      obtain ⟨flags, left⟩ := inside_of_open (forall_contents.2 open_inside)
      have is_code : (codeBlock line fence inside (some closing)).isCode = true :=
        Node.isBranch_spanning _ _ _ _
      have closed : fenceAfter (some fence) closing.content = none := by simp [fenceAfter, closes]
      have whole : contents (line :: inside ++ [closing]) =
          line.content :: (contents inside ++ [closing.content]) := by
        rw [List.cons_append, contents_cons, contents_append]
        rfl
      refine ⟨?_, .inl ?_⟩
      · have length : (line :: inside ++ [closing]).length = (contents inside).length + 1 + 1 := by
          simp [contents]
        rw [whole, fenced, opened_by opens, fenced_append, flags, left, is_code, length,
          List.replicate_succ, List.replicate_succ']
        simp [fenced, isFenced, opens]
      · rw [whole, leftOpen, List.foldl_cons, opened_by opens, ← leftOpen, leftOpen_append, left]
        exact closed
  | openCode line inside notBlank fence opens open_inside lenient =>
      obtain ⟨flags, -⟩ := inside_of_open (forall_contents.2 open_inside)
      have is_code : (codeBlock line fence inside none).isCode = true :=
        Node.isBranch_spanning _ _ _ _
      refine ⟨?_, .inr ⟨lenient, rfl⟩⟩
      rw [contents_cons, fenced, opened_by opens, flags, is_code]
      simp [isFenced, opens, contents, List.replicate_succ]
  | header line _ notBlank notFence mark opens => exact passed rfl notFence none_more
  | rule line _ notBlank notFence notHeader isRule => exact passed rfl notFence none_more
  | quote line more _ notBlank notFence notHeader notRule opens goes_on stops =>
      exact passed rfl notFence fun next member => no_fence_of_quote (goes_on next member)
  | list line more _ notBlank notFence notHeader notRule notQuote opens goes_on stops =>
      exact passed rfl notFence fun next member => no_fence_of_continues (goes_on next member)
  | paragraph line more _ notBlank notFence notHeader notRule notQuote notItem goes_on stops =>
      exact passed rfl notFence fun next member => no_fence_of_starts (goes_on next member)

theorem blocks_eq_ok_iff (strict : Bool) (lines : List Line) :
    (∃ nodes, blocks strict lines = .ok nodes) ↔
      (strict = true → leftOpen none (contents lines) = none) := by
  refine reader_induction strict (motive := fun lines result => (∃ nodes, result = .ok nodes) ↔
    (strict = true → leftOpen none (contents lines) = none)) ?finish ?stop ?step lines
  case finish => exact iff_of_true ⟨[], rfl⟩ fun _ => rfl
  case stop =>
    rintro lines fault ⟨strictly, line, rest, fence, rfl, -, opens, open_inside, -⟩
    have left := (inside_of_open (forall_contents.2 open_inside)).2
    have opened : leftOpen none (contents (line :: rest)) = some fence := by
      rw [contents_cons, leftOpen, List.foldl_cons, opened_by opens]
      exact left
    simp [opened, strictly]
  case step =>
    intro taken after block next induction
    have more : (∃ nodes, (blocks strict after).map (block :: ·) = .ok nodes) ↔
        ∃ nodes, blocks strict after = .ok nodes := by
      cases blocks strict after <;> simp [Except.map]
    rw [more, induction, contents_append, leftOpen_append]
    rcases (next_fenced next).2 with closed | ⟨lenient, -⟩
    · rw [closed]
    · exact iff_of_true (fun strictly => absurd strictly lenient)
        (fun strictly => absurd strictly lenient)

theorem startsIn_eq_covers (line : Line) (spans : List Span) :
    TrailingSpace.startsIn line spans = spans.any (·.covers line.start) := rfl

/-- Whether a line starts in code is decided for the lines of a step by its block, and for the
others by the other blocks. -/
theorem starts_in_step (next : NextBlock strict taken after block)
    (follow : Follow offset (taken ++ after))
    (behind : ∀ node ∈ nodes, offset + (wholeText taken).length ≤ node.span.start) :
    (∀ line ∈ taken, TrailingSpace.startsIn line (((block :: nodes).filter isCode).map (·.span)) =
      block.isCode) ∧
      ∀ line ∈ after, TrailingSpace.startsIn line (((block :: nodes).filter isCode).map (·.span)) =
        TrailingSpace.startsIn line ((nodes.filter isCode).map (·.span)) := by
  obtain ⟨front, back⟩ := follow_append.1 follow
  have tile := next_tile next front
  have spelt : block.spelling = wholeText taken := by
    rw [← tile.spelt, Node.spellingAll, Node.spellingAll, List.append_nil]
  have start : block.span.start = offset := Node.start_of_stands_at tile.stand.1
  have stop : block.span.stop = offset + (wholeText taken).length := by
    rw [Node.stop_of_stands_at tile.stand.1, spelt]
  have split_code (place : Nat) :
      (((block :: nodes).filter isCode).map (·.span)).any (·.covers place) =
      ((block.isCode && block.span.covers place) ||
        ((nodes.filter isCode).map (·.span)).any (·.covers place)) := by
    rw [List.filter_cons]
    split <;> simp_all
  constructor
  · intro line member
    have bounds := bounds_of_follow front line member
    have here : block.span.covers line.start = true := Span.covers_iff.2 (by omega)
    have not_later : ((nodes.filter isCode).map (·.span)).any (·.covers line.start) = false := by
      rw [List.any_eq_false, List.forall_mem_map]
      intro node known
      have later := behind node (List.mem_filter.1 known).1
      rw [Span.covers_iff]
      omega
    rw [startsIn_eq_covers, split_code, here, not_later, Bool.and_true, Bool.or_false]
  · intro line member
    have bounds := bounds_of_follow back line member
    have not_here : block.span.covers line.start = false := by
      rw [Bool.eq_false_iff, ne_eq, Span.covers_iff]
      omega
    rw [startsIn_eq_covers, split_code, not_here, Bool.and_false, Bool.false_or, startsIn_eq_covers]

theorem starts_in_code (read : blocks strict lines = .ok nodes) (follow : Follow offset lines) :
    lines.map (TrailingSpace.startsIn · ((nodes.filter isCode).map (·.span))) =
      fenced none (contents lines) := by
  have run := blocks_induction (motive := fun lines nodes => ∀ offset, Follow offset lines →
    (∀ node ∈ nodes, offset ≤ node.span.start) ∧
      lines.map (TrailingSpace.startsIn · ((nodes.filter isCode).map (·.span))) =
        fenced none (contents lines))
    ?finish ?step read
  · exact (run offset follow).2
  case finish => exact fun _ _ => ⟨fun node member => absurd member List.not_mem_nil, rfl⟩
  case step =>
    intro taken after block more next induction offset follow
    obtain ⟨front, back⟩ := follow_append.1 follow
    obtain ⟨behind, flags⟩ := induction _ back
    obtain ⟨early, late⟩ := starts_in_step next follow behind
    obtain ⟨taken_flags, left⟩ := next_fenced next
    have start : block.span.start = offset := Node.start_of_stands_at (next_tile next front).stand.1
    refine ⟨List.forall_mem_cons.2 ⟨Nat.le_of_eq start.symm, fun node member => ?_⟩, ?_⟩
    · exact Nat.le_trans (Nat.le_add_right _ _) (behind node member)
    · have rest : fenced none (contents after) =
        fenced (leftOpen none (contents taken)) (contents after) := by
        rcases left with closed | ⟨-, finished⟩
        · rw [closed]
        · rw [finished]
          rfl
      rw [List.map_append, List.map_congr_left early, List.map_congr_left late, List.map_const',
        flags, contents_append, fenced_append, taken_flags, rest]

theorem Covers.around {region : List Line} (covers : Covers offset lines region block)
    (follow : Follow offset lines) :
    ∀ line ∈ lines, line.stop ≤ block.span.start ∨
      (block.span.start ≤ line.start ∧ line.stop ≤ block.span.stop) ∨
      block.span.stop ≤ line.start := by
  obtain ⟨before, after, rfl, span⟩ := covers
  obtain ⟨front, back⟩ := follow_append.1 follow
  obtain ⟨first, middle⟩ := follow_append.1 front
  rw [Line.whole_text_append, List.length_append] at back
  have start : block.span.start = offset + (wholeText before).length := by rw [span]; rfl
  have stop : block.span.stop = offset + (wholeText before).length + (wholeText region).length := by
    rw [span]; rfl
  rw [start, stop, List.forall_mem_append, List.forall_mem_append]
  refine ⟨⟨fun line member => .inl ?_, fun line member => .inr (.inl ?_)⟩,
    fun line member => .inr (.inr ?_)⟩
  · exact (bounds_of_follow first line member).2.2
  · have bounds := bounds_of_follow middle line member
    exact ⟨bounds.1, bounds.2.2⟩
  · have bounds := bounds_of_follow back line member
    omega

theorem covers_of_blocks (read : blocks strict lines = .ok nodes) (follow : Follow offset lines) :
    ∀ node ∈ nodes, ∃ region, Covers offset lines region node := by
  have run := blocks_induction (motive := fun lines nodes => ∀ offset, Follow offset lines →
    ∀ node ∈ nodes, ∃ region, Covers offset lines region node) ?finish ?step read
  · exact run offset follow
  case finish => exact fun _ _ node member => absurd member List.not_mem_nil
  case step =>
    intro taken after block more next induction offset follow
    obtain ⟨front, back⟩ := follow_append.1 follow
    refine List.forall_mem_cons.2 ⟨⟨taken, next_covers next front⟩, fun node member => ?_⟩
    obtain ⟨region, covers⟩ := induction _ back node member
    exact ⟨region, covers.behind taken⟩

end Reader

section Text

variable {strict : Bool} {text : Text} {tree : Node}

theorem contents_lines (text : Text) : contents text.lines = (Line.pieces text).map Prod.fst := by
  have parts := congrArg (List.map Prod.fst) (Line.parts_numbered 1 0 (Line.pieces text))
  rwa [List.map_map] at parts

theorem parse_eq_ok_iff (strict : Bool) (text : Text) :
    (∃ tree, parse strict text = .ok tree) ↔
      (strict = true → leftOpen none ((Line.pieces text).map Prod.fst) = none) := by
  rw [← contents_lines, ← blocks_eq_ok_iff]
  simp only [parse_eq_ok, exists_comm (α := Node), exists_and_left, exists_eq', and_true]

theorem starts_in_code_of_parse (read : parse strict text = .ok tree) :
    text.lines.map (TrailingSpace.startsIn · (TrailingSpace.codeSpans tree)) =
      fenced none ((Line.pieces text).map Prod.fst) := by
  obtain ⟨nodes, read_nodes, root⟩ := parse_eq_ok.1 read
  have spans : TrailingSpace.codeSpans tree = (nodes.filter isCode).map (·.span) := by
    rw [← select_code_of_read read_nodes, root]
    rfl
  rw [spans, starts_in_code read_nodes (Line.follow_lines text), contents_lines]

theorem lines_around_code (read : parse strict text = .ok tree) :
    ∀ node ∈ tree.select isCode, ∀ line ∈ text.lines,
    line.stop ≤ node.span.start ∨ (node.span.start ≤ line.start ∧ line.stop ≤ node.span.stop) ∨
      node.span.stop ≤ line.start := by
  obtain ⟨nodes, read_nodes, root⟩ := parse_eq_ok.1 read
  subst root
  rw [select_code_of_read read_nodes]
  intro node member
  obtain ⟨region, covers⟩ :=
    covers_of_blocks read_nodes (Line.follow_lines text) node (List.mem_filter.1 member).1
  exact covers.around (Line.follow_lines text)

end Text

end ProseLinter.Markdown
