import Mathlib
import ProseLinter.Proofs.Markdown.BlockNodes
import ProseLinter.Proofs.Markdown.FenceScan
import ProseLinter.Proofs.Markdown.Tiling

/-!
# Blocks of code are fenced regions

The reader takes lists, quotes and paragraphs by tests of their own on the lines that go on with
them, and no such test lets a fence by. So the blocks of code it reads, at any depth of the tree,
are the regions of a scan that knows of fences only.
-/

namespace ProseLinter

def Node.isCode (node : Node) : Bool := node.isBranch BranchKind.isCodeBlock

def Node.codeBlocks (nodes : List Node) : List Node := nodes.flatMap (Node.select Node.isCode)

namespace Markdown

open Node (codeBlocks isCode)
open Line (Follow wholeText follow_append bounds_of_follow)

/-! ## Only fences make blocks of code -/

section CodeBlocks

variable {strict : Bool} {taken after : List Line} {block : Node}

theorem code_blocks_append (first second : List Node) :
    codeBlocks (first ++ second) = codeBlocks first ++ codeBlocks second :=
  List.flatMap_append

theorem code_blocks_spanning (kind : BranchKind) (start : Nat) (below rest : List Node) :
    codeBlocks (Node.spanning kind start below :: rest) =
      (if kind.isCodeBlock then [Node.spanning kind start below] else []) ++ codeBlocks below ++
        codeBlocks rest := by
  cases below <;> exact congrArg (· ++ codeBlocks rest) (Node.select_branch isCode kind _ _)

theorem code_blocks_of_next (next : NextBlock strict taken after block) :
    codeBlocks [block] = [block].filter isCode := by
  have asked : ∀ kind : BranchKind, kind.isCodeBlock = true → kind.isBlock = true := by
    intro kind code
    cases kind <;> first | rfl | cases code
  have flat := next_is_flat next
  have own : block.select isCode = (block.select Node.isBlock).filter isCode :=
    Node.select_of_blocks asked block
  have none_inside : (innerBlocks block).filter isCode = [] := flat.none_inside fun _ _ => rfl
  rw [codeBlocks, List.flatMap_singleton, own, flat.blocks, List.filter_cons, List.filter_cons,
    none_inside]
  rfl

end CodeBlocks

/-! ## Every step is a step of the scan -/

section Scan

variable {strict : Bool} {taken after lines : List Line} {block : Node} {nodes : List Node}
  {line : Line} {regions : List (List Line)}

theorem no_fence_of_blank (blank : line.content.blank = true) : fence? line.content = none := by
  apply Option.eq_none_iff_forall_ne_some.2
  intro fence opens
  simp [(opens_of_fence opens).nothing_else.1] at blank

theorem no_fence_of_quote (quoted : (quote? line.content).isSome = true) :
    fence? line.content = none := by
  apply Option.eq_none_iff_forall_ne_some.2
  intro fence opens
  simp [(opens_of_fence opens).nothing_else.2.1] at quoted

theorem no_fence_of_continues (goes_on : continuesList line.content = true) :
    fence? line.content = none := by
  apply Option.eq_none_iff_forall_ne_some.2
  intro fence opens
  simp [continuesList, opens, (opens_of_fence opens).nothing_else.2.2] at goes_on

theorem no_fence_of_starts (goes_on : (!startsBlock line.content) = true) :
    fence? line.content = none := by
  apply Option.eq_none_iff_forall_ne_some.2
  intro fence opens
  simp [startsBlock, opens] at goes_on

theorem not_closes_of_open {opening : Text} {fence : Fence} (opens : fence? opening = some fence)
    (open_inside : ∀ next ∈ lines, fence.closedBy next.content = false) :
    ∀ next ∈ lines, ¬ClosesFence fence.char fence.marker.length next.content := by
  intro next member
  rw [← closed_by_iff opens, open_inside next member]
  exact Bool.false_ne_true

theorem FenceScan.passes_block {more : List Line} (noCode : block.isCode = false)
    (opens : fence? line.content = none) (goes_on : ∀ next ∈ more, fence? next.content = none)
    (scan : FenceScan strict .outside after regions) :
    FenceScan strict .outside (line :: more ++ after)
    (if block.isCode then (line :: more) :: regions else regions) := by
  rw [noCode]
  exact scan.passes_all (List.forall_mem_cons.2 ⟨opens, goes_on⟩)

/-- A step that reads a block of code takes a region of the scan, and any other step takes lines
that the scan passes. -/
theorem next_scan (next : NextBlock strict taken after block)
    (scan : FenceScan strict .outside after regions) :
    FenceScan strict .outside (taken ++ after)
    (if block.isCode then taken :: regions else regions) := by
  have noneMore : ∀ next ∈ ([] : List Line), fence? next.content = none :=
    fun next member => absurd member List.not_mem_nil
  cases next with
  | blank line _ blank =>
      exact scan.passes_block (Node.isBranch_spanning _ _ _ _) (no_fence_of_blank blank) noneMore
  | closedCode line inside _ closing notBlank fence opens open_inside closes =>
      have closed :=
        FenceScan.closes _ _ ([line] ++ inside) closing after regions
          ((closed_by_iff opens).1 closes) scan
      have isCode : (codeBlock line fence inside (some closing)).isCode = true :=
        Node.isBranch_spanning _ _ _ _
      rw [if_pos isCode, List.append_assoc, List.singleton_append, List.cons_append]
      exact .opens _ _ line _ _ (opens_of_fence opens)
        (closed.holds_all (not_closes_of_open opens open_inside))
  | openCode line inside notBlank fence opens open_inside lenient =>
      have unclosed := FenceScan.unclosed fence.char fence.marker.length ([line] ++ inside) lenient
      have isCode : (codeBlock line fence inside none).isCode = true :=
        Node.isBranch_spanning _ _ _ _
      cases scan with
      | finished =>
          rw [if_pos isCode]
          exact .opens _ _ line _ _ (opens_of_fence opens)
            (unclosed.holds_all (not_closes_of_open opens open_inside))
  | header line _ notBlank notFence mark opens =>
      exact scan.passes_block (Node.isBranch_spanning _ _ _ _) notFence noneMore
  | rule line _ notBlank notFence notHeader isRule =>
      exact scan.passes_block (Node.isBranch_spanning _ _ _ _) notFence noneMore
  | quote line more _ notBlank notFence notHeader notRule opens goes_on stops =>
      exact scan.passes_block (Node.isBranch_spanning _ _ _ _) notFence
        fun next member => no_fence_of_quote (goes_on next member)
  | list line more _ notBlank notFence notHeader notRule notQuote opens goes_on stops =>
      exact scan.passes_block (Node.isBranch_spanning _ _ _ _) notFence
        fun next member => no_fence_of_continues (goes_on next member)
  | paragraph line more _ notBlank notFence notHeader notRule notQuote notItem goes_on stops =>
      exact scan.passes_block (Node.isBranch_spanning _ _ _ _) notFence
        fun next member => no_fence_of_starts (goes_on next member)

end Scan

/-! ## What the blocks of code cover -/

section Covers

variable {strict : Bool} {offset : Nat} {taken after lines region : List Line} {block node : Node}
  {nodes : List Node}

/-- That a node spans a region of lines and nothing else, where the lines start at an offset. -/
def Covers (offset : Nat) (lines region : List Line) (node : Node) : Prop :=
  ∃ before after, lines = before ++ region ++ after ∧
    node.span = Span.ofLength (offset + (wholeText before).length) (wholeText region).length

theorem Covers.behind (taken : List Line)
    (covers : Covers (offset + (wholeText taken).length) after region node) :
    Covers offset (taken ++ after) region node := by
  obtain ⟨before, rest, rfl, span⟩ := covers
  refine ⟨taken ++ before, rest, by simp only [List.append_assoc], ?_⟩
  rw [span, Line.whole_text_append, List.length_append, Nat.add_assoc]

theorem span_of_next (next : NextBlock strict taken after block) (follow : Follow offset taken) :
    block.span = Span.ofLength offset (wholeText taken).length := by
  have tile := next_tile next follow
  have spelt : block.spelling = wholeText taken := by
    rw [← tile.spelt, Node.spellingAll, Node.spellingAll, List.append_nil]
  rw [← spelt]
  exact Node.span_of_stands_at tile.stand.1

theorem next_covers (next : NextBlock strict taken after block) (follow : Follow offset taken) :
    Covers offset (taken ++ after) taken block :=
  ⟨[], after, rfl, span_of_next next follow⟩

theorem blocks_scan (read : blocks strict lines = .ok nodes) :
    codeBlocks nodes = nodes.filter isCode ∧ ∃ regions, FenceScan strict .outside lines regions ∧
      ∀ offset, Follow offset lines →
        List.Forall₂ (Covers offset lines) regions (nodes.filter isCode) := by
  refine blocks_induction (motive := fun lines nodes => codeBlocks nodes = nodes.filter isCode ∧
    ∃ regions, FenceScan strict .outside lines regions ∧
      ∀ offset, Follow offset lines →
        List.Forall₂ (Covers offset lines) regions (nodes.filter isCode)) ?finish ?step read
  case finish => exact ⟨rfl, [], .finished, fun _ _ => .nil⟩
  case step =>
    rintro taken after block more next ⟨atTop, regions, scan, covered⟩
    have whole : codeBlocks (block :: more) = codeBlocks [block] ++ codeBlocks more :=
      code_blocks_append [block] more
    refine ⟨?_, _, next_scan next scan, ?_⟩
    · rw [whole, code_blocks_of_next next, atTop, ← List.filter_append]
      rfl
    · intro offset follow
      obtain ⟨front, back⟩ := follow_append.1 follow
      have later := (covered _ back).imp fun _ _ covers => Covers.behind taken covers
      rw [List.filter_cons]
      split
      · exact .cons (next_covers next front) later
      · exact later

theorem Covers.lies_iff (covers : Covers offset lines region node) (follow : Follow offset lines)
    {line : Line} (member : line ∈ lines) :
    (node.span.start ≤ line.start ∧ line.stop ≤ node.span.stop) ↔ line ∈ region := by
  obtain ⟨before, after, rfl, span⟩ := covers
  obtain ⟨front, back⟩ := follow_append.1 follow
  obtain ⟨first, middle⟩ := follow_append.1 front
  rw [Line.whole_text_append, List.length_append] at back
  have start : node.span.start = offset + (wholeText before).length := by rw [span]; rfl
  have stop : node.span.stop = offset + (wholeText before).length + (wholeText region).length := by
    rw [span]; rfl
  rw [start, stop]
  constructor
  · intro lies
    rw [List.mem_append, List.mem_append] at member
    rcases member with (member | member) | member
    · have bounds := bounds_of_follow first line member
      omega
    · exact member
    · have bounds := bounds_of_follow back line member
      omega
  · intro member
    have bounds := bounds_of_follow middle line member
    exact ⟨bounds.1, bounds.2.2⟩

theorem exists_iff_of_related {Left Right : Type} {Related : Left → Right → Prop} {left : List Left}
    {right : List Right} {onLeft : Left → Prop} {onRight : Right → Prop}
    (related : List.Forall₂ Related left right)
    (same : ∀ one other, Related one other → (onRight other ↔ onLeft one)) :
    (∃ other ∈ right, onRight other) ↔ ∃ one ∈ left, onLeft one := by
  induction related with
  | nil => simp
  | cons head _ induction =>
      rw [List.exists_mem_cons_iff, List.exists_mem_cons_iff, same _ _ head, induction]

end Covers

theorem select_code_of_read {strict : Bool} {lines : List Line} {nodes : List Node}
    (read : blocks strict lines = .ok nodes) :
    (Node.spanning .document 0 nodes).select isCode = nodes.filter isCode := by
  have whole := code_blocks_spanning .document 0 nodes []
  rw [codeBlocks, List.flatMap_singleton, (blocks_scan read).1] at whole
  simpa [BranchKind.isCodeBlock, codeBlocks] using whole

/-- The blocks of code of a text are decided by its lines alone, whatever blocks surround them. The
one scan of its lines for fences finds their regions: every block of code stands at the top, they
cover the regions one each and in their order, and a line lies in a block of code just if it lies in
a region. -/
theorem code_blocks_are_fenced_regions {strict : Bool} {text : Text} {tree : Node}
    (read : parse strict text = .ok tree) :
    ∃ regions, FenceScan strict .outside text.lines regions ∧
      (∀ others, FenceScan strict .outside text.lines others → others = regions) ∧
      tree.select isCode = tree.children.filter isCode ∧
      List.Forall₂ (Covers 0 text.lines) regions (tree.children.filter isCode) ∧
      ∀ line ∈ text.lines,
        (∃ node ∈ tree.select isCode, node.span.start ≤ line.start ∧ line.stop ≤ node.span.stop) ↔
          ∃ region ∈ regions, line ∈ region := by
  obtain ⟨nodes, readNodes, rfl⟩ := parse_eq_ok.1 read
  obtain ⟨-, regions, scan, covered⟩ := blocks_scan readNodes
  have follow := Line.follow_lines text
  have related := covered 0 follow
  rw [Node.children_spanning, select_code_of_read readNodes]
  refine ⟨regions, scan, fun others also => also.unique scan, rfl, related, fun line member => ?_⟩
  exact exists_iff_of_related related fun region node covers => covers.lies_iff follow member

/-- An indented line goes on with a list unless it is a fence. The fence of the third line is of
another character, so the one block of code holds the lines from the second to the fourth. -/
theorem fence_ends_a_list :
    ∃ tree region, parse true "- a\n ~~~ x\n  ```\n ~~~~ \nb".toList = .ok tree ∧
      FenceScan true .outside (Text.lines "- a\n ~~~ x\n  ```\n ~~~~ \nb".toList) [region] ∧
      region.map Line.number = [2, 3, 4] ∧ tree.select isCode = tree.children.filter isCode ∧
      List.Forall₂ (Covers 0 (Text.lines "- a\n ~~~ x\n  ```\n ~~~~ \nb".toList)) [region]
        (tree.children.filter isCode) := by
  have readText : ∃ tree, parse true "- a\n ~~~ x\n  ```\n ~~~~ \nb".toList =
      .ok tree := ⟨_, by cbv⟩
  have lines : Text.lines "- a\n ~~~ x\n  ```\n ~~~~ \nb".toList =
      [⟨1, 0, "- a".toList, ['\n']⟩, ⟨2, 4, " ~~~ x".toList, ['\n']⟩,
        ⟨3, 11, "  ```".toList, ['\n']⟩, ⟨4, 17, " ~~~~ ".toList, ['\n']⟩,
        ⟨5, 24, ['b'], []⟩] := by cbv
  have opened : fence? " ~~~ x".toList = some ⟨[' '], ['~', '~', '~'], [' ', 'x']⟩ := by cbv
  have scan : ∃ region, FenceScan true .outside
      (Text.lines "- a\n ~~~ x\n  ```\n ~~~~ \nb".toList) [region] ∧
      region.map Line.number = [2, 3, 4] := by
    have stays : (Fence.mk [' '] ['~', '~', '~'] [' ', 'x']).closedBy "  ```".toList =
        false := by cbv
    rw [lines]
    refine ⟨[⟨2, 4, " ~~~ x".toList, ['\n']⟩, ⟨3, 11, "  ```".toList, ['\n']⟩,
      ⟨4, 17, " ~~~~ ".toList, ['\n']⟩], ?_, rfl⟩
    apply FenceScan.passes _ _ _ (not_opens_of_none (by cbv))
    apply FenceScan.opens _ _ _ _ _ (opens_of_fence opened)
    apply FenceScan.holds _ _ _ _ _ _ ((closed_by_iff opened).not.1 (stays ▸ Bool.false_ne_true))
    apply FenceScan.closes _ _ [⟨2, 4, _, _⟩, ⟨3, 11, _, _⟩]
      _ _ _ ((closed_by_iff opened).1 (by cbv))
    exact .passes _ _ _ (not_opens_of_none (by cbv)) .finished
  obtain ⟨region, scan, numbers⟩ := scan
  obtain ⟨tree, read⟩ := readText
  obtain ⟨regions, -, only, atTop, covered, -⟩ := code_blocks_are_fenced_regions read
  rw [← only _ scan] at covered
  exact ⟨tree, region, read, scan, numbers, atTop, covered⟩

end Markdown

end ProseLinter
