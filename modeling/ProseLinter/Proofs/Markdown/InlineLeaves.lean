import ProseLinter.Proofs.Markdown.Prose
import ProseLinter.Proofs.Text.EditedLines
import ProseLinter.Proofs.Tree.Reading
import ProseLinter.Proofs.Tree.Verbatim

/-!
# Where inline text is read

Prose, and code in a line, come of the reader of inline text and nowhere else, and that reader is
given the end of the content of a line: what stands behind its indentation and its mark. A block of
code holds neither. So code in a line holds no terminator, and it ends in a tick, which is what
closes it.
-/

namespace ProseLinter

/-- Whether a node is a leaf of inline text: prose, or code in a line. -/
def Node.isInline : Node → Bool
  | leaf .prose _ _ => true
  | leaf .code _ _ => true
  | _ => false

/-- Whether a node is a leaf of inline text or a block of code. -/
def Node.isContent (node : Node) : Bool := node.isInline || node.isCode

theorem Node.isLeaf_of_isInline {node : Node} (wanted : node.isInline = true) :
    node.isLeaf = true := by
  cases node with
  | leaf => rfl
  | branch => cases wanted

namespace Markdown

open Node (isCode isInline)
open Line (Follow wholeText follow_append)

/-- That whatever there is of inline text in some trees, at any depth, is read from the ends of the
contents of lines. -/
def Drawn (lines : List Line) (nodes : List Node) : Prop :=
  ∀ node ∈ nodes.flatMap Node.nodes, node.isInline = true →
    ∃ line ∈ lines, ∃ start text, text <:+ line.content ∧
      node ∈ (inline start text).flatMap Node.nodes

section Drawn

variable {strict : Bool} {taken after lines more : List Line} {line : Line} {block : Node}
  {nodes rest : List Node}

theorem drawn_nil : Drawn lines [] := fun _ member => absurd member List.not_mem_nil

theorem drawn_append {first second : List Node} :
    Drawn lines (first ++ second) ↔ Drawn lines first ∧ Drawn lines second := by
  rw [Drawn, List.flatMap_append, List.forall_mem_append]
  rfl

theorem Drawn.mono (drawn : Drawn lines nodes) (among : lines ⊆ more) : Drawn more nodes := by
  intro node member wanted
  obtain ⟨line, known, read⟩ := drawn node member wanted
  exact ⟨line, among known, read⟩

theorem drawn_leaf {kind : LeafKind} (other : (Node.leaf kind 0 []).isInline = false) (start : Nat)
    (raw : Text) (drawn : Drawn lines rest) : Drawn lines (.leaf kind start raw :: rest) := by
  intro node member wanted
  rw [List.flatMap_cons, Node.nodes_leaf, List.singleton_append, List.mem_cons] at member
  rcases member with same | later
  · subst same
    cases kind <;> simp [isInline] at wanted other
  · exact drawn node later wanted

theorem drawn_optional_leaf {kind : LeafKind} (other : (Node.leaf kind 0 []).isInline = false)
    (start : Nat) (raw : Text) :
    Drawn lines (if raw.isEmpty then [] else [.leaf kind start raw]) := by
  split
  · exact drawn_nil
  · exact drawn_leaf other start raw drawn_nil

theorem drawn_spanning (kind : BranchKind) (start : Nat) (drawn : Drawn lines nodes)
    (later : Drawn lines rest) :
    Drawn lines (Node.spanning kind start nodes :: rest) := by
  intro node member wanted
  rw [List.flatMap_cons, Node.nodes_spanning, List.cons_append, List.mem_cons,
    List.mem_append] at member
  rcases member with same | below | behind
  · subst same
    cases nodes <;> cases wanted
  · exact drawn node below wanted
  · exact later node behind wanted

theorem drawn_inline {text : Text} (start : Nat) (ends : text <:+ line.content) :
    Drawn [line] (inline start text) :=
  fun _ member _ => ⟨line, List.mem_singleton_self line, start, text, ends, member⟩

theorem drawn_ending (line : Line) : Drawn lines line.endingLeaves :=
  drawn_optional_leaf rfl line.contentEnd line.ending

theorem drawn_textLine (line : Line) : Drawn [line] (textLine line) :=
  drawn_append.2
    ⟨drawn_append.2 ⟨drawn_optional_leaf rfl line.start _,
      drawn_inline _ (List.dropWhile_suffix _)⟩,
    drawn_ending line⟩

theorem drawn_fenceLine (line : Line) : Drawn lines (fenceLine line) :=
  drawn_leaf rfl _ _ (drawn_ending line)

theorem drawn_codeLine (line : Line) : Drawn lines (codeLine line) :=
  drawn_append.2 ⟨drawn_optional_leaf rfl line.start line.content, drawn_ending line⟩

theorem drawn_quoteLine (line : Line) : Drawn [line] (quoteLine line) := by
  unfold quoteLine
  split
  next mark text quoted =>
    have ends : text <:+ line.content := ⟨mark, (quote_append quoted).1⟩
    exact drawn_leaf rfl _ _ (drawn_append.2 ⟨drawn_inline _ ends, drawn_ending line⟩)
  next => exact drawn_nil

theorem drawn_itemLine {mark : ItemMark} (opens : item? line.content = some mark) :
    Drawn [line] (itemLine line mark) := by
  have whole := (item_append opens).1
  rw [← List.append_assoc, ← List.append_assoc] at whole
  have ends : mark.text <:+ line.content := ⟨_, whole⟩
  exact drawn_append.2 ⟨drawn_append.2 ⟨drawn_optional_leaf rfl line.start mark.indent,
    drawn_leaf rfl _ _ (drawn_inline _ ends)⟩, drawn_ending line⟩

theorem drawn_flatMap {nodesOf : Line → List Node} (each : ∀ line, Drawn [line] (nodesOf line))
    (lines : List Line) :
    Drawn lines (lines.flatMap nodesOf) := by
  induction lines with
  | nil => exact drawn_nil
  | cons line rest induction =>
      rw [List.flatMap_cons]
      exact drawn_append.2
        ⟨(each line).mono (by simp), induction.mono (List.subset_cons_self line rest)⟩

theorem drawn_gatherItems (lines : List Line) :
    Drawn lines (gatherItems lines).1 ∧ Drawn lines (gatherItems lines).2 := by
  induction lines with
  | nil => exact ⟨drawn_nil, drawn_nil⟩
  | cons line rest induction =>
      have among := List.subset_cons_self line rest
      have pending := induction.1.mono among
      have items := induction.2.mono among
      rw [gatherItems]
      cases opens : item? line.content with
      | none => exact ⟨drawn_append.2 ⟨(drawn_textLine line).mono (by simp), pending⟩, items⟩
      | some mark =>
          have item := drawn_append.2 ⟨(drawn_itemLine opens).mono (by simp), pending⟩
          exact ⟨drawn_nil, drawn_spanning _ _ item items⟩

theorem drawn_codeBlock (opening : Line) (fence : Fence) (inside : List Line)
    (closing : Option Line) :
    Drawn lines [codeBlock opening fence inside closing] := by
  have last : Drawn lines (closing.elim [] fenceLine) := by
    cases closing with
    | none => exact drawn_nil
    | some line => exact drawn_fenceLine line
  have middle : Drawn lines (inside.flatMap codeLine) := by
    intro node member
    rw [List.flatMap_assoc] at member
    obtain ⟨line, -, stands⟩ := List.mem_flatMap.1 member
    exact drawn_codeLine line node stands
  exact drawn_spanning
    _ _ (drawn_append.2 ⟨drawn_append.2 ⟨drawn_fenceLine opening, middle⟩, last⟩) drawn_nil

theorem drawn_of_next (next : NextBlock strict taken after block) :
    Drawn (if block.isCode then [] else taken) [block] := by
  have other {kind : BranchKind} {start : Nat} {below : List Node}
      (no_code : kind.isCodeBlock = false) (drawn : Drawn taken below) :
      Drawn (if (Node.spanning kind start below).isCode then []
        else taken) [Node.spanning kind start below] := by
    rw [isCode, Node.isBranch_spanning, no_code, if_neg Bool.false_ne_true]
    exact drawn_spanning kind start drawn drawn_nil
  cases next with
  | blank line =>
      exact other rfl (drawn_append.2
        ⟨drawn_optional_leaf rfl line.start line.content, drawn_ending line⟩)
  | closedCode line inside _ closing notBlank fence =>
      exact drawn_codeBlock line fence inside (some closing)
  | openCode line inside notBlank fence => exact drawn_codeBlock line fence inside none
  | header line _ notBlank notFence mark opens =>
      have ends : mark.title <:+ line.content := ⟨_, header_append opens⟩
      exact other rfl (drawn_leaf rfl _ _ (drawn_append.2 ⟨drawn_inline _ ends, drawn_ending line⟩))
  | rule line => exact other rfl (drawn_fenceLine line)
  | quote line more => exact other rfl (drawn_flatMap drawn_quoteLine (line :: more))
  | list line more => exact other rfl (drawn_gatherItems (line :: more)).2
  | paragraph line more => exact other rfl (drawn_flatMap drawn_textLine (line :: more))

theorem drawn_of_blocks (read : blocks strict lines = .ok nodes) : Drawn lines nodes := by
  refine blocks_induction (motive := Drawn) drawn_nil ?step read
  intro taken after block more next drawn
  have block_drawn : Drawn taken [block] := by
    refine (drawn_of_next next).mono ?_
    split
    · exact List.nil_subset taken
    · exact List.Subset.refl taken
  exact drawn_append.2 ⟨block_drawn.mono (List.subset_append_left taken after),
    drawn.mono (List.subset_append_right taken after)⟩

end Drawn

/-! ## Code in a line -/

section Code

variable {strict : Bool} {text raw : Text} {lines : List Line} {nodes : List Node} {node : Node}

/-- That a node, if it is code in a line, is taken from a text and ends in a tick. -/
def Ticked (text : Text) (node : Node) : Prop :=
  ∀ start raw, node = .leaf .code start raw → raw ⊆ text ∧ raw.getLast? = some tick

theorem Ticked.mono {more : Text} (ticked : Ticked text node) (among : text ⊆ more) :
    Ticked more node := by
  intro start raw same
  obtain ⟨within, last⟩ := ticked start raw same
  exact ⟨List.Subset.trans within among, last⟩

theorem ticked_leaf {kind : LeafKind} (other : kind ≠ .code) (start : Nat) (raw : Text) :
    Ticked text (.leaf kind start raw) := by
  rintro _ _ ⟨⟩
  exact absurd rfl other

theorem ticked_of_complete (complete : (InlineMark.code raw).Complete) (among : raw ⊆ text)
    (start : Nat) :
    Ticked text (.leaf .code start raw) := by
  cases complete with
  | code count body some_ticks some_body =>
      rintro _ _ ⟨⟩
      obtain ⟨fewer, rfl⟩ := Nat.exists_eq_add_one_of_ne_zero (Nat.ne_of_gt some_ticks)
      refine ⟨among, ?_⟩
      rw [List.getLast?_append, List.replicate_succ', List.getLast?_concat]
      rfl

theorem ticked_labelled {kind : BranchKind} {start : Nat} {opening label : Text}
    {labelNodes : List Node} {destination : Destination}
    (ticked : ∀ node ∈ labelNodes.flatMap Node.nodes, Ticked text node) :
    ∀ node ∈ (labelledNode kind start opening label labelNodes destination).nodes,
      Ticked text node := by
  rw [labelledNode, Node.nodes_spanning, List.forall_mem_cons, List.flatMap_append,
    List.flatMap_cons, List.forall_mem_append, List.forall_mem_append]
  refine ⟨?_, ⟨?_, ticked⟩, ?_⟩
  · rintro _ _ same
    cases labelNodes <;> cases same
  · rw [Node.nodes_leaf]
    exact List.forall_mem_singleton.2 (ticked_leaf (by decide) _ _)
  · rw [List.flatMap_singleton, Node.nodes_leaf]
    exact List.forall_mem_singleton.2 (ticked_leaf (by decide) _ _)

theorem ticked_prepend {start : Nat} {c : Char}
    (ticked : ∀ node ∈ nodes.flatMap Node.nodes, Ticked text node) :
    ∀ node ∈ (prependProse start c nodes).flatMap Node.nodes, Ticked text node := by
  unfold prependProse
  split
  next start raw rest =>
    rw [List.flatMap_cons, List.forall_mem_append] at ticked ⊢
    rw [Node.nodes_leaf]
    exact ⟨List.forall_mem_singleton.2 (ticked_leaf (by decide) _ _), ticked.2⟩
  next =>
    rw [List.flatMap_cons, List.forall_mem_append, Node.nodes_leaf]
    exact ⟨List.forall_mem_singleton.2 (ticked_leaf (by decide) _ _), ticked⟩

theorem ticked_inline (start : Nat) (text : Text) :
    ∀ node ∈ (inline start text).flatMap Node.nodes, Ticked text node := by
  induction start, text using inline.induct with
  | case1 start =>
      rw [inline_nil]
      exact fun node member => absurd member List.not_mem_nil
  | case2 start c rest raw after found induction =>
      have whole := (mark?_append found).1
      have front : raw ⊆ c :: rest := whole ▸ List.subset_append_left raw after
      have back : after ⊆ c :: rest := whole ▸ List.subset_append_right raw after
      rw [inline_code found, List.flatMap_cons, Node.nodes_leaf, List.forall_mem_append,
        List.forall_mem_singleton]
      exact ⟨ticked_of_complete (complete_of_mark found) front start,
        fun node member => (induction node member).mono back⟩
  | case3 start c rest alt destination after found induction =>
      have whole := (mark?_append found).1
      have back : after ⊆ c :: rest := whole ▸ List.subset_append_right _ after
      rw [inline_image found, List.flatMap_cons, List.forall_mem_append]
      refine ⟨ticked_labelled ?_, fun node member => (induction node member).mono back⟩
      exact Node.nodes_optional_leaf (ticked_leaf (by decide) _ _)
  | case4 start c rest label destination after found labelInduction induction =>
      have whole := (mark?_append found).1
      have back : after ⊆ c :: rest := whole ▸ List.subset_append_right _ after
      have inside : label ⊆ c :: rest := by
        have front : (InlineMark.link label destination).raw ⊆ c :: rest :=
          whole ▸ List.subset_append_left _ after
        intro d member
        exact front (by simp [InlineMark.raw, member])
      rw [inline_link found, List.flatMap_cons, List.forall_mem_append]
      exact ⟨ticked_labelled fun node member => (labelInduction node member).mono inside,
        fun node member => (induction node member).mono back⟩
  | case5 start c rest found induction =>
      rw [inline_prose found]
      exact ticked_prepend fun node member =>
        (induction node member).mono (List.subset_cons_self c rest)

theorem code_leaf_of_parse {tree : Node} (read : parse strict text = .ok tree) {start : Nat}
    (member : .leaf .code start raw ∈ tree.nodes) :
    Line.Unbroken raw ∧ raw.getLast? = some tick := by
  obtain ⟨nodes, read_nodes, root⟩ := parse_eq_ok.1 read
  subst root
  rw [Node.nodes_spanning, List.mem_cons] at member
  rcases member with same | below
  · cases nodes <;> cases same
  · obtain ⟨line, known, offset, content, ends, inside⟩ := drawn_of_blocks read_nodes _ below rfl
    obtain ⟨within, last⟩ := ticked_inline offset content _ inside start raw rfl
    have unbroken := Line.unbroken_of_lines text line known
    exact ⟨fun c there => unbroken c (ends.subset (within there)), last⟩

end Code

/-! ## Prose and code in their order -/

section InTurn

variable {strict : Bool} {offset : Nat} {taken after lines : List Line} {block : Node}
  {nodes : List Node} {text : Text} {tree : Node}

/-- Of a block of code nothing counts but the block, and of any other block its leaves of inline
text. -/
theorem content_of_next (next : NextBlock strict taken after block) :
    block.select Node.isContent = if block.isCode then [block] else block.select isInline := by
  have code : block.select isCode = [block].filter isCode := by
    rw [← code_blocks_of_next next, Node.codeBlocks, List.flatMap_singleton]
  have drawn := drawn_of_next next
  rw [Drawn, List.flatMap_singleton] at drawn
  cases kind : block.isCode with
  | true =>
      have no_inline : ∀ node ∈ block.nodes, node.isContent = node.isCode := by
        intro node member
        rw [Node.isContent, Bool.or_eq_right_iff_imp]
        intro wanted
        rw [kind, if_pos rfl] at drawn
        obtain ⟨line, known, -⟩ := drawn node member wanted
        cases known
      rw [if_pos rfl, Node.select, List.filter_congr no_inline]
      simpa [kind, Node.select] using code
  | false =>
      have no_code : ∀ node ∈ block.nodes, node.isContent = node.isInline := by
        have absent : block.select isCode = [] := by simpa [kind, Node.select] using code
        rw [Node.select, List.filter_eq_nil_iff] at absent
        intro node member
        rw [Node.isContent, Bool.or_eq_left_iff_imp]
        exact fun found => absurd found (absent node member)
      rw [if_neg Bool.false_ne_true, Node.select, List.filter_congr no_code, Node.select]

theorem content_of_next_in_turn (next : NextBlock strict taken after block)
    (follow : Follow offset taken) :
    (block.select Node.isContent).Pairwise
      (fun earlier later => earlier.span.stop ≤ later.span.start) ∧
      ∀ node ∈ block.select Node.isContent,
        offset ≤ node.span.start ∧ node.span.stop ≤ offset + (wholeText taken).length := by
  have tile := next_tile next follow
  have spelt : block.spelling = wholeText taken := by
    rw [← tile.spelt, Node.spellingAll, Node.spellingAll, List.append_nil]
  rw [content_of_next next]
  split
  · refine ⟨List.pairwise_singleton _ _, List.forall_mem_singleton.2 ⟨?_, ?_⟩⟩
    · exact Nat.le_of_eq (Node.start_of_stands_at tile.stand.1).symm
    · rw [Node.stop_of_stands_at tile.stand.1, spelt]
  · have leaves := Node.tile_leaves block tile.stand.1
    have among : (block.select isInline).Sublist block.leaves :=
      Node.select_sublist_leaves (fun _ => Node.isLeaf_of_isInline) block
    refine ⟨(Node.in_turn_of_stand_at leaves.stand).sublist among, fun node member => ⟨?_, ?_⟩⟩
    · exact Node.start_le_of_stand_at leaves.stand node (among.mem member)
    · rw [← spelt, ← leaves.spelt]
      exact Node.stop_le_of_stand_at leaves.stand node (among.mem member)

theorem content_in_turn (read : parse strict text = .ok tree) :
    (tree.select Node.isContent).Pairwise fun earlier later => earlier.span.stop ≤
      later.span.start := by
  obtain ⟨nodes, read_nodes, root⟩ := parse_eq_ok.1 read
  have run := blocks_induction (motive := fun lines nodes => ∀ offset, Follow offset lines →
    (nodes.flatMap (Node.select Node.isContent)).Pairwise
      (fun earlier later => earlier.span.stop ≤ later.span.start) ∧
      ∀ node ∈ nodes.flatMap (Node.select Node.isContent), offset ≤ node.span.start) ?finish
        ?step read_nodes
  · have below : tree.select Node.isContent = nodes.flatMap (Node.select Node.isContent) := by
      subst root
      cases nodes <;> exact Node.select_branch Node.isContent .document _ _
    rw [below]
    exact (run 0 (Line.follow_lines text)).1
  case finish => exact fun _ _ => ⟨.nil, fun node member => absurd member List.not_mem_nil⟩
  case step =>
    intro taken after block more next induction offset follow
    obtain ⟨front, back⟩ := follow_append.1 follow
    obtain ⟨own, within⟩ := content_of_next_in_turn next front
    obtain ⟨others, behind⟩ := induction _ back
    rw [List.flatMap_cons, List.pairwise_append, List.forall_mem_append]
    refine ⟨⟨own, others, fun first known second later => ?_⟩,
      fun node member => (within node member).1, ?_⟩
    · exact Nat.le_trans (within first known).2 (behind second later)
    · exact fun node member => Nat.le_trans (Nat.le_add_right _ _) (behind node member)

end InTurn

end Markdown

end ProseLinter
