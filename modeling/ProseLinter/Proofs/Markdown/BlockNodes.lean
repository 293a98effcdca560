import ProseLinter.Proofs.Markdown.Inline
import ProseLinter.Proofs.Markdown.NextBlock
import ProseLinter.Proofs.Tree.Shifting

/-!
# Blocks among the nodes

The branches of a tree are its blocks, and the links and images in inline text. Only a list has
blocks below it, which are its items. So what is asked of the blocks of a text is asked of those at
the top and of the items of the lists among them.
-/

namespace ProseLinter

/-- Whether a branch is a block, and not a link or an image in inline text. -/
def BranchKind.isBlock : BranchKind → Bool
  | link _ | image _ => false
  | _ => true

def BranchKind.isList : BranchKind → Bool
  | list _ => true
  | _ => false

def BranchKind.isItem : BranchKind → Bool
  | listItem _ _ => true
  | _ => false

namespace Node

def isBlock (node : Node) : Bool := node.isBranch BranchKind.isBlock

def isList (node : Node) : Bool := node.isBranch BranchKind.isList

def isItem (node : Node) : Bool := node.isBranch BranchKind.isItem

def blocksIn (nodes : List Node) : List Node := nodes.flatMap (select isBlock)

variable {p q : BranchKind → Bool} {node : Node}

theorem isBranch_mono (weaker : ∀ kind, p kind = true → q kind = true)
    (holds : node.isBranch p = true) :
    node.isBranch q = true := by
  cases node with
  | leaf => cases holds
  | branch kind span below => exact weaker kind holds

theorem not_isBranch_of_isItem (never : ∀ ordered indent, p (.listItem ordered indent) = false)
    (item : node.isItem = true) : node.isBranch p = false := by
  cases node with
  | leaf => rfl
  | branch kind span below =>
      cases kind with
      | listItem ordered indent => exact never ordered indent
      | _ => cases item

theorem select_of_blocks (block : ∀ kind, p kind = true → kind.isBlock = true) (tree : Node) :
    tree.select (isBranch p) = (tree.select isBlock).filter (isBranch p) := by
  rw [select, select, List.filter_filter]
  apply List.filter_congr
  intro node _
  cases wanted : node.isBranch p with
  | false => rfl
  | true => rw [isBlock, isBranch_mono block wanted, Bool.and_true]

end Node

namespace Markdown

open Node (blocksIn isBlock isList isItem)

/-! ## No line is read as a block -/

section Lines

@[simp]
theorem blocks_in_nil : blocksIn [] = [] := rfl

@[simp]
theorem blocks_in_append (first second : List Node) :
    blocksIn (first ++ second) = blocksIn first ++ blocksIn second :=
  List.flatMap_append

@[simp]
theorem blocks_in_leaf (kind : LeafKind) (start : Nat) (raw : Text) (rest : List Node) :
    blocksIn (.leaf kind start raw :: rest) = blocksIn rest := by
  rw [blocksIn, List.flatMap_cons, Node.select_leaf]
  rfl

@[simp]
theorem blocks_in_spanning (kind : BranchKind) (start : Nat) (below rest : List Node) :
    blocksIn (Node.spanning kind start below :: rest) =
      (if kind.isBlock then [Node.spanning kind start below] else []) ++ blocksIn below ++
        blocksIn rest := by
  cases below <;> exact congrArg (· ++ blocksIn rest) (Node.select_branch isBlock kind _ _)

theorem blocks_in_optional_leaf (kind : LeafKind) (start : Nat) (raw : Text) :
    blocksIn (if raw.isEmpty then [] else [.leaf kind start raw]) = [] := by
  split <;> simp

@[simp]
theorem blocks_in_ending (line : Line) : blocksIn line.endingLeaves = [] :=
  blocks_in_optional_leaf .lineBreak line.contentEnd line.ending

@[simp]
theorem blocks_in_content (line : Line) (kind : LeafKind) :
    blocksIn (line.contentLeaves kind) = [] :=
  blocks_in_optional_leaf kind line.start line.content

@[simp]
theorem blocks_in_indent (line : Line) : blocksIn line.indentLeaves = [] :=
  blocks_in_optional_leaf .whiteSpace line.start _

theorem blocks_in_prepend (start : Nat) (c : Char) (nodes : List Node) :
    blocksIn (prependProse start c nodes) = blocksIn nodes := by
  unfold prependProse
  split <;> simp

theorem blocks_in_labelled {kind : BranchKind} (noBlock : kind.isBlock = false) (start : Nat)
    (opening label : Text) (labelNodes rest : List Node) (destination : Destination) :
    blocksIn (labelledNode kind start opening label labelNodes destination :: rest) =
      blocksIn labelNodes ++ blocksIn rest := by
  simp [labelledNode, noBlock]

@[simp]
theorem blocks_in_inline (start : Nat) (text : Text) : blocksIn (inline start text) = [] := by
  induction start, text using inline.induct with
  | case1 start => rw [inline_nil, blocks_in_nil]
  | case2 start c rest raw after found induction =>
      rw [inline_code found, blocks_in_leaf, induction]
  | case3 start c rest alt destination after found induction =>
      rw [inline_image found, blocks_in_labelled rfl, blocks_in_optional_leaf, induction,
        List.append_nil]
  | case4 start c rest label destination after found labelInduction induction =>
      rw [inline_link found, blocks_in_labelled rfl, labelInduction, induction, List.append_nil]
  | case5 start c rest found induction => rw [inline_prose found, blocks_in_prepend, induction]

@[simp]
theorem blocks_in_textLine (line : Line) : blocksIn (textLine line) = [] := by
  simp [textLine]

@[simp]
theorem blocks_in_fenceLine (line : Line) : blocksIn (fenceLine line) = [] := by
  simp [fenceLine]

@[simp]
theorem blocks_in_codeLine (line : Line) : blocksIn (codeLine line) = [] := by
  simp [codeLine]

@[simp]
theorem blocks_in_quoteLine (line : Line) : blocksIn (quoteLine line) = [] := by
  unfold quoteLine
  split <;> simp

@[simp]
theorem blocks_in_itemLine (line : Line) (mark : ItemMark) :
    blocksIn (itemLine line mark) = [] := by
  rw [itemLine, blocks_in_append, blocks_in_append, blocks_in_optional_leaf, blocks_in_leaf,
    blocks_in_inline, blocks_in_ending]
  rfl

theorem blocks_in_flatMap {nodesOf : Line → List Node} (each : ∀ line, blocksIn (nodesOf line) = [])
    (lines : List Line) : blocksIn (lines.flatMap nodesOf) = [] := by
  induction lines with
  | nil => rfl
  | cons line rest induction =>
      rw [List.flatMap_cons, blocks_in_append, each, induction, List.append_nil]

theorem blocks_in_gatherItems (lines : List Line) :
    blocksIn (gatherItems lines).1 = [] ∧
      blocksIn (gatherItems lines).2 = (gatherItems lines).2 := by
  induction lines with
  | nil => exact ⟨rfl, rfl⟩
  | cons line rest induction =>
      rw [gatherItems]
      cases item? line.content with
      | none => simp [induction]
      | some mark => simp [induction, BranchKind.isBlock]

theorem isItem_of_gathered (lines : List Line) :
    ∀ item ∈ (gatherItems lines).2, item.isItem = true := by
  induction lines with
  | nil => exact nofun
  | cons line rest induction =>
      rw [gatherItems]
      cases item? line.content with
      | none => exact induction
      | some mark => exact List.forall_mem_cons.mpr ⟨Node.isBranch_spanning _ _ _ _, induction⟩

end Lines

/-! ## The blocks of a step, and of a text -/

section Steps

variable {strict : Bool} {taken after lines : List Line} {block : Node} {nodes : List Node}
  {p : BranchKind → Bool}

/-- The blocks that stand in a block: the items of a list, and none in any other. -/
def innerBlocks (block : Node) : List Node := if block.isList then block.children else []

/-- That a block is none of the items of a list, and holds no blocks but such items. -/
structure IsFlat (block : Node) : Prop where
  notItem : block.isItem = false
  blocks : block.select isBlock = block :: innerBlocks block
  items : ∀ inner ∈ innerBlocks block, inner.isItem = true

theorem flat_of_plain {kind : BranchKind} {start : Nat} {below : List Node}
    (isBlock : kind.isBlock = true) (notItem : kind.isItem = false) (notList : kind.isList = false)
    (plain : blocksIn below = []) :
    IsFlat (Node.spanning kind start below) := by
  have none_inside : innerBlocks (Node.spanning kind start below) = [] := by
    rw [innerBlocks, isList, Node.isBranch_spanning, notList]
    rfl
  have whole := blocks_in_spanning kind start below []
  rw [blocksIn, List.flatMap_singleton, plain, if_pos isBlock] at whole
  refine ⟨?_, ?_, ?_⟩
  · rw [isItem, Node.isBranch_spanning, notItem]
  · rw [whole, none_inside]
    rfl
  · rw [none_inside]
    exact nofun

/-- A step reads a block that holds no others, unless it is a list. -/
theorem next_is_flat (next : NextBlock strict taken after block) : IsFlat block := by
  cases next with
  | blank => exact flat_of_plain rfl rfl rfl (by simp)
  | closedCode => exact flat_of_plain rfl rfl rfl (by simp [blocks_in_flatMap])
  | openCode => exact flat_of_plain rfl rfl rfl (by simp [blocks_in_flatMap])
  | header => exact flat_of_plain rfl rfl rfl (by simp)
  | rule => exact flat_of_plain rfl rfl rfl (by simp)
  | quote => exact flat_of_plain rfl rfl rfl (blocks_in_flatMap blocks_in_quoteLine _)
  | list line more =>
      -- The only blocks below are the items gathered from the lines, and they are all the children
      -- there are.
      have inside : innerBlocks (listBlock (line :: more)) = (gatherItems (line :: more)).2 := by
        rw [innerBlocks, listBlock, isList, Node.isBranch_spanning, Node.children_spanning]
        rfl
      have whole :=
        blocks_in_spanning (.list (firstOrdered (gatherItems (line :: more)).2)) line.start
        (gatherItems (line :: more)).2 []
      rw [blocksIn, List.flatMap_singleton, (blocks_in_gatherItems _).2, blocks_in_nil,
        List.append_nil] at whole
      refine ⟨Node.isBranch_spanning _ _ _ _, ?_, ?_⟩
      · rw [inside]
        exact whole
      · rw [inside]
        exact isItem_of_gathered _
  | paragraph => exact flat_of_plain rfl rfl rfl (blocks_in_flatMap blocks_in_textLine _)

theorem IsFlat.none_inside (flat : IsFlat block)
    (no_item : ∀ ordered indent, p (.listItem ordered indent) = false) :
    (innerBlocks block).filter (Node.isBranch p) = [] := by
  rw [List.filter_eq_nil_iff]
  intro inner among
  simp [Node.not_isBranch_of_isItem no_item (flat.items inner among)]

theorem step_of_block (read : blocks strict lines = .ok nodes) :
    ∀ block ∈ nodes, ∃ before taken after,
    lines = before ++ taken ++ after ∧ NextBlock strict taken after block := by
  refine blocks_induction (motive := fun lines nodes => ∀ block ∈ nodes, ∃ before taken after,
    lines = before ++ taken ++ after ∧ NextBlock strict taken after block) ?finish ?step read
  case finish => exact nofun
  case step =>
    intro taken after block more next induction
    refine List.forall_mem_cons.mpr ⟨⟨[], taken, after, rfl, next⟩, fun other member => ?_⟩
    obtain ⟨before, own, rest, split, later⟩ := induction other member
    exact ⟨taken ++ before, own, rest, by rw [split]; simp only [List.append_assoc], later⟩

theorem blocks_are_flat (read : blocks strict lines = .ok nodes) :
    ∀ block ∈ nodes, IsFlat block := by
  intro block member
  obtain ⟨before, taken, after, split, next⟩ := step_of_block read block member
  exact next_is_flat next

theorem select_blocks (flat : ∀ block ∈ nodes, IsFlat block) :
    (Node.spanning .document 0 nodes).select isBlock =
      Node.spanning .document 0 nodes :: nodes.flatMap fun block => block :: innerBlocks block := by
  have whole := blocks_in_spanning .document 0 nodes []
  rw [blocksIn, List.flatMap_singleton, blocks_in_nil, List.append_nil] at whole
  rw [whole, blocksIn, List.flatMap_congr fun block member => (flat block member).blocks]
  rfl

theorem select_in_blocks (flat : ∀ block ∈ nodes, IsFlat block)
    (asked : ∀ kind, p kind = true → kind.isBlock = true) (no_whole : p .document = false) :
    (Node.spanning .document 0 nodes).select (Node.isBranch p) =
      nodes.flatMap fun block => (block :: innerBlocks block).filter (Node.isBranch p) := by
  rw [Node.select_of_blocks asked, select_blocks flat, List.filter_cons_of_neg (by simp [no_whole]),
    List.filter_flatMap]

theorem select_at_top (flat : ∀ block ∈ nodes, IsFlat block)
    (asked : ∀ kind, p kind = true → kind.isBlock = true)
    (no_item : ∀ ordered indent, p (.listItem ordered indent) = false)
    (no_whole : p .document = false) :
    (Node.spanning .document 0 nodes).select (Node.isBranch p) =
      nodes.filter (Node.isBranch p) := by
  have none_inside : ∀ block ∈ nodes, (innerBlocks block).filter (Node.isBranch p) = [] :=
    fun block member => (flat block member).none_inside no_item
  rw [select_in_blocks flat asked no_whole]
  clear flat
  induction nodes with
  | nil => rfl
  | cons block rest induction =>
      rw [List.forall_mem_cons] at none_inside
      rw [List.flatMap_cons, List.filter_cons, List.filter_cons, none_inside.1,
        induction none_inside.2]
      split <;> rfl

theorem select_lists (flat : ∀ block ∈ nodes, IsFlat block) :
    (Node.spanning .document 0 nodes).select isList = nodes.filter isList := by
  have asked : ∀ kind : BranchKind, kind.isList = true → kind.isBlock = true := by
    intro kind list
    cases kind <;> first | rfl | cases list
  exact select_at_top flat asked (fun _ _ => rfl) rfl

theorem IsFlat.items_inside (flat : IsFlat block) :
    (block :: innerBlocks block).filter isItem = if block.isList then block.children else [] := by
  rw [List.filter_cons_of_neg (by simp [flat.notItem]), List.filter_eq_self.mpr flat.items]
  rfl

theorem select_items (flat : ∀ block ∈ nodes, IsFlat block) :
    (Node.spanning .document 0 nodes).select isItem =
      (nodes.filter isList).flatMap Node.children := by
  have asked : ∀ kind : BranchKind, kind.isItem = true → kind.isBlock = true := by
    intro kind item
    cases kind <;> first | rfl | cases item
  have own : (Node.spanning .document 0 nodes).select isItem =
      nodes.flatMap fun block => (block :: innerBlocks block).filter isItem :=
        select_in_blocks flat asked rfl
  rw [own]
  clear own
  induction nodes with
  | nil => rfl
  | cons block rest induction =>
      rw [List.forall_mem_cons] at flat
      rw [List.flatMap_cons, flat.1.items_inside, induction flat.2, List.filter_cons]
      split <;> rfl

end Steps

end Markdown

end ProseLinter
