import ProseLinter.Proofs.Format.Covering
import ProseLinter.Proofs.Markdown.BlockNodes
import ProseLinter.Proofs.Tree.Nesting

/-!
# The blocks that hold sentences

Whichever built-in format reads a text, the blocks at the top of its tree are flat: only a list has
blocks inside, which are its items. Sentences stand in items and in other blocks at the top, but not
in lists. So the nodes in which they stand come one behind the other, and none is inside another.
-/

namespace ProseLinter

open Markdown (IsFlat innerBlocks)
open Node (Tile)

namespace PlainText

theorem blocks_in_proseLine (line : Line) : Node.blocksIn (proseLine line) = [] := by
  simp [proseLine]

theorem blocks_are_flat (lines : List Line) : ∀ block ∈ blocks lines, IsFlat block := by
  induction lines using blocks.induct with
  | case1 =>
      rw [blocks]
      exact fun block member => absurd member List.not_mem_nil
  | case2 line rest blank induction =>
      rw [blocks, if_pos blank]
      exact List.forall_mem_cons.mpr ⟨Markdown.flat_of_plain rfl rfl rfl (by simp), induction⟩
  | case3 line rest notBlank after =>
      rename_i induction
      rw [blocks, if_neg notBlank]
      have plain := Markdown.blocks_in_flatMap blocks_in_proseLine
      exact List.forall_mem_cons.mpr ⟨Markdown.flat_of_plain rfl rfl rfl (plain _), induction⟩

end PlainText

theorem Format.IsBuiltIn.flat {format : Format} (builtIn : format.IsBuiltIn) {text : Text}
    {tree : Node} (parsed : format.parse text = .ok (.proper tree)) :
    ∃ nodes, tree = Node.spanning .document 0 nodes ∧ Tile 0 nodes text ∧
      ∀ block ∈ nodes, IsFlat block := by
  cases builtIn with
  | markdown strict =>
      obtain ⟨other, read, same⟩ := Format.tree_of_reader parsed
      cases same
      obtain ⟨nodes, root, tile⟩ := Markdown.parse_tiles read
      obtain ⟨own, read_blocks, own_root⟩ := Markdown.parse_eq_ok.mp read
      have same : own = nodes := by
        rw [← Node.children_spanning .document 0 own, own_root, root, Node.children_spanning]
      exact ⟨nodes, root, tile, Markdown.blocks_are_flat (same ▸ read_blocks)⟩
  | plainText =>
      obtain ⟨other, read, same⟩ := Format.tree_of_reader parsed
      cases same
      unfold PlainText.parse at read
      split at read
      · cases read
      · cases read
        have tile := PlainText.blocks_tile (Line.follow_lines text)
        rw [Line.whole_text_lines] at tile
        exact ⟨_, rfl, tile, PlainText.blocks_are_flat _⟩

section Select

variable {p : BranchKind → Bool} {nodes : List Node} {block : Node} {text : Text} {offset : Nat}

theorem Markdown.asked_in_turn (no_list : ∀ ordered, p (.list ordered) = false)
    (stands : block.StandsAt offset) :
    ((block :: innerBlocks block).filter (Node.isBranch p)).Pairwise fun earlier later =>
      earlier.span.stop ≤ later.span.start := by
  cases list : block.isList with
  | false =>
      rw [innerBlocks, list]
      exact (List.pairwise_singleton _ block).filter _
  | true =>
      cases block with
      | leaf => cases list
      | branch kind span children =>
          cases kind with
          | list ordered =>
              have not_asked : ¬ Node.isBranch p
                  (.branch (.list ordered) span children) = true := by
                rw [Node.isBranch, no_list]
                exact Bool.false_ne_true
              rw [List.filter_cons_of_neg not_asked]
              exact (Node.in_turn_of_stand_at stands.2.2).filter _
          | _ => cases list

theorem Markdown.IsFlat.asked_below (flat : IsFlat block) :
    ∀ node ∈ (block :: innerBlocks block).filter (Node.isBranch p), node ∈ block.nodes := by
  intro node member
  have among : node ∈ block.select Node.isBlock := flat.blocks ▸ (List.mem_filter.mp member).1
  exact (List.mem_filter.mp among).1

theorem Markdown.select_in_turn (flat : ∀ block ∈ nodes, IsFlat block) (tile : Tile 0 nodes text)
    (asked : ∀ kind, p kind = true → kind.isBlock = true)
    (no_list : ∀ ordered, p (.list ordered) = false) (no_whole : p .document = false) :
    ((Node.spanning .document 0 nodes).select (Node.isBranch p)).Pairwise
      fun earlier later => earlier.span.stop ≤ later.span.start := by
  have stand : ∀ block ∈ nodes, block.StandsAt block.span.start := by
    intro block member
    have own : block ∈ block.nodes := Node.nodes_eq block ▸ List.mem_cons_self
    exact Node.stand_at_own_starts nodes tile.stand block
      (List.mem_flatMap.mpr ⟨block, member, own⟩)
  rw [select_in_blocks flat asked no_whole, List.pairwise_flatMap]
  refine ⟨fun block member => asked_in_turn no_list (stand block member), ?_⟩
  refine (Node.in_turn_of_stand_at tile.stand).imp_of_mem ?_
  intro block other member other_member in_turn node below later later_below
  have within :=
    Node.bounds_of_member (stand block member) ((flat block member).asked_below node below)
  have other_within :=
    Node.bounds_of_member (stand other other_member)
      ((flat other other_member).asked_below later later_below)
  omega

end Select

theorem Format.IsBuiltIn.sentence_blocks_in_turn {format : Format} (builtIn : format.IsBuiltIn)
    {text : Text} {tree : Node} (parsed : format.parse text = .ok (.proper tree)) :
    (tree.select (Node.isBranch BranchKind.holdsSentences)).Pairwise fun earlier later =>
      earlier.span.stop ≤ later.span.start := by
  obtain ⟨nodes, rfl, tile, flat⟩ := builtIn.flat parsed
  apply Markdown.select_in_turn flat tile
  · intro kind holds
    cases kind <;> first | rfl | cases holds
  · exact fun _ => rfl
  · rfl

end ProseLinter
