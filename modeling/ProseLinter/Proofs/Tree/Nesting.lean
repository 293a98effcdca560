import ProseLinter.Proofs.Tree.Tiling

/-!
# Nodes inside other nodes

A node of a tree that stands in a text lies within the span of every node above it, and has text of
its own. So nodes that come one behind the other stand beside each other, and none of them is inside
another.
-/

namespace ProseLinter.Node

mutual

theorem bounds_of_stands_at {offset : Nat} (node : Node) (stands : StandsAt offset node) :
    ∀ below ∈ node.nodes, offset ≤ below.span.start ∧
      below.span.stop ≤ offset + node.spelling.length := by
  have own : offset ≤ node.span.start ∧ node.span.stop ≤ offset + node.spelling.length :=
    ⟨Nat.le_of_eq (start_of_stands_at stands).symm, Nat.le_of_eq (stop_of_stands_at stands)⟩
  cases node with
  | leaf kind start raw =>
      rw [nodes_leaf]
      exact List.forall_mem_singleton.mpr own
  | branch kind span children =>
      rw [nodes_branch]
      exact List.forall_mem_cons.mpr ⟨own, bounds_of_stand_at children stands.2.2⟩

theorem bounds_of_stand_at {offset : Nat} (trees : List Node) (stand : StandAt offset trees) :
    ∀ below ∈ trees.flatMap nodes, offset ≤ below.span.start ∧
      below.span.stop ≤ offset + (spellingAll trees).length := by
  cases trees with
  | nil => exact fun below member => absurd member List.not_mem_nil
  | cons node rest =>
      rw [List.flatMap_cons, spellingAll, List.length_append]
      refine List.forall_mem_append.mpr ⟨fun below member => ?_, fun below member => ?_⟩
      · have first := bounds_of_stands_at node stand.1 below member
        omega
      · have later := bounds_of_stand_at rest stand.2 below member
        omega

end

variable {offset : Nat} {p : Node → Bool}

theorem bounds_of_member {node below : Node} (stands : StandsAt offset node)
    (member : below ∈ node.nodes) :
    node.span.start ≤ below.span.start ∧ below.span.stop ≤ node.span.stop := by
  rw [start_of_stands_at stands, stop_of_stands_at stands]
  exact bounds_of_stands_at node stands below member

theorem start_lt_stop {node : Node} (stands : StandsAt offset node) :
    node.span.start < node.span.stop := by
  have some_text := List.length_pos_iff.mpr (spelling_ne_nil node stands)
  rw [start_of_stands_at stands, stop_of_stands_at stands]
  omega

mutual

theorem nodes_sublist (node : Node) : ∀ below ∈ node.nodes, below.nodes.Sublist node.nodes := by
  cases node with
  | leaf kind start raw =>
      rw [nodes_leaf]
      exact List.forall_mem_singleton.mpr (nodes_leaf kind start raw ▸ List.Sublist.refl _)
  | branch kind span children =>
      rw [nodes_branch]
      refine List.forall_mem_cons.mpr
        ⟨nodes_branch kind span children ▸ List.Sublist.refl _, fun below member => ?_⟩
      exact (nodes_sublist_all children below member).cons _

theorem nodes_sublist_all (trees : List Node) :
    ∀ below ∈ trees.flatMap nodes, below.nodes.Sublist (trees.flatMap nodes) := by
  cases trees with
  | nil => exact fun below member => absurd member List.not_mem_nil
  | cons node rest =>
      rw [List.flatMap_cons]
      refine List.forall_mem_append.mpr ⟨fun below member => ?_, fun below member => ?_⟩
      · exact (nodes_sublist node below member).trans (List.sublist_append_left _ _)
      · exact (nodes_sublist_all rest below member).trans (List.sublist_append_right _ _)

end

theorem none_nested {tree : Node}
    (in_turn : (tree.select p).Pairwise fun earlier later => earlier.span.stop ≤ later.span.start)
    (stand : ∀ node ∈ tree.select p, node.StandsAt node.span.start) :
    ∀ node ∈ tree.select p, node.select p = [node] := by
  intro node selected
  obtain ⟨member, wanted⟩ := List.mem_filter.mp selected
  have own : node.select p = node :: (node.children.flatMap nodes).filter p := by
    rw [select, nodes_eq, List.filter_cons_of_pos wanted]
  have below := in_turn.sublist ((nodes_sublist tree node member).filter p)
  change (node.select p).Pairwise _ at below
  rw [own, List.pairwise_cons] at below
  rw [own, List.cons.injEq]
  refine ⟨rfl, List.eq_nil_iff_forall_not_mem.mpr fun other inside => ?_⟩
  -- Another node would lie behind the one that it is inside.
  have among : other ∈ node.nodes :=
    nodes_eq node ▸ List.mem_cons_of_mem node (List.mem_filter.mp inside).1
  have selected_too : other ∈ tree.select p :=
    List.mem_filter.mpr ⟨(nodes_sublist tree node member).mem among, (List.mem_filter.mp inside).2⟩
  have some_text := start_lt_stop (stand other selected_too)
  have within := bounds_of_member (stand node selected) among
  have behind := below.1 other inside
  omega

end ProseLinter.Node
