import ProseLinter.Node

/-!
# The walk over a tree

The walk keeps the trees that are still to be visited on a stack. Here it is tied to the recursion
over the tree: the nodes of the stack come out in the order of the stack, each tree in pre-order.
Facts about nodes, leaves and texts are then proved by induction on the tree, and no later proof
mentions the stack.
-/

namespace ProseLinter.Node

theorem preorder_eq (parent : Option Node) (node : Node) :
    preorder parent node = (node, parent) :: preorderAll (some node) node.children := by
  cases node with
  | leaf kind start raw => rw [preorder, children, preorderAll]
  | branch kind span nodes => rw [preorder, children]

theorem preorder_all_eq_flatMap (parent : Option Node) (trees : List Node) :
    preorderAll parent trees = trees.flatMap (preorder parent) := by
  induction trees with
  | nil => rw [preorderAll, List.flatMap_nil]
  | cons node rest induction => rw [preorderAll, induction, List.flatMap_cons]

theorem visit_eq_preorder (stack : List (Node × Option Node)) :
    visit stack = stack.flatMap fun entry => preorder entry.2 entry.1 := by
  induction stack using visit.induct with
  | case1 => rw [visit, List.flatMap_nil]
  | case2 entry rest induction =>
      have below : (entry.1.children.map fun child => (child, some entry.1)).flatMap
          (fun entry => preorder entry.2 entry.1) =
            preorderAll (some entry.1) entry.1.children := by
        rw [List.flatMap_map, preorder_all_eq_flatMap]
      rw [visit, induction, List.flatMap_append, below, List.flatMap_cons, preorder_eq]
      rfl

theorem walk_eq_preorder (node : Node) : node.walk = preorder none node := by
  rw [walk, visit_eq_preorder, List.flatMap_cons, List.flatMap_nil, List.append_nil]

/-- Only the nodes beside their parents depend on where a walk starts, so the nodes alone can be
listed without one. -/
theorem preorder_nodes_parent (node : Node) (parent other : Option Node) :
    (preorder parent node).map (·.1) = (preorder other node).map (·.1) := by
  rw [preorder_eq, preorder_eq, List.map_cons, List.map_cons]

theorem preorder_all_nodes (trees : List Node) (parent : Option Node) :
    (preorderAll parent trees).map (·.1) = trees.flatMap nodes := by
  induction trees with
  | nil => rw [preorderAll, List.map_nil, List.flatMap_nil]
  | cons node rest induction =>
      have first : (preorder parent node).map (·.1) = node.nodes := by
        rw [nodes, walk_eq_preorder]
        exact preorder_nodes_parent node parent none
      rw [preorderAll, List.map_append, first, induction, List.flatMap_cons]

theorem nodes_eq (node : Node) : node.nodes = node :: node.children.flatMap nodes := by
  rw [nodes, walk_eq_preorder, preorder_eq, List.map_cons, preorder_all_nodes]

@[simp]
theorem nodes_leaf (kind : LeafKind) (start : Nat) (raw : Text) :
    (leaf kind start raw).nodes = [leaf kind start raw] := by
  rw [nodes_eq, children, List.flatMap_nil]

@[simp]
theorem nodes_branch (kind : BranchKind) (span : Span) (below : List Node) :
    (branch kind span below).nodes = branch kind span below :: below.flatMap nodes := by
  rw [nodes_eq, children]

@[simp]
theorem select_leaf (p : Node → Bool) (kind : LeafKind) (start : Nat) (raw : Text) :
    (leaf kind start raw).select p = if p (leaf kind start raw) then [leaf kind start raw]
      else [] := by
  rw [select, nodes_leaf, List.filter_cons, List.filter_nil]

@[simp]
theorem select_branch (p : Node → Bool) (kind : BranchKind) (span : Span) (below : List Node) :
    (branch kind span below).select p =
      (if p (branch kind span below) then [branch kind span below] else []) ++
        below.flatMap (select p) := by
  rw [select, nodes_branch, List.filter_cons, List.filter_flatMap]
  split <;> rfl

@[simp]
theorem leaves_leaf (kind : LeafKind) (start : Nat) (raw : Text) :
    (leaf kind start raw).leaves = [leaf kind start raw] := by
  rw [leaves, select, nodes_leaf]
  rfl

theorem leaves_branch (kind : BranchKind) (span : Span) {below : List Node}
    (some_below : below ≠ []) :
    (branch kind span below).leaves = below.flatMap leaves := by
  have notLeaf : (branch kind span below).isLeaf = false := by
    cases below with
    | nil => exact absurd rfl some_below
    | cons _ _ => rfl
  rw [leaves, select, nodes_branch, List.filter_cons, notLeaf, List.filter_flatMap]
  rfl

@[simp]
theorem leaves_childless (kind : BranchKind) (span : Span) :
    (branch kind span []).leaves = [branch kind span []] := by
  rw [leaves, select, nodes_branch]
  rfl

end ProseLinter.Node
