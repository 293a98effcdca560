import Mathlib.Data.List.Forall2
import Mathlib.Logic.Function.Iterate
import ProseLinter.Proofs.Tree.Walk

/-!
# The order of the walk

The walk takes one node off its stack at each turn, so it is over after as many turns as the tree
has nodes. The order in which it comes to the nodes is told by their places: the place of a node is
the way down to it, as the numbers of the nodes to go to, so places in dictionary order are places
in pre-order. Every place of a tree is come to once, in this order, and each node beside the node
right above it.
-/

namespace ProseLinter.Node

/-! ## Turns of the walk -/

/-- One turn of the walk: the node on top of the stack gives its place to the nodes below it. -/
def turn : List (Node × Option Node) → List (Node × Option Node)
  | [] => []
  | entry :: rest => (entry.1.children.map fun child => (child, some entry.1)) ++ rest

variable {turns : Nat} {stack : List (Node × Option Node)}

theorem visit_eq_turn (stack : List (Node × Option Node)) :
    visit stack = stack.head?.toList ++ visit (turn stack) := by
  cases stack with
  | nil => rw [turn, visit, List.head?_nil, Option.toList_none, List.nil_append]
  | cons entry rest => rw [visit, turn, List.head?_cons, Option.toList_some, List.singleton_append]

theorem stackSize_turn (entry : Node × Option Node) (rest : List (Node × Option Node)) :
    stackSize (entry :: rest) = stackSize (turn (entry :: rest)) + 1 := by
  rw [stackSize, turn, stackSize_append, stackSize_below, size_eq]
  omega

theorem length_visit (stack : List (Node × Option Node)) :
    (visit stack).length = stackSize stack := by
  induction stack using visit.induct with
  | case1 => rw [visit, stackSize, List.length_nil]
  | case2 entry rest induction => rw [stackSize_turn, turn, ← induction, visit, List.length_cons]

theorem getElem?_visit (turns : Nat) (stack : List (Node × Option Node)) :
    (visit stack)[turns]? = (turn^[turns] stack).head? := by
  induction turns generalizing stack with
  | zero =>
      rw [visit_eq_turn, Function.iterate_zero_apply]
      cases stack with
      | nil => rw [turn, visit]; rfl
      | cons entry rest => rfl
  | succ turns induction =>
      rw [Function.iterate_succ_apply, ← induction (turn stack), visit_eq_turn]
      cases stack with
      | nil => rw [turn, visit]; rfl
      | cons entry rest => rfl

theorem iterate_turn_eq_nil_iff : turn^[turns] stack = [] ↔ stackSize stack ≤ turns := by
  rw [← List.head?_eq_none_iff, ← getElem?_visit, List.getElem?_eq_none_iff, length_visit]

/-! ## Places -/

/-- The node that a way down from a tree leads to, if there is one. -/
def nodeAt? : Node → List Nat → Option Node
  | tree, [] => some tree
  | tree, index :: place => tree.children[index]?.bind fun child => child.nodeAt? place

/-- The node right above a place of a tree that hangs below a node, or below none. -/
def parentAt? (parent : Option Node) (tree : Node) (place : List Nat) : Option Node :=
  if place.isEmpty then parent else tree.nodeAt? place.dropLast

/-- That an entry of the walk is the node at a place and the node right above. -/
def IsEntryAt (parent : Option Node) (tree : Node) (place : List Nat)
    (entry : Node × Option Node) : Prop :=
  tree.nodeAt? place = some entry.1 ∧ parentAt? parent tree place = entry.2

mutual

def places : Node → List (List Nat)
  | leaf _ _ _ => [[]]
  | branch _ _ children => [] :: placesFrom 0 children

/-- The places of trees side by side, of which the first has a number. -/
def placesFrom (index : Nat) : List Node → List (List Nat)
  | [] => []
  | node :: rest => node.places.map (index :: ·) ++ placesFrom (index + 1) rest

end

/-- That places are all those of a tree, in dictionary order and each of them once. -/
structure ListsPlaces (tree : Node) (listed : List (List Nat)) : Prop where
  in_order : listed.Pairwise (· < ·)
  all_there : ∀ place, place ∈ listed ↔ (tree.nodeAt? place).isSome

variable {index : Nat} {nodes : List Node} {place : List Nat} {tree : Node}

theorem places_eq (tree : Node) : tree.places = [] :: placesFrom 0 tree.children := by
  cases tree with
  | leaf kind start raw => rw [places, children, placesFrom]
  | branch kind span children => rw [places, Node.children]

theorem mem_placesFrom : place ∈ placesFrom index nodes ↔
    ∃ number node down, place = (index + number) :: down ∧ nodes[number]? = some node ∧
      down ∈ node.places := by
  induction nodes generalizing index with
  | nil => simp [placesFrom]
  | cons node rest induction =>
      rw [placesFrom, List.mem_append, induction, List.mem_map]
      constructor
      · rintro (⟨down, member, rfl⟩ | ⟨number, other, down, rfl, found, member⟩)
        · exact ⟨0, node, down, rfl, rfl, member⟩
        · exact ⟨number + 1, other, down, by rw [Nat.add_assoc, Nat.add_comm 1], found, member⟩
      · rintro ⟨number, other, down, rfl, found, member⟩
        cases number with
        | zero =>
            cases found
            exact .inl ⟨down, member, rfl⟩
        | succ number =>
            exact .inr ⟨number, other, down, by rw [Nat.add_assoc, Nat.add_comm 1], found, member⟩

theorem mem_places : place ∈ tree.places ↔ (tree.nodeAt? place).isSome := by
  induction place generalizing tree with
  | nil => simp [places_eq, nodeAt?]
  | cons index place induction =>
      rw [places_eq, List.mem_cons, or_iff_right (List.cons_ne_nil index place),
        mem_placesFrom, nodeAt?, Option.isSome_iff_exists]
      simp only [Nat.zero_add, List.cons.injEq, Option.bind_eq_some_iff]
      constructor
      · rintro ⟨number, node, down, ⟨rfl, rfl⟩, found, member⟩
        obtain ⟨below, there⟩ := Option.isSome_iff_exists.mp (induction.mp member)
        exact ⟨below, node, found, there⟩
      · rintro ⟨below, node, found, there⟩
        exact ⟨index, node, place, ⟨rfl, rfl⟩, found,
          induction.mpr (Option.isSome_iff_exists.mpr ⟨below, there⟩)⟩

mutual

theorem places_in_order (tree : Node) : tree.places.Pairwise (· < ·) := by
  cases tree with
  | leaf kind start raw => exact List.pairwise_singleton _ _
  | branch kind span children =>
      rw [places, List.pairwise_cons]
      refine ⟨fun place member => ?_, placesFrom_in_order 0 children⟩
      obtain ⟨number, node, down, rfl, -⟩ := mem_placesFrom.mp member
      exact List.nil_lt_cons _ _

theorem placesFrom_in_order (index : Nat) (nodes : List Node) :
    (placesFrom index nodes).Pairwise (· < ·) := by
  cases nodes with
  | nil => exact .nil
  | cons node rest =>
      rw [placesFrom, List.pairwise_append, List.pairwise_map]
      refine ⟨(places_in_order node).imp fun before => ?_, placesFrom_in_order (index + 1) rest, ?_⟩
      · exact List.cons_lt_cons_iff.mpr (.inr ⟨rfl, before⟩)
      · rw [List.forall_mem_map]
        intro down among later member
        obtain ⟨number, other, further, rfl, -⟩ := mem_placesFrom.mp member
        exact List.cons_lt_cons_iff.mpr (.inl (by omega))

end

theorem lists_places (tree : Node) : ListsPlaces tree tree.places where
  in_order := places_in_order tree
  all_there := fun _ => mem_places

/-- A paragraph of two leaves stands before a line break. -/
example :
    places (branch .document (Span.ofLength 0 3)
      [branch .paragraph (Span.ofLength 0 2) [leaf .prose 0 ['a'], leaf .code 1 ['b']],
        leaf .lineBreak 2 ['\n']]) =
    [[], [0], [0, 0], [0, 1], [1]] := by decide

/-! ## The walk goes through the places -/

theorem IsEntryAt.under {node : Node} {entry : Node × Option Node}
    (stands : IsEntryAt (some tree) node place entry) (parent : Option Node)
    (found : tree.children[index]? = some node) : IsEntryAt parent tree (index :: place) entry := by
  obtain ⟨there, above⟩ := stands
  refine ⟨by rw [nodeAt?, found, Option.bind_some, there], ?_⟩
  rw [← above]
  cases place with
  | nil => rfl
  | cons next place =>
      change tree.nodeAt? (index :: (next :: place).dropLast) =
        node.nodeAt? (next :: place).dropLast
      rw [nodeAt?, found, Option.bind_some]

mutual

theorem preorder_at_places (parent : Option Node) (tree : Node) :
    List.Forall₂ (IsEntryAt parent tree) tree.places (preorder parent tree) := by
  have own : IsEntryAt parent tree [] (tree, parent) := ⟨rfl, rfl⟩
  cases tree with
  | leaf kind start raw => exact .cons own .nil
  | branch kind span children =>
      rw [places, preorder]
      exact .cons own (preorderAll_at_places parent (branch kind span children) [] children rfl)

theorem preorderAll_at_places (parent : Option Node) (tree : Node) (before nodes : List Node)
    (split : tree.children = before ++ nodes) :
    List.Forall₂ (IsEntryAt parent tree) (placesFrom before.length nodes)
    (preorderAll (some tree) nodes) := by
  cases nodes with
  | nil => exact .nil
  | cons node rest =>
      have found : tree.children[before.length]? = some node := by
        rw [split, List.getElem?_append_right (Nat.le_refl _), Nat.sub_self,
          List.getElem?_cons_zero]
      have first :=
        (preorder_at_places (some tree) node).imp fun place entry stands =>
          stands.under parent found
      have others :=
        preorderAll_at_places parent tree (before ++ [node]) rest
          (by rw [split, List.append_assoc]; rfl)
      rw [List.length_append, List.length_singleton] at others
      rw [placesFrom, preorderAll]
      exact List.rel_append (List.forall₂_map_left_iff.mpr first) others

end

/-! ## What the walk is used for -/

theorem text_eq (tree : Node) :
    tree.text = if tree.isLeaf then tree.raw else tree.children.flatMap text := by
  cases tree with
  | leaf kind start raw =>
      rw [text, leaves_leaf, List.flatMap_singleton]
      rfl
  | branch kind span children =>
      cases children with
      | nil =>
          rw [text, leaves_childless, List.flatMap_singleton]
          rfl
      | cons first rest =>
          rw [text, leaves_branch kind span (List.cons_ne_nil first rest), List.flatMap_assoc]
          rfl

/-- The walk over a tree is over after as many turns as the tree has nodes. It goes through the tree
in pre-order: it comes to every place once, to a node before those below it and to these from left
to right, and knows the node right above each. What is picked from the tree comes in this order. -/
theorem walk_goes_in_preorder (tree : Node) :
    (∀ parent turns, (visit [(tree, parent)])[turns]? = (turn^[turns] [(tree, parent)]).head? ∧
        (turn^[turns] [(tree, parent)] = [] ↔ tree.size ≤ turns)) ∧
      (∀ parent, visit [(tree, parent)] = preorder parent tree ∧
        ∃ places, ListsPlaces tree places ∧
        List.Forall₂ (IsEntryAt parent tree) places (visit [(tree, parent)])) ∧
      tree.walk = preorder none tree ∧
      tree.leaves = ((preorder none tree).map Prod.fst).filter isLeaf ∧
      (∀ p, tree.select p = ((preorder none tree).map Prod.fst).filter p) ∧
      tree.text = if tree.isLeaf then tree.raw else tree.children.flatMap text := by
  have in_preorder : ∀ parent, visit [(tree, parent)] = preorder parent tree := fun parent => by
    rw [visit_eq_preorder, List.flatMap_singleton]
  have picked : ∀ p, tree.select p = ((preorder none tree).map Prod.fst).filter p := fun p => by
    rw [select, nodes, walk_eq_preorder]
  refine ⟨fun parent turns => ⟨getElem?_visit turns _, ?_⟩, fun parent => ⟨in_preorder parent, ?_⟩,
    in_preorder none, picked isLeaf, picked, text_eq tree⟩
  · rw [iterate_turn_eq_nil_iff, stackSize, stackSize, Nat.add_zero]
  · rw [in_preorder]
    exact ⟨tree.places, lists_places tree, preorder_at_places parent tree⟩

end ProseLinter.Node
