import Mathlib.Data.List.Chain
import ProseLinter.Proofs.Text.Excerpts
import ProseLinter.Proofs.Tree.Walk

/-!
# Trees that tile a text

A tree tiles a text from an offset on if its leaves hold the text piece by piece, each where the one
before it ends, and every branch spans exactly the trees below it. The predicate goes by the
structure of the tree, so trees that stand side by side are put together by one lemma, and what it
says about the leaves of a walk is read off once and for all.
-/

namespace ProseLinter.Node

mutual

/-- The text that the leaves below a node hold, from left to right. -/
def spelling : Node → Text
  | leaf _ _ raw => raw
  | branch _ _ children => spellingAll children

def spellingAll : List Node → Text
  | [] => []
  | node :: rest => spelling node ++ spellingAll rest

end

mutual

/-- Whether a tree stands at an offset: a leaf holds some text and starts there, and a branch has
trees below it that stand side by side from there on and are all that it spans. -/
def StandsAt (offset : Nat) : Node → Prop
  | leaf _ start raw => start = offset ∧ raw ≠ []
  | branch _ span children =>
      span = Span.ofLength offset (spellingAll children).length ∧ children ≠ [] ∧
        StandAt offset children

def StandAt (offset : Nat) : List Node → Prop
  | [] => True
  | node :: rest => StandsAt offset node ∧ StandAt (offset + (spelling node).length) rest

end

@[simp]
theorem spelling_all_append (first second : List Node) :
    spellingAll (first ++ second) = spellingAll first ++ spellingAll second := by
  induction first with
  | nil => rfl
  | cons node rest induction =>
      rw [List.cons_append, spellingAll, spellingAll, induction, List.append_assoc]

theorem stand_at_append {offset : Nat} {first second : List Node} :
    StandAt offset (first ++ second) ↔
      StandAt offset first ∧ StandAt (offset + (spellingAll first).length) second := by
  induction first generalizing offset with
  | nil =>
      simp only [List.nil_append, StandAt, spellingAll, List.length_nil, Nat.add_zero, true_and]
  | cons node rest induction =>
      simp only [List.cons_append, StandAt, spellingAll, List.length_append, induction, and_assoc,
        Nat.add_assoc]

theorem span_of_stands_at {offset : Nat} {node : Node} (stands : StandsAt offset node) :
    node.span = Span.ofLength offset node.spelling.length := by
  cases node with
  | leaf kind start raw => rw [span, spelling, stands.1]
  | branch kind span children => exact stands.1

theorem start_of_stands_at {offset : Nat} {node : Node} (stands : StandsAt offset node) :
    node.span.start = offset := by
  rw [span_of_stands_at stands]
  rfl

theorem stop_of_stands_at {offset : Nat} {node : Node} (stands : StandsAt offset node) :
    node.span.stop = offset + node.spelling.length := by
  rw [span_of_stands_at stands]
  rfl

theorem spelling_ne_nil {offset : Nat} (node : Node) (stands : StandsAt offset node) :
    node.spelling ≠ [] := by
  match node with
  | leaf kind start raw => exact stands.2
  | branch kind span [] => exact absurd rfl stands.2.1
  | branch kind span (first :: rest) =>
      have firstText := spelling_ne_nil first stands.2.2.1
      rw [spelling, spellingAll]
      exact List.append_ne_nil_of_left_ne_nil firstText _

/-! ## The last of several trees -/

theorem stop_of_last {offset : Nat} {nodes : List Node} (stand : StandAt offset nodes) {last : Node}
    (found : nodes.getLast? = some last) :
    last.span.stop = offset + (spellingAll nodes).length := by
  induction nodes generalizing offset with
  | nil => simp at found
  | cons node rest induction =>
      cases rest with
      | nil =>
          rw [List.getLast?_singleton, Option.some.injEq] at found
          subst found
          rw [stop_of_stands_at stand.1, spellingAll, spellingAll, List.append_nil]
      | cons next more =>
          rw [List.getLast?_cons_cons] at found
          rw [induction stand.2 found, spellingAll.eq_2 node, List.length_append, Nat.add_assoc]

/-! ## Several trees that tile a text -/

/-- Trees that stand side by side from an offset on and hold a text together. -/
structure Tile (offset : Nat) (nodes : List Node) (text : Text) : Prop where
  stand : StandAt offset nodes
  spelt : spellingAll nodes = text

namespace Tile

theorem nil (offset : Nat) : Tile offset [] [] := ⟨trivial, rfl⟩

theorem leaf (kind : LeafKind) (offset : Nat) {raw : Text} (some_text : raw ≠ []) :
    Tile offset [.leaf kind offset raw] raw := by
  constructor
  · exact ⟨⟨rfl, some_text⟩, trivial⟩
  · rw [spellingAll, spelling, spellingAll, List.append_nil]

theorem optional_leaf (kind : LeafKind) (offset : Nat) (raw : Text) :
    Tile offset (if raw.isEmpty then [] else [.leaf kind offset raw]) raw := by
  cases raw with
  | nil => exact nil offset
  | cons c rest => exact leaf kind offset (List.cons_ne_nil c rest)

theorem append {offset : Nat} {first second : List Node} {text more : Text}
    (left : Tile offset first text) (right : Tile (offset + text.length) second more) :
    Tile offset (first ++ second) (text ++ more) := by
  have spelt := left.spelt
  subst spelt
  constructor
  · exact stand_at_append.2 ⟨left.stand, right.stand⟩
  · rw [spelling_all_append, right.spelt]

theorem cons {offset : Nat} {node : Node} {nodes : List Node} {text more : Text}
    (left : Tile offset [node] text) (right : Tile (offset + text.length) nodes more) :
    Tile offset (node :: nodes) (text ++ more) :=
  append left right

theorem ne_nil {offset : Nat} {nodes : List Node} {text : Text} (tile : Tile offset nodes text)
    (some_text : text ≠ []) : nodes ≠ [] := by
  rintro rfl
  exact some_text tile.spelt.symm

theorem spanning (kind : BranchKind) (other : Nat) {offset : Nat} {nodes : List Node} {text : Text}
    (tile : Tile offset nodes text) (some_text : text ≠ []) :
    Tile offset [spanning kind other nodes] text := by
  have spelt := tile.spelt
  subst spelt
  cases nodes with
  | nil => exact absurd rfl some_text
  | cons first rest =>
      have start := start_of_stands_at tile.stand.1
      have last : (first :: rest).getLast? = some ((first :: rest).getLastD first) := by
        rw [List.getLastD_cons, List.getLast?_cons, List.getLastD_eq_getLast?]
      have stop := stop_of_last tile.stand last
      have length : ((first :: rest).getLastD first).span.stop - first.span.start =
          (spellingAll (first :: rest)).length := by
        rw [start, stop]
        exact Nat.add_sub_cancel_left offset _
      constructor
      · refine ⟨⟨?_, List.cons_ne_nil first rest, tile.stand⟩, trivial⟩
        rw [length, start]
      · rw [spellingAll, Node.spanning, spelling, spellingAll, List.append_nil]

end Tile

/-! ## The nodes and the leaves of a tree -/

mutual

theorem tile_leaves {offset : Nat} (node : Node) (stands : StandsAt offset node) :
    Tile offset node.leaves node.spelling := by
  cases node with
  | leaf kind start raw =>
      obtain ⟨rfl, some_text⟩ := stands
      rw [leaves_leaf, spelling]
      exact Tile.leaf kind start some_text
  | branch kind span children =>
      rw [leaves_branch kind span stands.2.1, spelling]
      exact tile_leaves_all children stands.2.2

theorem tile_leaves_all {offset : Nat} (nodes : List Node) (stand : StandAt offset nodes) :
    Tile offset (nodes.flatMap leaves) (spellingAll nodes) := by
  cases nodes with
  | nil => exact Tile.nil offset
  | cons node rest =>
      rw [List.flatMap_cons, spellingAll]
      exact (tile_leaves node stand.1).append (tile_leaves_all rest stand.2)

end

mutual

theorem stands_at_own_start {offset : Nat} (node : Node) (stands : StandsAt offset node) :
    ∀ below ∈ node.nodes, StandsAt below.span.start below := by
  have own : StandsAt node.span.start node := (start_of_stands_at stands).symm ▸ stands
  cases node with
  | leaf kind start raw =>
      intro below member
      rw [nodes_leaf, List.mem_singleton] at member
      exact member ▸ own
  | branch kind span children =>
      intro below member
      rw [nodes_branch, List.mem_cons] at member
      rcases member with rfl | member
      · exact own
      · exact stand_at_own_starts children stands.2.2 below member

theorem stand_at_own_starts {offset : Nat} (trees : List Node) (stand : StandAt offset trees) :
    ∀ below ∈ trees.flatMap nodes, StandsAt below.span.start below := by
  cases trees with
  | nil =>
      intro below member
      simp at member
  | cons node rest =>
      intro below member
      rw [List.flatMap_cons, List.mem_append] at member
      rcases member with member | member
      · exact stands_at_own_start node stand.1 below member
      · exact stand_at_own_starts rest stand.2 below member

end

theorem read_of_stands_at {offset : Nat} {node : Node} (stands : StandsAt offset node) {text : Text}
    (holds : node.spelling <+: text.drop offset) : node.span.read text = node.spelling := by
  have start := start_of_stands_at stands
  have stop := stop_of_stands_at stands
  rw [Span.read, Text.slice, start, stop, Nat.add_sub_cancel_left]
  exact (List.prefix_iff_eq_take.1 holds).symm

mutual

theorem read_eq_spelling {offset : Nat} {text : Text} (node : Node) (stands : StandsAt offset node)
    (holds : node.spelling <+: text.drop offset) :
    ∀ below ∈ node.nodes, below.span.read text = below.spelling := by
  have own := read_of_stands_at stands holds
  cases node with
  | leaf kind start raw =>
      intro below member
      rw [nodes_leaf, List.mem_singleton] at member
      exact member ▸ own
  | branch kind span children =>
      intro below member
      rw [nodes_branch, List.mem_cons] at member
      rcases member with rfl | member
      · exact own
      · exact read_eq_spelling_all children stands.2.2 holds below member

theorem read_eq_spelling_all {offset : Nat} {text : Text} (trees : List Node)
    (stand : StandAt offset trees) (holds : spellingAll trees <+: text.drop offset) :
    ∀ below ∈ trees.flatMap nodes, below.span.read text = below.spelling := by
  cases trees with
  | nil =>
      intro below member
      simp at member
  | cons node rest =>
      intro below member
      rw [List.flatMap_cons, List.mem_append] at member
      rcases member with member | member
      · exact read_eq_spelling node stand.1 ((List.prefix_append _ _).trans holds) below member
      · exact read_eq_spelling_all rest stand.2 (Text.holds_rest holds) below member

end

theorem chain_of_stand_at {offset : Nat} {nodes : List Node} (stand : StandAt offset nodes) :
    nodes.IsChain fun node next => next.span.start = node.span.stop := by
  induction nodes generalizing offset with
  | nil => exact .nil
  | cons node rest induction =>
      cases rest with
      | nil => exact .singleton node
      | cons next more =>
          refine .cons_cons ?_ (induction stand.2)
          rw [start_of_stands_at stand.2.1, stop_of_stands_at stand.1]

theorem spelling_of_leaf {offset : Nat} {node : Node} (stands : StandsAt offset node)
    (leaf : node.isLeaf) :
    node.spelling = node.raw := by
  cases node with
  | leaf kind start raw => rfl
  | branch kind span children => exact absurd (List.isEmpty_iff.1 leaf) stands.2.1

theorem flat_map_raw {offset : Nat} (nodes : List Node) (stand : StandAt offset nodes)
    (leaf : ∀ node ∈ nodes, node.isLeaf) : nodes.flatMap raw = spellingAll nodes := by
  induction nodes generalizing offset with
  | nil => rfl
  | cons node rest induction =>
      have first := spelling_of_leaf stand.1 (leaf node List.mem_cons_self)
      have others :=
        induction stand.2 fun other member => leaf other (List.mem_cons_of_mem node member)
      rw [List.flatMap_cons, spellingAll, first, others]

/-! ## Trees that cover a text -/

/-- What a tree owes to the text it was read from. The empty text is read as a tree without leaves
that hold text, so what is said of the leaves is said of texts that are not empty. -/
structure Covers (tree : Node) (text : Text) : Prop where
  span_whole : tree.span = Span.ofLength 0 text.length
  first_leaf : text ≠ [] → tree.leaves.head?.map (·.span.start) = some 0
  next_leaf : tree.leaves.IsChain fun leaf next => next.span.start = leaf.span.stop
  last_leaf : text ≠ [] → tree.leaves.getLast?.map (·.span.stop) = some text.length
  leaf_text : text ≠ [] → ∀ leaf ∈ tree.leaves, leaf.raw ≠ [] ∧ leaf.raw = leaf.span.read text
  branch_span : ∀ node ∈ tree.nodes, ∀ first ∈ node.children.head?, ∀ last ∈ node.children.getLast?,
    node.span.start = first.span.start ∧ node.span.stop = last.span.stop
  text_whole : tree.text = text

theorem span_of_children {offset : Nat} {node : Node} (stands : StandsAt offset node)
    {first last : Node} (head : first ∈ node.children.head?)
    (final : last ∈ node.children.getLast?) :
    node.span.start = first.span.start ∧ node.span.stop = last.span.stop := by
  cases node with
  | leaf kind start raw => simp [children] at head
  | branch kind span nodes =>
      obtain ⟨spanned, -, stand⟩ := stands
      cases nodes with
      | nil => simp [children] at head
      | cons node rest =>
          rw [children, List.head?_cons, Option.mem_some] at head
          subst head
          subst spanned
          exact ⟨(start_of_stands_at stand.1).symm, (stop_of_last stand final).symm⟩

theorem covers_of_stands_at {tree : Node} {text : Text} (stands : StandsAt 0 tree)
    (spelt : tree.spelling = text) :
    tree.Covers text := by
  subst spelt
  have leafTile := tile_leaves tree stands
  have some_leaves := leafTile.ne_nil (spelling_ne_nil tree stands)
  have allLeaves : ∀ leaf ∈ tree.leaves, leaf.isLeaf :=
    fun leaf member => (List.mem_filter.1 member).2
  have holds : tree.spelling <+: tree.spelling.drop 0 := List.prefix_rfl
  constructor
  case span_whole => exact span_of_stands_at stands
  case first_leaf =>
    intro _
    obtain ⟨first, rest, equal⟩ := List.exists_cons_of_ne_nil some_leaves
    have stand := equal ▸ leafTile.stand
    rw [equal, List.head?_cons, Option.map_some, start_of_stands_at stand.1]
  case next_leaf => exact chain_of_stand_at leafTile.stand
  case last_leaf =>
    intro _
    have found := List.getLast?_eq_some_getLast some_leaves
    rw [found, Option.map_some, stop_of_last leafTile.stand found, leafTile.spelt, Nat.zero_add]
  case leaf_text =>
    intro _ leaf member
    have inTree : leaf ∈ tree.nodes := (List.mem_filter.1 member).1
    have leafStands := stands_at_own_start tree stands leaf inTree
    have same := spelling_of_leaf leafStands (allLeaves leaf member)
    rw [← same]
    exact ⟨spelling_ne_nil leaf leafStands, (read_eq_spelling tree stands holds leaf inTree).symm⟩
  case branch_span =>
    intro node member first head last final
    exact span_of_children (stands_at_own_start tree stands node member) head final
  case text_whole =>
    rw [text, flat_map_raw tree.leaves leafTile.stand allLeaves, leafTile.spelt]

theorem tiles_of_nothing {offset : Nat} {nodes : List Node} (tile : Tile offset nodes []) :
    nodes = [] := by
  cases nodes with
  | nil => rfl
  | cons node rest =>
      have spelt := tile.spelt
      rw [spellingAll, List.append_eq_nil_iff] at spelt
      exact absurd spelt.1 (spelling_ne_nil node tile.stand.1)

/-- The root that a reader puts above the blocks of a text covers it. The empty text has no blocks,
and then the root is a leaf of the walk that holds no text. -/
theorem root_covers {nodes : List Node} {text : Text} (tile : Tile 0 nodes text) :
    (Node.spanning .document 0 nodes).Covers text := by
  by_cases empty : text = []
  · subst empty
    rw [tiles_of_nothing tile, Node.spanning]
    constructor
    case span_whole => rfl
    case first_leaf => exact fun some_text => absurd rfl some_text
    case next_leaf =>
      rw [leaves_childless]
      exact .singleton _
    case last_leaf => exact fun some_text => absurd rfl some_text
    case leaf_text => exact fun some_text => absurd rfl some_text
    case branch_span =>
      intro node member first head
      rw [nodes_branch, List.flatMap_nil, List.mem_singleton] at member
      subst member
      simp [children] at head
    case text_whole =>
      rw [text, leaves_childless]
      rfl
  · obtain ⟨⟨stands, -⟩, spelt⟩ := tile.spanning .document 0 empty
    rw [spellingAll, spellingAll, List.append_nil] at spelt
    exact covers_of_stands_at stands spelt

end ProseLinter.Node
