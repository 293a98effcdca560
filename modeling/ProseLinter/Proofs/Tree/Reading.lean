import ProseLinter.Document
import ProseLinter.Proofs.Tree.Tiling

/-!
# Trees that were read from a text

The nodes of a document that was read from its text stand in that text, each with its own part of
it. The root is a case of its own: it stands above the blocks, and if there are none it holds no
text. The prose below a node comes in the order of the text.
-/

namespace ProseLinter

namespace Node

/-- That a node stands in a text, at its start and with the text that it spells. -/
structure LiesIn (text : Text) (node : Node) : Prop where
  stands : node.StandsAt node.span.start
  holds : node.spelling <+: text.drop node.span.start

variable {text : Text} {node : Node} {nodes : List Node} {offset : Nat}

theorem lies_in_of_tile (stand : StandAt offset nodes)
    (holds : spellingAll nodes <+: text.drop offset) :
    ∀ below ∈ nodes.flatMap Node.nodes, below.LiesIn text := by
  intro below member
  have stands := stand_at_own_starts nodes stand below member
  refine ⟨stands, ?_⟩
  rw [← read_eq_spelling_all nodes stand holds below member]
  exact List.take_prefix _ _

theorem LiesIn.below (lies : node.LiesIn text) : ∀ below ∈ node.nodes, below.LiesIn text := by
  have alone : StandAt node.span.start [node] := ⟨lies.stands, trivial⟩
  have spelt : spellingAll [node] = node.spelling := by
    rw [spellingAll, spellingAll, List.append_nil]
  have both := lies_in_of_tile alone (spelt.symm ▸ lies.holds)
  rwa [List.flatMap_singleton] at both

theorem LiesIn.stop_le (lies : node.LiesIn text) : node.span.stop ≤ text.length := by
  rw [stop_of_stands_at lies.stands]
  exact Text.holds_within lies.holds (spelling_ne_nil node lies.stands)

/-! ## Prose -/

theorem isProse_iff : node.isProse = true ↔ ∃ start raw, node = leaf .prose start raw := by
  constructor
  · intro prose
    match node with
    | leaf .prose start raw => exact ⟨start, raw, rfl⟩
  · rintro ⟨start, raw, rfl⟩
    rfl

theorem LiesIn.prose (lies : node.LiesIn text) (prose : node.isProse = true) :
    node.raw ≠ [] ∧ node.raw <+: text.drop node.span.start ∧
      node.span.stop = node.span.start + node.raw.length := by
  obtain ⟨start, raw, rfl⟩ := isProse_iff.mp prose
  exact ⟨lies.stands.2, lies.holds, rfl⟩

theorem start_le_of_stand_at (stand : StandAt offset nodes) :
    ∀ node ∈ nodes, offset ≤ node.span.start := by
  induction nodes generalizing offset with
  | nil => exact fun node member => absurd member List.not_mem_nil
  | cons node rest induction =>
      refine List.forall_mem_cons.mpr ⟨Nat.le_of_eq (start_of_stands_at stand.1).symm, ?_⟩
      intro later member
      exact Nat.le_trans (Nat.le_add_right _ _) (induction stand.2 later member)

theorem stop_le_of_stand_at (stand : StandAt offset nodes) :
    ∀ node ∈ nodes, node.span.stop ≤ offset + (spellingAll nodes).length := by
  induction nodes generalizing offset with
  | nil => exact fun node member => absurd member List.not_mem_nil
  | cons node rest induction =>
      rw [spellingAll, List.length_append, ← Nat.add_assoc]
      refine List.forall_mem_cons.mpr ⟨?_, induction stand.2⟩
      rw [stop_of_stands_at stand.1]
      exact Nat.le_add_right _ _

theorem in_turn_of_stand_at (stand : StandAt offset nodes) :
    nodes.Pairwise fun earlier later => earlier.span.stop ≤ later.span.start := by
  induction nodes generalizing offset with
  | nil => exact .nil
  | cons node rest induction =>
      refine .cons ?_ (induction stand.2)
      rw [stop_of_stands_at stand.1]
      exact start_le_of_stand_at stand.2

theorem select_sublist_leaves {p : Node → Bool} (leafy : ∀ node, p node = true → node.isLeaf = true)
    (node : Node) :
    (node.select p).Sublist node.leaves := by
  have both : node.select p = node.leaves.filter p := by
    rw [leaves, select, select, List.filter_filter]
    refine List.filter_congr fun below _ => ?_
    rw [Bool.eq_iff_iff, Bool.and_eq_true]
    exact ⟨fun wanted => ⟨wanted, leafy below wanted⟩, fun wanted => wanted.1⟩
  rw [both]
  exact List.filter_sublist

theorem prose_sublist_leaves (node : Node) : (node.select isProse).Sublist node.leaves := by
  refine select_sublist_leaves (fun below prose => ?_) node
  obtain ⟨start, raw, rfl⟩ := isProse_iff.mp prose
  rfl

theorem LiesIn.prose_in_turn (lies : node.LiesIn text) :
    (node.select isProse).Pairwise fun earlier later => earlier.span.stop ≤ later.span.start :=
  (in_turn_of_stand_at (tile_leaves node lies.stands).stand).sublist (prose_sublist_leaves node)

theorem LiesIn.prose_within (lies : node.LiesIn text) :
    ∀ leaf ∈ node.select isProse, node.span.start ≤ leaf.span.start ∧
      leaf.span.stop ≤ node.span.stop := by
  intro leaf selected
  have tile := tile_leaves node lies.stands
  have member := (prose_sublist_leaves node).mem selected
  refine ⟨start_le_of_stand_at tile.stand leaf member, ?_⟩
  rw [stop_of_stands_at lies.stands, ← tile.spelt]
  exact stop_le_of_stand_at tile.stand leaf member

end Node

/-- That the tree of a document was read from its text: blocks that tile the text stand below a root
that spans them. -/
def Document.IsRead (document : Document) : Prop :=
  ∃ blocks, document.tree = Node.spanning .document 0 blocks ∧ Node.Tile 0 blocks document.text

theorem Document.IsRead.select_lies {document : Document} (read : document.IsRead) {p : Node → Bool}
    (unlike_root : ∀ span children, p (.branch .document span children) = false) {node : Node}
    (selected : node ∈ document.select p) : node.LiesIn document.text := by
  obtain ⟨blocks, root, tile⟩ := read
  rw [select, root, Node.select, List.mem_filter] at selected
  obtain ⟨member, wanted⟩ := selected
  cases blocks with
  | nil =>
      rw [Node.spanning, Node.nodes_branch, List.flatMap_nil, List.mem_singleton] at member
      rw [member, unlike_root] at wanted
      cases wanted
  | cons first rest =>
      rw [Node.spanning, Node.nodes_branch, List.mem_cons] at member
      rcases member with same | below
      · rw [same, unlike_root] at wanted
        cases wanted
      · exact Node.lies_in_of_tile tile.stand (tile.spelt ▸ List.prefix_rfl) node below

theorem Document.IsRead.prose_holds {document : Document} (read : document.IsRead) {leaf : Node}
    (selected : leaf ∈ document.select Node.isProse) :
    leaf.raw <+: document.text.drop leaf.span.start := by
  have prose : leaf.isProse = true := (List.mem_filter.mp selected).2
  obtain ⟨-, holds, -⟩ := (read.select_lies (fun _ _ => rfl) selected).prose prose
  exact holds

end ProseLinter
