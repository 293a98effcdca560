import ProseLinter.PlainText
import ProseLinter.Proofs.Tree.Shifting
import ProseLinter.Proofs.Tree.Walk

/-!
# Code in trees

A tree holds code in two ways: as a block of it, and as a leaf among the inline text of a line.
Plain text is read without any.
-/

namespace ProseLinter

namespace Node

/-- Whether a node is code: a block of it, or code in inline text. -/
def isVerbatim : Node → Bool
  | leaf .code _ _ => true
  | leaf _ _ _ => false
  | branch kind _ _ => kind.isCodeBlock

@[simp]
theorem nodes_spanning (kind : BranchKind) (start : Nat) (below : List Node) :
    (spanning kind start below).nodes = spanning kind start below :: below.flatMap nodes := by
  rw [nodes_eq, children_spanning]

@[simp]
theorem isVerbatim_spanning (kind : BranchKind) (start : Nat) (below : List Node) :
    (spanning kind start below).isVerbatim = kind.isCodeBlock := by
  cases below <;> rfl

theorem nodes_optional_leaf {Holds : Node → Prop} {kind : LeafKind} {start : Nat} {raw : Text}
    (holds : Holds (leaf kind start raw)) :
    ∀ node ∈ (if raw.isEmpty then [] else [leaf kind start raw]).flatMap nodes, Holds node := by
  split
  · exact fun node member => absurd member List.not_mem_nil
  · rw [List.flatMap_singleton, nodes_leaf]
    exact List.forall_mem_singleton.mpr holds

end Node

namespace PlainText

theorem no_code_in_line (line : Line) :
    ∀ node ∈ (proseLine line).flatMap Node.nodes, node.isVerbatim = false := by
  rw [proseLine, List.flatMap_append, List.flatMap_cons, Node.nodes_leaf, List.forall_mem_append,
    List.singleton_append, List.forall_mem_cons]
  exact ⟨Node.nodes_optional_leaf rfl, rfl, Node.nodes_optional_leaf rfl⟩

theorem no_code_in_blocks (lines : List Line) :
    ∀ node ∈ (blocks lines).flatMap Node.nodes, node.isVerbatim = false := by
  induction lines using blocks.induct with
  | case1 =>
      rw [blocks]
      exact fun node member => absurd member List.not_mem_nil
  | case2 line rest blank induction =>
      rw [blocks, if_pos blank, List.flatMap_cons, List.forall_mem_append, Line.blankBlock,
        Node.nodes_spanning, List.forall_mem_cons, List.flatMap_append, List.forall_mem_append]
      exact ⟨⟨Node.isVerbatim_spanning _ _ _, Node.nodes_optional_leaf rfl,
        Node.nodes_optional_leaf rfl⟩, induction⟩
  | case3 line rest notBlank after =>
      rename_i induction
      rw [blocks, if_neg notBlank, List.flatMap_cons, List.forall_mem_append, paragraphBlock,
        Node.nodes_spanning, List.forall_mem_cons]
      refine ⟨⟨Node.isVerbatim_spanning _ _ _, ?_⟩, induction⟩
      intro node member
      rw [List.flatMap_assoc] at member
      obtain ⟨next, -, stands⟩ := List.mem_flatMap.mp member
      exact no_code_in_line next node stands

theorem no_code {text : Text} {tree : Node} (parsed : parse text = .ok tree) :
    tree.select Node.isVerbatim = [] := by
  unfold parse at parsed
  split at parsed
  · cases parsed
  · cases parsed
    rw [Node.select, Node.nodes_spanning, List.filter_eq_nil_iff, List.forall_mem_cons]
    refine ⟨by simp [BranchKind.isCodeBlock], fun node member => ?_⟩
    rw [no_code_in_blocks _ node member]
    exact Bool.false_ne_true

end PlainText

end ProseLinter
