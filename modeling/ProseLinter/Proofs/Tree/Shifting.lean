import ProseLinter.Node

/-!
# Trees further down a text

A tree that is read from a part of a text holds offsets that count from the start of that part. To
shift it is to count them from the start of the text, at every depth; nothing else of it changes,
and a branch that spans its children goes with them.
-/

namespace ProseLinter.Node

mutual

/-- The tree with every offset in it further on by the same number. -/
def shift (offset : Nat) : Node → Node
  | leaf kind start raw => leaf kind (offset + start) raw
  | branch kind span children => branch kind (span.shift offset) (shiftAll offset children)

def shiftAll (offset : Nat) : List Node → List Node
  | [] => []
  | node :: rest => shift offset node :: shiftAll offset rest

end

variable (offset : Nat)

theorem shiftAll_eq_map (nodes : List Node) : shiftAll offset nodes = nodes.map (shift offset) := by
  induction nodes with
  | nil => rfl
  | cons node rest induction => rw [shiftAll, List.map_cons, induction]

@[simp]
theorem shift_leaf (kind : LeafKind) (start : Nat) (raw : Text) :
    (leaf kind start raw).shift offset = leaf kind (offset + start) raw := by
  rw [shift]

@[simp]
theorem shift_branch (kind : BranchKind) (span : Span) (children : List Node) :
    (branch kind span children).shift offset = branch kind (span.shift offset)
    (children.map (shift offset)) := by
  rw [shift, shiftAll_eq_map]

theorem span_shift (node : Node) : (node.shift offset).span = node.span.shift offset := by
  cases node with
  | leaf kind start raw =>
      rw [shift_leaf, span, span, Span.shift, Span.ofLength]
      simp only [Span.ofLength, Nat.add_assoc]
  | branch kind own children => rw [shift_branch, span, span]

theorem getLastD_shift (first : Node) (rest : List Node) :
    ((first :: rest).map (shift offset)).getLastD (first.shift offset) =
      ((first :: rest).getLastD first).shift offset := by
  rw [List.getLastD_eq_getLast?, List.getLastD_eq_getLast?, List.getLast?_map, Option.getD_map]

theorem spanning_shift (kind : BranchKind) (start : Nat) (nodes : List Node) :
    spanning kind (offset + start)
    (nodes.map (shift offset)) = (spanning kind start nodes).shift offset := by
  cases nodes with
  | nil => rw [List.map_nil, spanning, spanning, shift_branch]; rfl
  | cons first rest =>
      have last := getLastD_shift offset first rest
      rw [List.map_cons] at last
      rw [List.map_cons, spanning, spanning, shift_branch, List.map_cons]
      simp only [last, span_shift, Span.shift, Span.ofLength, Nat.add_sub_add_left, Nat.add_assoc]

@[simp]
theorem children_spanning (kind : BranchKind) (start : Nat) (nodes : List Node) :
    (spanning kind start nodes).children = nodes := by
  cases nodes <;> rfl

@[simp]
theorem isBranch_spanning (p : BranchKind → Bool) (kind : BranchKind) (start : Nat)
    (nodes : List Node) :
    (spanning kind start nodes).isBranch p = p kind := by
  cases nodes <;> rfl

end ProseLinter.Node
