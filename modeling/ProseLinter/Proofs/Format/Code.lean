import ProseLinter.Proofs.Format.Covering
import ProseLinter.Proofs.Markdown.Fencing
import ProseLinter.Proofs.Markdown.InlineLeaves

/-!
# Code in the trees of the built-in formats

Whichever built-in format reads a text, prose and code come in the order of the text and lie apart,
no line lies half in a block of code, and code in a line has no terminator in it and ends in a tick.
Plain text holds no code at all.
-/

namespace ProseLinter

namespace Node

variable {node : Node}

theorem isContent_eq (node : Node) : node.isContent = (node.isProse || node.isVerbatim) := by
  cases node with
  | leaf kind => cases kind <;> rfl
  | branch => rfl

theorem isContent_of_isVerbatim (code : node.isVerbatim = true) : node.isContent = true := by
  rw [isContent_eq, code, Bool.or_true]

theorem isContent_of_isProse (prose : node.isProse = true) : node.isContent = true := by
  rw [isContent_eq, prose, Bool.true_or]

theorem isVerbatim_of_isCode (code : node.isCode = true) : node.isVerbatim = true := by
  cases node with
  | leaf => cases code
  | branch => exact code

theorem not_verbatim_of_prose (prose : node.isProse = true) : node.isVerbatim = false := by
  obtain ⟨start, raw, same⟩ := isProse_iff.mp prose
  subst same
  rfl

theorem verbatim_cases (code : node.isVerbatim = true) :
    (∃ start raw, node = .leaf .code start raw) ∨ node.isCode = true := by
  cases node with
  | leaf kind start raw =>
      cases kind <;> simp [isVerbatim] at code
      exact .inl ⟨start, raw, rfl⟩
  | branch => exact .inr code

end Node

theorem Document.IsRead.prose_in_turn {document : Document} (read : document.IsRead) :
    (document.select Node.isProse).Pairwise fun earlier later => earlier.span.stop ≤
      later.span.start := by
  obtain ⟨blocks, root, tile⟩ := read
  have below : document.select Node.isProse = blocks.flatMap (Node.select Node.isProse) := by
    rw [select, root, Markdown.prose_of_spanning]
  have part : (blocks.flatMap (Node.select Node.isProse)).Sublist (blocks.flatMap Node.leaves) :=
    List.Sublist.flatMap_right blocks fun node _ => Node.prose_sublist_leaves node
  rw [below]
  exact (Node.in_turn_of_stand_at (Node.tile_leaves_all blocks tile.stand).stand).sublist part

namespace PlainText

variable {text : Text} {tree : Node}

theorem no_code_blocks (parsed : parse text = .ok tree) : tree.select Node.isCode = [] := by
  have none_verbatim := no_code parsed
  rw [Node.select, List.filter_eq_nil_iff] at none_verbatim ⊢
  exact fun node member code => none_verbatim node member (Node.isVerbatim_of_isCode code)

theorem code_spans_nil (parsed : parse text = .ok tree) : TrailingSpace.codeSpans tree = [] := by
  have none_code := no_code_blocks parsed
  rw [TrailingSpace.codeSpans, List.map_eq_nil_iff]
  exact none_code

theorem content_eq_prose (parsed : parse text = .ok tree) :
    tree.select Node.isContent = tree.select Node.isProse := by
  have none_verbatim := no_code parsed
  rw [Node.select, List.filter_eq_nil_iff] at none_verbatim
  refine List.filter_congr fun node member => ?_
  rw [Node.isContent_eq, Bool.eq_false_of_not_eq_true (none_verbatim node member), Bool.or_false]

end PlainText

namespace Format

open Node (isCode isContent isVerbatim)

variable {format : Format} {text raw : Text} {tree : Node}

theorem IsBuiltIn.lines_around_code (builtIn : format.IsBuiltIn)
    (parsed : format.parse text = .ok (.proper tree)) :
    ∀ node ∈ tree.select isCode, ∀ line ∈ text.lines, line.stop ≤ node.span.start ∨
      (node.span.start ≤ line.start ∧ line.stop ≤ node.span.stop) ∨
      node.span.stop ≤ line.start := by
  cases builtIn with
  | markdown strict =>
      obtain ⟨other, read, same⟩ := tree_of_reader parsed
      cases same
      exact Markdown.lines_around_code read
  | plainText =>
      obtain ⟨other, read, same⟩ := tree_of_reader parsed
      cases same
      rw [PlainText.no_code_blocks read]
      exact fun node member => absurd member List.not_mem_nil

theorem IsBuiltIn.code_leaf (builtIn : format.IsBuiltIn)
    (parsed : format.parse text = .ok (.proper tree)) {start : Nat}
    (member : .leaf .code start raw ∈ tree.nodes) :
    Line.Unbroken raw ∧ raw.getLast? = some Markdown.tick := by
  cases builtIn with
  | markdown strict =>
      obtain ⟨other, read, same⟩ := tree_of_reader parsed
      cases same
      exact Markdown.code_leaf_of_parse read member
  | plainText =>
      obtain ⟨other, read, same⟩ := tree_of_reader parsed
      cases same
      have selected : .leaf .code start raw ∈ tree.select isVerbatim :=
        List.mem_filter.mpr ⟨member, rfl⟩
      rw [PlainText.no_code read] at selected
      cases selected

theorem IsBuiltIn.content_in_turn (builtIn : format.IsBuiltIn)
    (parsed : format.parse text = .ok (.proper tree)) :
    (tree.select isContent).Pairwise fun earlier later => earlier.span.stop ≤ later.span.start := by
  have read_document : Document.IsRead ⟨"", text, tree, ""⟩ := builtIn.reads "" "" parsed
  cases builtIn with
  | markdown strict =>
      obtain ⟨other, read, same⟩ := tree_of_reader parsed
      cases same
      exact Markdown.content_in_turn read
  | plainText =>
      obtain ⟨other, read, same⟩ := tree_of_reader parsed
      cases same
      rw [PlainText.content_eq_prose read]
      exact read_document.prose_in_turn

theorem IsBuiltIn.code_in_turn (builtIn : format.IsBuiltIn)
    (parsed : format.parse text = .ok (.proper tree)) :
    (tree.select isVerbatim).Pairwise fun earlier later => earlier.span.stop ≤
      later.span.start := by
  have among : tree.select isVerbatim = (tree.select isContent).filter isVerbatim := by
    rw [Node.select, Node.select, List.filter_filter]
    refine List.filter_congr fun node _ => ?_
    rw [Bool.eq_iff_iff, Bool.and_eq_true]
    exact ⟨fun code => ⟨code, Node.isContent_of_isVerbatim code⟩, fun both => both.1⟩
  rw [among]
  exact (builtIn.content_in_turn parsed).filter isVerbatim

theorem IsBuiltIn.code_apart_from_prose (builtIn : format.IsBuiltIn)
    (parsed : format.parse text = .ok (.proper tree)) {leaf node : Node}
    (prose : leaf ∈ tree.select Node.isProse) (code : node ∈ tree.select isVerbatim) {place : Nat}
    (covered : leaf.span.covers place = true) : node.span.covers place = false := by
  obtain ⟨leaf_member, is_prose⟩ := List.mem_filter.mp prose
  obtain ⟨node_member, is_code⟩ := List.mem_filter.mp code
  rw [Bool.eq_false_iff]
  intro also_covered
  have same : leaf = node := Span.covered_once (builtIn.content_in_turn parsed)
    (List.mem_filter.mpr ⟨leaf_member, Node.isContent_of_isProse is_prose⟩)
    (List.mem_filter.mpr ⟨node_member, Node.isContent_of_isVerbatim is_code⟩) covered also_covered
  subst same
  rw [Node.not_verbatim_of_prose is_prose] at is_code
  cases is_code

end Format

end ProseLinter
