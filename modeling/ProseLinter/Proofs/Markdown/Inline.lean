import ProseLinter.Markdown.Inline
import ProseLinter.Proofs.Tree.Tiling

/-!
# Inline text is tiled by its nodes

The reader of inline text goes from left to right and asks at each code point whether a mark begins
there. Its four equations say what it does with the answer. Every one of them puts a node before the
nodes of what follows, so the nodes tile the text wherever it stands.
-/

namespace ProseLinter.Markdown

section Equations

variable {offset : Nat} {c : Char} {rest after : Text}

theorem inline_nil (offset : Nat) : inline offset [] = [] := by rw [inline]

theorem inline_code {raw : Text} (found : mark? (c :: rest) = some (.code raw, after)) :
    inline offset (c :: rest) = .leaf .code offset raw :: inline (offset + raw.length) after := by
  rw [inline]
  split <;> simp_all

theorem inline_image {alt : Text} {destination : Destination}
    (found : mark? (c :: rest) = some (.image alt destination, after)) :
    inline offset (c :: rest) =
      labelledNode (.image destination.address) offset ['!', '['] alt
        (if alt.isEmpty then [] else [.leaf .prose (offset + 2) alt]) destination ::
          inline (offset + (InlineMark.image alt destination).raw.length) after := by
  rw [inline]
  split <;> simp_all

theorem inline_link {label : Text} {destination : Destination}
    (found : mark? (c :: rest) = some (.link label destination, after)) :
    inline offset (c :: rest) =
      labelledNode (.link destination.address) offset ['['] label
        (inline (offset + 1) label) destination ::
          inline (offset + (InlineMark.link label destination).raw.length) after := by
  rw [inline]
  split <;> simp_all

theorem inline_prose (found : mark? (c :: rest) = none) :
    inline offset (c :: rest) = prependProse offset c (inline (offset + 1) rest) := by
  rw [inline]
  split <;> simp_all

end Equations

open Node (Tile)

theorem labelled_tile (kind : BranchKind) {offset : Nat} {opening label : Text}
    {labelNodes : List Node} (some_opening : opening ≠ [])
    (tile : Tile (offset + opening.length) labelNodes label) (destination : Destination) :
    Tile offset [labelledNode kind offset opening label labelNodes destination]
      ((opening ++ label) ++ ']' :: destination.raw) := by
  rw [labelledNode]
  apply Tile.spanning
  · have front := (Tile.leaf .markup offset some_opening).cons tile
    apply front.append
    rw [List.length_append, ← Nat.add_assoc]
    exact Tile.leaf .markup _ (List.cons_ne_nil _ _)
  · simp

theorem prepend_tile {offset : Nat} {nodes : List Node} {text : Text} (c : Char)
    (tile : Tile (offset + 1) nodes text) :
    Tile offset (prependProse offset c nodes) (c :: text) := by
  have single : Tile offset [.leaf .prose offset [c]] [c] :=
    Tile.leaf .prose offset (List.cons_ne_nil c [])
  unfold prependProse
  split
  next start raw rest =>
    obtain ⟨⟨⟨rfl, -⟩, stand⟩, spelt⟩ := tile
    have length : offset + (c :: raw).length = offset + 1 + raw.length := by
      rw [List.length_cons]
      omega
    constructor
    · exact ⟨⟨rfl, List.cons_ne_nil c raw⟩, length ▸ stand⟩
    · rw [← spelt]
      rfl
  next => exact single.cons tile

/-- The nodes of inline text tile it. The induction is that of the reader, which reads the label of
a link by itself. -/
theorem inline_tile (offset : Nat) (text : Text) : Tile offset (inline offset text) text := by
  induction offset, text using inline.induct with
  | case1 offset => rw [inline_nil]; exact Tile.nil offset
  | case2 offset c rest raw after found induction =>
      obtain ⟨whole, some_text⟩ := mark?_append found
      rw [inline_code found, ← whole]
      exact (Tile.leaf .code offset some_text).cons induction
  | case3 offset c rest alt destination after found induction =>
      obtain ⟨whole, -⟩ := mark?_append found
      have altTile := Tile.optional_leaf .prose (offset + 2) alt
      have node :=
        labelled_tile (.image destination.address) (List.cons_ne_nil '!' ['[']) altTile destination
      rw [inline_image found, ← whole]
      exact node.cons induction
  | case4 offset c rest label destination after found labelInduction induction =>
      obtain ⟨whole, -⟩ := mark?_append found
      have node :=
        labelled_tile (.link destination.address)
          (List.cons_ne_nil '[' []) labelInduction destination
      rw [inline_link found, ← whole]
      exact node.cons induction
  | case5 offset c rest found induction =>
      rw [inline_prose found]
      exact prepend_tile c induction

end ProseLinter.Markdown
