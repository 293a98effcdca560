import ProseLinter.Proofs.Markdown.Inline
import ProseLinter.Proofs.Markdown.NextBlock
import ProseLinter.Proofs.Text.LineJoining
import ProseLinter.Proofs.Tree.Shifting

/-!
# Markdown further down a text

What the reader makes of lines depends on what they hold and not on where they stand. The same lines
further down are read as the same blocks, shifted, and the fault of a fence that is never closed
stands as many lines further down.
-/

namespace ProseLinter

/-- The fault so many lines further down, in the same column. -/
def ParseFault.lower (down : Nat) (fault : ParseFault) : ParseFault :=
  { fault with
    position := fault.position.map fun position => { position with line := down + position.line } }

namespace Line

variable (down offset : Nat) (line : Line)

theorem endingLeaves_shift : (line.shift down offset).endingLeaves =
    line.endingLeaves.map (Node.shift offset) := by
  have stop : (line.shift down offset).contentEnd = offset + line.contentEnd :=
    Nat.add_assoc offset line.start _
  rw [endingLeaves, endingLeaves, ending_shift, stop]
  split
  · rfl
  · rw [List.map_singleton, Node.shift_leaf]

theorem contentLeaves_shift (kind : LeafKind) :
    (line.shift down offset).contentLeaves kind =
      (line.contentLeaves kind).map (Node.shift offset) := by
  rw [contentLeaves, contentLeaves, content_shift]
  split
  · rfl
  · rw [List.map_singleton, Node.shift_leaf]
    rfl

theorem indentLeaves_shift : (line.shift down offset).indentLeaves =
    line.indentLeaves.map (Node.shift offset) := by
  rw [indentLeaves, indentLeaves, content_shift]
  split
  · rfl
  · rw [List.map_singleton, Node.shift_leaf]
    rfl

theorem blankBlock_shift : (line.shift down offset).blankBlock = line.blankBlock.shift offset := by
  rw [blankBlock, contentLeaves_shift, endingLeaves_shift, ← List.map_append]
  exact Node.spanning_shift _ .blank line.start _

end Line

namespace Markdown

open Node (shift shift_leaf spanning_shift)

section Inline

variable (offset start : Nat)

theorem prepend_shift (c : Char) (nodes : List Node) :
    prependProse (offset + start) c (nodes.map (shift offset)) =
      (prependProse start c nodes).map (shift offset) := by
  match nodes with
  | [] => simp [prependProse]
  | .leaf kind other raw :: rest => cases kind <;> simp [prependProse]
  | .branch kind span below :: rest => simp [prependProse]

theorem labelled_shift (kind : BranchKind) (opening label : Text) (nodes : List Node)
    (destination : Destination) :
    labelledNode kind (offset + start) opening label (nodes.map (shift offset)) destination =
      (labelledNode kind start opening label nodes destination).shift offset := by
  rw [labelledNode, labelledNode, ← spanning_shift]
  simp only [List.map_append, List.map_cons, List.map_nil, shift_leaf, Nat.add_assoc]

theorem optional_leaf_shift (kind : LeafKind) (raw : Text) :
    (if raw.isEmpty then [] else [Node.leaf kind (offset + start) raw]) =
      (if raw.isEmpty then [] else [Node.leaf kind start raw]).map (shift offset) := by
  split
  · rfl
  · rw [List.map_singleton, shift_leaf]

/-- The nodes of inline text go with it. The induction is that of the reader. -/
theorem inline_shift (text : Text) :
    inline (offset + start) text = (inline start text).map (shift offset) := by
  induction start, text using inline.induct with
  | case1 start => rw [inline_nil, inline_nil, List.map_nil]
  | case2 start c rest raw after found induction =>
      rw [inline_code found, inline_code found, Nat.add_assoc, induction, List.map_cons, shift_leaf]
  | case3 start c rest alt destination after found induction =>
      rw [inline_image found, inline_image found, Nat.add_assoc, Nat.add_assoc, optional_leaf_shift,
        labelled_shift, induction, List.map_cons]
  | case4 start c rest label destination after found labelInduction induction =>
      rw [inline_link found, inline_link found, Nat.add_assoc, Nat.add_assoc, labelInduction,
        induction, labelled_shift, List.map_cons]
  | case5 start c rest found induction =>
      rw [inline_prose found, inline_prose found, Nat.add_assoc, induction, prepend_shift]

end Inline

section Blocks

variable (down offset : Nat) (line : Line) (rest : List Line)

theorem textLine_shift : textLine (line.shift down offset) =
    (textLine line).map (shift offset) := by
  have start : (line.shift down offset).unindentedStart = offset + line.unindentedStart :=
    Nat.add_assoc offset line.start _
  rw [textLine, textLine, Line.indentLeaves_shift, start, inline_shift, Line.endingLeaves_shift,
    List.map_append, List.map_append]
  rfl

theorem fenceLine_shift : fenceLine (line.shift down offset) =
    (fenceLine line).map (shift offset) := by
  rw [fenceLine, fenceLine, Line.endingLeaves_shift, List.map_cons, shift_leaf]
  rfl

theorem codeLine_shift : codeLine (line.shift down offset) =
    (codeLine line).map (shift offset) := by
  rw [codeLine, codeLine, Line.contentLeaves_shift, Line.endingLeaves_shift, List.map_append]

theorem quoteLine_shift : quoteLine (line.shift down offset) =
    (quoteLine line).map (shift offset) := by
  rw [quoteLine, quoteLine, Line.content_shift]
  cases quote? line.content with
  | none => rfl
  | some quoted =>
      dsimp only
      rw [Line.start_shift, Nat.add_assoc, inline_shift, Line.endingLeaves_shift, List.map_append,
        List.map_cons, shift_leaf]

theorem itemLine_shift (mark : ItemMark) :
    itemLine (line.shift down offset) mark = (itemLine line mark).map (shift offset) := by
  rw [itemLine, itemLine, Line.start_shift, Nat.add_assoc, Nat.add_assoc, optional_leaf_shift,
    inline_shift, Line.endingLeaves_shift, List.map_append, List.map_append, List.map_cons,
    shift_leaf]

theorem headerBlock_shift (mark : HeaderMark) :
    headerBlock (line.shift down offset) mark = (headerBlock line mark).shift offset := by
  rw [headerBlock, headerBlock, ← spanning_shift, Line.start_shift, Nat.add_assoc, inline_shift,
    Line.endingLeaves_shift, List.map_append, List.map_cons, shift_leaf]

theorem ruleBlock_shift : ruleBlock (line.shift down offset) = (ruleBlock line).shift offset := by
  have nodes := fenceLine_shift down offset line
  rw [fenceLine, fenceLine] at nodes
  rw [ruleBlock, ruleBlock, nodes]
  exact spanning_shift _ .horizontalRule line.start _

theorem flatMap_shift {nodesOf : Line → List Node}
    (each : ∀ line : Line, nodesOf (line.shift down offset) = (nodesOf line).map (shift offset))
    (lines : List Line) :
    (lines.map (Line.shift down offset)).flatMap nodesOf =
      (lines.flatMap nodesOf).map (shift offset) := by
  rw [List.flatMap_map, List.map_flatMap]
  exact List.flatMap_congr fun line _ => each line

theorem gatherItems_shift (lines : List Line) :
    gatherItems (lines.map (Line.shift down offset)) =
      ((gatherItems lines).1.map (shift offset), (gatherItems lines).2.map (shift offset)) := by
  induction lines with
  | nil => rfl
  | cons line rest induction =>
      rw [List.map_cons, gatherItems, gatherItems, induction, Line.content_shift]
      cases item? line.content with
      | none =>
          dsimp only
          rw [textLine_shift, List.map_append]
      | some mark =>
          dsimp only
          rw [itemLine_shift, Line.start_shift, ← List.map_append, spanning_shift, List.map_cons,
            List.map_nil]

theorem firstOrdered_shift (items : List Node) :
    firstOrdered (items.map (shift offset)) = firstOrdered items := by
  match items with
  | [] => rfl
  | .leaf _ _ _ :: _ => simp [firstOrdered]
  | .branch kind _ _ :: _ => cases kind <;> simp [firstOrdered]

theorem listBlock_shift :
    listBlock ((line :: rest).map (Line.shift down offset)) =
      (listBlock (line :: rest)).shift offset := by
  rw [listBlock, listBlock, gatherItems_shift]
  dsimp only
  rw [firstOrdered_shift]
  exact spanning_shift _ _ line.start _

theorem quoteBlock_shift :
    quoteBlock ((line :: rest).map (Line.shift down offset)) =
      (quoteBlock (line :: rest)).shift offset := by
  rw [quoteBlock, quoteBlock, flatMap_shift down offset (quoteLine_shift down offset)]
  exact spanning_shift _ .blockQuote line.start _

theorem paragraphBlock_shift :
    paragraphBlock ((line :: rest).map (Line.shift down offset)) =
      (paragraphBlock (line :: rest)).shift offset := by
  rw [paragraphBlock, paragraphBlock, flatMap_shift down offset (textLine_shift down offset)]
  exact spanning_shift _ .paragraph line.start _

theorem codeBlock_shift (fence : Fence) (inside : List Line) (closing : Option Line) :
    codeBlock (line.shift down offset) fence (inside.map (Line.shift down offset))
        (closing.map (Line.shift down offset)) =
          (codeBlock line fence inside closing).shift offset := by
  have closed : (closing.map (Line.shift down offset)).elim [] fenceLine =
      (closing.elim [] fenceLine).map (shift offset) := by
    cases closing with
    | none => rfl
    | some last => exact fenceLine_shift down offset last
  rw [codeBlock, codeBlock, fenceLine_shift,
    flatMap_shift down offset (codeLine_shift down offset), closed, Option.isSome_map,
    ← List.map_append, ← List.map_append]
  exact spanning_shift _ _ line.start _

end Blocks

section Run

variable {strict : Bool} {taken after lines : List Line} {block : Node} {fault : ParseFault}
  {test : Line → Bool}

theorem stops_at_shift (down offset : Nat)
    (indifferent : ∀ line : Line, test (line.shift down offset) = test line)
    (stops : StopsAt test lines) : StopsAt test (lines.map (Line.shift down offset)) := by
  cases lines with
  | nil => exact stops
  | cons line rest =>
      intro first head
      rw [List.map_cons, List.head?_cons, Option.mem_some] at head
      rw [← head, indifferent]
      exact stops line rfl

theorem goes_on_shift (down offset : Nat)
    (indifferent : ∀ line : Line, test (line.shift down offset) = test line) {answer : Bool}
    (goes_on : ∀ line ∈ lines, test line = answer) :
    ∀ line ∈ lines.map (Line.shift down offset), test line = answer := by
  intro line member
  obtain ⟨own, there, same⟩ := List.mem_map.mp member
  rw [← same, indifferent]
  exact goes_on own there

theorem NextBlock.shift (next : NextBlock strict taken after block) (down offset : Nat) :
    NextBlock strict (taken.map (Line.shift down offset)) (after.map (Line.shift down offset))
    (block.shift offset) := by
  cases next with
  | blank line _ blank =>
      rw [← Line.blankBlock_shift down]
      exact .blank (line.shift down offset) _ blank
  | closedCode line inside _ closing notBlank fence opens open_inside closes =>
      rw [← codeBlock_shift down, List.map_append, List.map_cons]
      exact .closedCode (line.shift down offset) _ _ (closing.shift down offset)
        notBlank fence opens (goes_on_shift down offset (fun _ => rfl) open_inside) closes
  | openCode line inside notBlank fence opens open_inside lenient =>
      rw [← codeBlock_shift down, List.map_cons]
      exact .openCode (line.shift down offset) _ notBlank fence opens
        (goes_on_shift down offset (fun _ => rfl) open_inside) lenient
  | header line _ notBlank notFence mark opens =>
      rw [← headerBlock_shift down]
      exact .header (line.shift down offset) _ notBlank notFence mark opens
  | rule line _ notBlank notFence notHeader isRule =>
      rw [← ruleBlock_shift down]
      exact .rule (line.shift down offset) _ notBlank notFence notHeader isRule
  | quote line more _ notBlank notFence notHeader notRule opens goes_on stops =>
      rw [← quoteBlock_shift down]
      exact .quote (line.shift down offset) _ _ notBlank notFence notHeader notRule opens
        (goes_on_shift down offset (fun _ => rfl) goes_on)
          (stops_at_shift down offset (fun _ => rfl) stops)
  | list line more _ notBlank notFence notHeader notRule notQuote opens goes_on stops =>
      rw [← listBlock_shift down]
      exact .list (line.shift down offset) _ _ notBlank notFence notHeader notRule notQuote opens
        (goes_on_shift down offset (fun _ => rfl) goes_on)
          (stops_at_shift down offset (fun _ => rfl) stops)
  | paragraph line more _ notBlank notFence notHeader notRule notQuote notItem goes_on stops =>
      rw [← paragraphBlock_shift down]
      exact .paragraph (line.shift down offset) _ _ notBlank notFence notHeader notRule
        notQuote notItem (goes_on_shift down offset (fun _ => rfl) goes_on)
          (stops_at_shift down offset (fun _ => rfl) stops)

theorem Unclosed.shift (stops : Unclosed strict lines fault) (down offset : Nat) :
    Unclosed strict (lines.map (Line.shift down offset)) (fault.lower down) := by
  obtain ⟨strictly, line, rest, fence, rfl, notBlank, opens, open_inside, rfl⟩ := stops
  refine ⟨strictly, line.shift down offset, _, fence, rfl, notBlank, opens,
    goes_on_shift down offset (fun _ => rfl) open_inside, ?_⟩
  simp [ParseFault.lower, unclosed, Line.shift]

theorem blocks_shift (strict : Bool) (lines : List Line) (down offset : Nat) :
    blocks strict (lines.map (Line.shift down offset)) =
      ((blocks strict lines).map (List.map (Node.shift offset))).mapError
        (ParseFault.lower down) := by
  refine reader_induction strict (motive :=
    fun lines result => blocks strict (lines.map (Line.shift down offset)) =
    (result.map (List.map (Node.shift offset))).mapError (ParseFault.lower down)) ?finish
      ?stop ?step lines
  case finish =>
    rw [List.map_nil, blocks_nil]
    rfl
  case stop =>
    intro lines fault stops
    rw [blocks_of_unclosed (stops.shift down offset)]
    rfl
  case step =>
    intro taken after block next induction
    rw [List.map_append, blocks_of_next (next.shift down offset), induction]
    cases blocks strict after <;> rfl

end Run

end Markdown

end ProseLinter
