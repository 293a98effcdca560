import ProseLinter.Markdown.Block
import ProseLinter.Proofs.Text.Lines
import ProseLinter.Proofs.Tree.Tiling

/-!
# Lines that are tiled by nodes

Both readers turn a line into nodes and put the nodes of lines that follow each other side by side.
The pieces of a line that both of them use are its indentation, its content and its terminator; the
nodes of a run of lines tile the run as soon as those of each line tile the line.
-/

namespace ProseLinter.Line

open Node (Tile)

theorem content_tile (line : Line) (kind : LeafKind) :
    Tile line.start (line.contentLeaves kind) line.content :=
  Tile.optional_leaf kind line.start line.content

theorem ending_tile (line : Line) :
    Tile (line.start + line.content.length) line.endingLeaves line.ending :=
  Tile.optional_leaf .lineBreak line.contentEnd line.ending

theorem indent_tile (line : Line) :
    Tile line.start line.indentLeaves (line.content.takeWhile isSpaceOrTab) :=
  Tile.optional_leaf .whiteSpace line.start _

theorem with_ending {line : Line} {nodes : List Node} (tile : Tile line.start nodes line.content) :
    Tile line.start (nodes ++ line.endingLeaves) line.whole :=
  tile.append line.ending_tile

theorem indented_tile {line : Line} {nodes : List Node}
    (tile : Tile line.unindentedStart nodes line.unindented) :
    Tile line.start (line.indentLeaves ++ nodes ++ line.endingLeaves) line.whole := by
  apply with_ending
  have both := line.indent_tile.append tile
  rw [unindented, List.takeWhile_append_dropWhile] at both
  exact both

theorem blank_tile {line : Line} (some_text : line.whole ≠ []) :
    Tile line.start [line.blankBlock] line.whole :=
  (with_ending (line.content_tile .whiteSpace)).spanning .blank line.start some_text

theorem flat_map_tile {offset : Nat} {lines : List Line} (nodesOf : Line → List Node)
    (follow : Follow offset lines)
    (tiled : ∀ line ∈ lines, line.whole ≠ [] → Tile line.start (nodesOf line) line.whole) :
    Tile offset (lines.flatMap nodesOf) (wholeText lines) := by
  induction lines generalizing offset with
  | nil => exact Tile.nil offset
  | cons line rest induction =>
      have more :=
        induction (follow_rest follow) fun other member =>
          tiled other (List.mem_cons_of_mem line member)
      obtain ⟨rfl, some_text, -⟩ := follow
      rw [List.flatMap_cons, whole_text_cons]
      exact (tiled line List.mem_cons_self some_text).append more

theorem whole_text_ne_nil {offset : Nat} {line : Line} {rest : List Line}
    (follow : Follow offset (line :: rest)) :
    wholeText (line :: rest) ≠ [] := by
  rw [whole_text_cons]
  exact List.append_ne_nil_of_left_ne_nil follow.2.1 _

end ProseLinter.Line
