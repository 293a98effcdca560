import Mathlib.Data.List.TakeWhile
import ProseLinter.PlainText
import ProseLinter.Proofs.Text.LineTiling

/-!
# Plain text blocks tile their lines

A line of prose is not blank, so something is left of it behind its indentation, and no leaf of a
plain text is empty.
-/

namespace ProseLinter.PlainText

open Node (Tile)
open Line (Follow wholeText follow_append flat_map_tile indented_tile whole_text_ne_nil)

theorem unindented_ne_nil {line : Line} (notBlank : ¬line.content.blank = true) :
    line.unindented ≠ [] := by
  intro empty
  apply notBlank
  rw [Text.blank, List.all_eq_true]
  intro c member
  exact blank_of_space_or_tab (List.dropWhile_eq_nil_iff.1 empty c member)

theorem prose_line_tile {line : Line} (notBlank : ¬line.content.blank = true) :
    Tile line.start (proseLine line) line.whole := by
  have tile := indented_tile (Tile.leaf .prose line.unindentedStart (unindented_ne_nil notBlank))
  rw [List.append_assoc] at tile
  exact tile

theorem paragraph_tile {offset : Nat} {line : Line} {more : List Line}
    (follow : Follow offset (line :: more))
    (notBlank : ∀ next ∈ line :: more, ¬next.content.blank = true) :
    Tile offset [paragraphBlock (line :: more)] (wholeText (line :: more)) :=
  (flat_map_tile proseLine follow fun next member _ =>
    prose_line_tile (notBlank next member)).spanning .paragraph _
    (whole_text_ne_nil follow)

theorem blocks_tile {offset : Nat} {lines : List Line} (follow : Follow offset lines) :
    Tile offset (blocks lines) (wholeText lines) := by
  induction lines using blocks.induct generalizing offset with
  | case1 =>
      rw [blocks]
      exact Tile.nil offset
  | case2 line rest blank induction =>
      rw [blocks, if_pos blank, Line.whole_text_cons]
      have more := induction (Line.follow_rest follow)
      obtain ⟨rfl, some_text, -⟩ := follow
      exact (Line.blank_tile some_text).cons more
  | case3 line rest notBlank after =>
      rename_i induction
      have equal : line :: rest =
          (line :: rest.takeWhile fun next => !next.content.blank) ++ after := by
        rw [List.cons_append, List.takeWhile_append_dropWhile]
      have whole : wholeText (line :: rest) =
          wholeText (line :: rest.takeWhile fun next => !next.content.blank) ++
            wholeText after := by
        rw [← Line.whole_text_append, ← equal]
      rw [equal] at follow
      obtain ⟨front, back⟩ := follow_append.1 follow
      rw [blocks, if_neg notBlank, whole]
      refine (paragraph_tile front ?_).cons (induction back)
      intro next member
      rcases List.mem_cons.1 member with rfl | member
      · exact notBlank
      · have passed := List.all_eq_true.1 List.all_takeWhile next member
        simpa using passed

end ProseLinter.PlainText
