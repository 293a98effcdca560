import ProseLinter.Proofs.Markdown.Inline
import ProseLinter.Proofs.Markdown.Marks
import ProseLinter.Proofs.Markdown.NextBlock
import ProseLinter.Proofs.Text.LineTiling

/-!
# Markdown blocks tile their lines

Each kind of block tiles the lines it is made from. One step of the reader takes such lines off the
front of those that are left, so the blocks of a whole run tile the text, with strict and with
lenient reading alike.
-/

namespace ProseLinter.Markdown

open Node (Tile)
open Line (Follow wholeText follow_append flat_map_tile with_ending indented_tile whole_text_ne_nil)

theorem text_line_tile (line : Line) : Tile line.start (textLine line) line.whole :=
  indented_tile (inline_tile line.unindentedStart line.unindented)

theorem header_tile {line : Line} {mark : HeaderMark} (found : header? line.content = some mark) :
    Tile line.start [headerBlock line mark] line.whole := by
  have some_opening := header_opening_ne_nil found
  have content : Tile line.start
      (.leaf .markup line.start mark.opening ::
        inline (line.start + mark.opening.length) mark.title) line.content := by
    rw [← header_append found]
    exact (Tile.leaf .markup line.start some_opening).cons (inline_tile _ mark.title)
  apply (with_ending content).spanning
  rw [Line.whole, ← header_append found]
  exact List.append_ne_nil_of_left_ne_nil (List.append_ne_nil_of_left_ne_nil some_opening _) _

theorem fence_line_tile {line : Line} (some_content : line.content ≠ []) :
    Tile line.start (fenceLine line) line.whole :=
  with_ending (Tile.leaf .markup line.start some_content)

theorem rule_tile {line : Line} (some_content : line.content ≠ []) :
    Tile line.start [ruleBlock line] line.whole :=
  (fence_line_tile some_content).spanning .horizontalRule line.start
    (List.append_ne_nil_of_left_ne_nil some_content _)

theorem code_line_tile (line : Line) : Tile line.start (codeLine line) line.whole :=
  with_ending (line.content_tile .codeText)

theorem quote_line_tile {line : Line} (found : (quote? line.content).isSome = true) :
    Tile line.start (quoteLine line) line.whole := by
  obtain ⟨⟨mark, text⟩, quoted⟩ := Option.isSome_iff_exists.1 found
  obtain ⟨whole, some_mark⟩ := quote_append quoted
  simp only [quoteLine, quoted]
  apply with_ending
  rw [← whole]
  exact (Tile.leaf .markup line.start some_mark).cons (inline_tile _ text)

theorem item_line_tile {line : Line} {mark : ItemMark} (found : item? line.content = some mark) :
    Tile line.start (itemLine line mark) line.whole := by
  obtain ⟨whole, some_marker⟩ := item_append found
  have indent := Tile.optional_leaf .whiteSpace line.start mark.indent
  have opening : Tile (line.start + mark.indent.length)
      [.leaf .markup (line.start + mark.indent.length) (mark.marker ++ mark.spacing)]
        (mark.marker ++ mark.spacing) :=
    Tile.leaf .markup _ (List.append_ne_nil_of_left_ne_nil some_marker _)
  have content := indent.append (opening.cons (inline_tile _ mark.text))
  rw [whole] at content
  exact with_ending content

theorem gather_tile {offset : Nat} {lines : List Line} (follow : Follow offset lines) :
    ∃ before items, Tile offset (gatherItems lines).1 before ∧
      Tile (offset + before.length) (gatherItems lines).2 items ∧
      before ++ items = wholeText lines := by
  induction lines generalizing offset with
  | nil => exact ⟨[], [], Tile.nil offset, Tile.nil _, rfl⟩
  | cons line rest induction =>
      obtain ⟨before, items, pendingTile, itemsTile, whole⟩ := induction (Line.follow_rest follow)
      obtain ⟨rfl, some_text, -⟩ := follow
      rw [Nat.add_assoc, ← List.length_append] at itemsTile
      rw [Line.whole_text_cons, ← whole, ← List.append_assoc]
      simp only [gatherItems]
      cases found : item? line.content with
      | some mark =>
          have item := ((item_line_tile found).append pendingTile).spanning
            (.listItem mark.ordered mark.indent.length) line.start
              (List.append_ne_nil_of_left_ne_nil some_text _)
          exact ⟨[], _, Tile.nil _, item.cons itemsTile, rfl⟩
      | none => exact ⟨_, items, (text_line_tile line).append pendingTile, itemsTile, rfl⟩

/-- A list opens with an item, so no line stands before its first item. -/
theorem gather_pending_nil {line : Line} (rest : List Line)
    (found : (item? line.content).isSome = true) :
    (gatherItems (line :: rest)).1 = [] := by
  obtain ⟨mark, opened⟩ := Option.isSome_iff_exists.1 found
  simp only [gatherItems, opened]

theorem list_tile {offset : Nat} {line : Line} {rest : List Line}
    (follow : Follow offset (line :: rest)) (found : (item? line.content).isSome = true) :
    Tile offset [listBlock (line :: rest)] (wholeText (line :: rest)) := by
  obtain ⟨before, items, pendingTile, itemsTile, whole⟩ := gather_tile follow
  have empty : before = [] := by
    rw [← pendingTile.spelt, gather_pending_nil rest found]
    rfl
  subst empty
  rw [List.nil_append] at whole
  subst whole
  exact itemsTile.spanning _ _ (whole_text_ne_nil follow)

theorem code_tile {offset : Nat} {opening : Line} {inside : List Line} {closing : Option Line}
    (fence : Fence) (follow : Follow offset (opening :: inside ++ closing.toList))
    (some_opening : opening.content ≠ []) (some_closing : ∀ line ∈ closing, line.content ≠ []) :
    Tile offset [codeBlock opening fence inside closing]
    (wholeText (opening :: inside ++ closing.toList)) := by
  obtain ⟨front, back⟩ := follow_append.1 follow
  have openingTile := fence_line_tile some_opening
  have insideTile :=
    flat_map_tile codeLine (Line.follow_rest front) fun line _ _ => code_line_tile line
  have closingTile := flat_map_tile fenceLine back fun line member _ =>
    fence_line_tile (some_closing line (Option.mem_toList.1 member))
  have closingNodes : closing.toList.flatMap fenceLine = closing.elim [] fenceLine := by
    cases closing with
    | none => rfl
    | some line => exact List.flatMap_singleton fenceLine line
  obtain ⟨rfl, some_text, -⟩ := front
  have nodes := (openingTile.append insideTile).append closingTile
  rw [closingNodes] at nodes
  rw [Line.whole_text_append, Line.whole_text_cons]
  exact nodes.spanning _ opening.start
    (List.append_ne_nil_of_left_ne_nil (List.append_ne_nil_of_left_ne_nil some_text _) _)

theorem quote_tile {offset : Nat} {line : Line} {more : List Line}
    (follow : Follow offset (line :: more))
    (quoted : ∀ next ∈ line :: more, (quote? next.content).isSome = true) :
    Tile offset [quoteBlock (line :: more)] (wholeText (line :: more)) :=
  (flat_map_tile quoteLine follow fun next member _ =>
    quote_line_tile (quoted next member)).spanning .blockQuote _
    (whole_text_ne_nil follow)

theorem paragraph_tile {offset : Nat} {line : Line} {more : List Line}
    (follow : Follow offset (line :: more)) :
    Tile offset [paragraphBlock (line :: more)] (wholeText (line :: more)) :=
  (flat_map_tile textLine follow fun next _ _ => text_line_tile next).spanning .paragraph
    _ (whole_text_ne_nil follow)

theorem single_tile {offset : Nat} {line : Line} {nodes : List Node} (follow : Follow offset [line])
    (tile : Tile line.start nodes line.whole) : Tile offset nodes (wholeText [line]) := by
  obtain ⟨rfl, -⟩ := follow
  rw [Line.whole_text_cons, Line.whole_text_nil, List.append_nil]
  exact tile

theorem next_tile {strict : Bool} {offset : Nat} {taken after : List Line} {block : Node}
    (next : NextBlock strict taken after block) (follow : Follow offset taken) :
    Tile offset [block] (wholeText taken) := by
  cases next with
  | blank line _ blank => exact single_tile follow (Line.blank_tile follow.2.1)
  | closedCode line inside _ closing notBlank fence opens open_inside closes =>
      apply code_tile fence follow (content_ne_nil notBlank)
      intro other same
      rw [← Option.mem_some.1 same]
      exact closing_ne_nil opens closes
  | openCode line inside notBlank fence opens open_inside lenient =>
      rw [← List.append_nil (line :: inside)] at follow ⊢
      apply code_tile fence follow (content_ne_nil notBlank)
      intro other absent
      simp at absent
  | header line _ notBlank notFence mark opens => exact single_tile follow (header_tile opens)
  | rule line _ notBlank notFence notHeader isRule =>
      exact single_tile follow (rule_tile (content_ne_nil notBlank))
  | quote line more _ notBlank notFence notHeader notRule opens goes_on stops =>
      exact quote_tile follow (List.forall_mem_cons.2 ⟨opens, goes_on⟩)
  | list line more _ notBlank notFence notHeader notRule notQuote opens goes_on stops =>
      exact list_tile follow opens
  | paragraph line more _ notBlank notFence notHeader notRule notQuote notItem goes_on stops =>
      exact paragraph_tile follow

theorem blocks_tile {strict : Bool} {lines : List Line} {nodes : List Node}
    (read : blocks strict lines = .ok nodes) :
    ∀ offset, Follow offset lines → Tile offset nodes (wholeText lines) := by
  refine blocks_induction (motive := fun lines nodes => ∀ offset, Follow offset lines →
    Tile offset nodes (wholeText lines)) ?finish ?step read
  case finish => exact fun offset _ => Tile.nil offset
  case step =>
    intro taken after block more next induction offset follow
    obtain ⟨front, back⟩ := follow_append.1 follow
    rw [Line.whole_text_append]
    exact (next_tile next front).cons (induction _ back)

end ProseLinter.Markdown
