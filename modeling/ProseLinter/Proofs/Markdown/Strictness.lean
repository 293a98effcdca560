import ProseLinter.Proofs.Markdown.Fencing
import ProseLinter.Proofs.Text.Positions

/-!
# Strict and lenient reading

A strict reader goes the way of a lenient one until it comes to a fence that is never closed. There
the lenient reader takes all the lines that are left as one last block of code, and the strict one
stops, at the first character of that fence.
-/

namespace ProseLinter

/-- Whether a branch is a block of code whose fence is never closed. -/
def BranchKind.isUnclosed : BranchKind → Bool
  | codeBlock _ _ closed => !closed
  | _ => false

/-- Whether a node is a block of code whose fence is never closed. -/
def Node.isUnclosed (node : Node) : Bool := node.isBranch BranchKind.isUnclosed

namespace Markdown

open Node (isUnclosed)

/-- That the fence of a block of code begins at an offset: nothing but spaces stands before it in
the block, and from there on the text goes on with the fence itself. -/
def FenceBegins (text : Text) (block : Node) (offset : Nat) : Prop :=
  ∃ language marker closed span below,
    block = .branch (.codeBlock language marker closed) span below ∧
    span.start ≤ offset ∧ (∀ place, span.start ≤ place → place < offset → text[place]? = some ' ') ∧
    marker ≠ [] ∧ ' ' ∉ marker ∧ marker <+: text.drop offset

/-! ## One step, and a run -/

section Runs

variable {taken after lines : List Line} {block : Node} {nodes : List Node}

/-- What a lenient reader takes next a strict one takes as well, but for a fence that is never
closed. -/
theorem NextBlock.strictly (next : NextBlock false taken after block) :
    (NextBlock true taken after block ∧ block.isUnclosed = false) ∨
      ∃ opening inside fence, taken = opening :: inside ∧ after = [] ∧
      fence? opening.content = some fence ∧
        block = codeBlock opening fence inside none ∧
        Unclosed true taken (unclosed opening fence) := by
  have other {kind : BranchKind} {start : Nat} {below : List Node}
      (closed : kind.isUnclosed = false) : (Node.spanning kind start below).isUnclosed = false := by
    rw [isUnclosed, Node.isBranch_spanning, closed]
  cases next with
  | blank line _ blank => exact .inl ⟨.blank line _ blank, other rfl⟩
  | closedCode line inside _ closing notBlank fence opens open_inside closes =>
      exact .inl ⟨.closedCode line inside _ closing notBlank fence opens open_inside
        closes, other rfl⟩
  | openCode line inside notBlank fence opens open_inside lenient =>
      have stops : Unclosed true (line :: inside) (unclosed line fence) :=
        ⟨rfl, line, inside, fence, rfl, notBlank, opens, open_inside, rfl⟩
      exact .inr ⟨line, inside, fence, rfl, rfl, opens, rfl, stops⟩
  | header line _ notBlank notFence mark opens =>
      exact .inl ⟨.header line _ notBlank notFence mark opens, other rfl⟩
  | rule line _ notBlank notFence notHeader isRule =>
      exact .inl ⟨.rule line _ notBlank notFence notHeader isRule, other rfl⟩
  | quote line more _ notBlank notFence notHeader notRule opens goes_on stops =>
      exact .inl ⟨.quote line more _ notBlank notFence notHeader notRule opens goes_on
        stops, other rfl⟩
  | list line more _ notBlank notFence notHeader notRule notQuote opens goes_on stops =>
      exact .inl ⟨.list line more _ notBlank notFence notHeader notRule notQuote opens goes_on
        stops, other rfl⟩
  | paragraph line more _ notBlank notFence notHeader notRule notQuote notItem goes_on stops =>
      exact .inl ⟨.paragraph line more _ notBlank notFence notHeader notRule notQuote notItem
        goes_on stops, other rfl⟩

/-- A run in which a fence is left open: it opens on one of the lines, all behind it are in its
block, which is the last and the only one of its kind, and a strict run is stopped by it. -/
def LeavesOpen (lines : List Line) (nodes : List Node) : Prop :=
  ∃ closed before opening inside fence, lines = before ++ opening :: inside ∧
    fence? opening.content = some fence ∧
    nodes = closed ++ [codeBlock opening fence inside none] ∧ closed.filter isUnclosed = [] ∧
    blocks true lines = .error (unclosed opening fence)

theorem strict_of_lenient (read : blocks false lines = .ok nodes) :
    nodes.filter isUnclosed = [] ∧ blocks true lines = .ok nodes ∨ LeavesOpen lines nodes := by
  refine blocks_induction (motive := fun lines nodes =>
    nodes.filter isUnclosed = [] ∧ blocks true lines = .ok nodes ∨ LeavesOpen lines nodes)
      ?finish ?step read
  case finish => exact .inl ⟨rfl, blocks_nil true⟩
  case step =>
    intro taken after block more next induction
    rcases next.strictly with ⟨same, closed⟩ | ⟨opening, inside, fence, rfl, rfl, opens, rfl, stops⟩
    · rcases induction with ⟨all_closed, readStrictly⟩ |
        ⟨earlier, before, opening, inside, fence, rfl, opens, rfl, all_closed, stopped⟩
      · refine .inl ⟨?_, ?_⟩
        · rw [List.filter_cons_of_neg (by simp [closed]), all_closed]
        · rw [blocks_of_next same, readStrictly]
          rfl
      · refine .inr ⟨block :: earlier, taken ++ before, opening, inside, fence, ?_, opens, rfl,
          ?_, ?_⟩
        · rw [List.append_assoc]
        · rw [List.filter_cons_of_neg (by simp [closed]), all_closed]
        · rw [blocks_of_next same, stopped]
          rfl
    · -- No line is left behind such a fence, so the lenient run has nothing more to read.
      have nothing_more : more = [] := by
        rcases induction with ⟨-, readStrictly⟩ | ⟨earlier, before, opening, inside,
          fence, nothing, -⟩
        · rw [blocks_nil, Except.ok.injEq] at readStrictly
          exact readStrictly.symm
        · simp at nothing
      refine .inr ⟨[], [], opening, inside, fence, List.append_nil _, opens,
        by rw [nothing_more]; rfl, rfl, ?_⟩
      rw [List.append_nil]
      exact blocks_of_unclosed stops

theorem select_unclosed (read : blocks false lines = .ok nodes) :
    (Node.spanning .document 0 nodes).select isUnclosed = nodes.filter isUnclosed := by
  have asked : ∀ kind : BranchKind, kind.isUnclosed = true → kind.isBlock = true := by
    intro kind unclosed
    cases kind <;> first | rfl | cases unclosed
  exact select_at_top (blocks_are_flat read) asked (fun _ _ => rfl) rfl

end Runs

/-! ## Where a fence begins -/

section Fences

variable {content text : Text} {fence : Fence} {opening : Line} {inside : List Line}
  {closing : Option Line}

theorem fence_append (found : fence? content = some fence) :
    fence.indent ++ (fence.marker ++ fence.info) = content ∧ (∀ c ∈ fence.indent, c = ' ') ∧
      fence.marker ≠ [] ∧ ' ' ∉ fence.marker := by
  obtain ⟨mark, long, -⟩ := opens_of_fence found
  unfold fence? at found
  split at found
  · cases found
  next indent rest indented =>
    split at found
    · cases found
    next c more =>
      rw [Option.ite_none_right_eq_some, Option.some.injEq] at found
      obtain ⟨-, rfl⟩ := found
      have whole := shallow_append indented
      simp only [shallow?, Option.ite_none_right_eq_some, Option.some.injEq,
        Prod.mk.injEq] at indented
      obtain ⟨-, rfl, -⟩ := indented
      refine ⟨?_, ?_, ?_, ?_⟩
      · rw [List.takeWhile_append_dropWhile, whole]
      · intro d member
        exact eq_of_beq (List.all_eq_true.mp List.all_takeWhile d member)
      · exact List.length_pos_iff.mp (Nat.lt_of_lt_of_le (by decide) long)
      · intro member
        have first : ((c :: more).takeWhile (· == c)).headD tick = c := by simp
        have same : ' ' = c := eq_of_beq (List.all_eq_true.mp List.all_takeWhile ' ' member)
        simp only [Fence.char, first] at mark
        rcases mark with rfl | rfl <;> exact absurd same (by decide)

theorem fence_begins (member : opening ∈ text.lines) (opens : fence? opening.content = some fence)
    (inside : List Line) (closing : Option Line) :
    FenceBegins text (codeBlock opening fence inside closing)
    (opening.start + fence.indent.length) := by
  obtain ⟨whole, spaces, some_marker, no_space⟩ := fence_append opens
  have holds : opening.content <+: text.drop opening.start :=
    (List.prefix_append _ _).trans (Line.holds_of_lines member).2
  rw [← whole] at holds
  refine ⟨_, _, _, _, _, rfl, Nat.le_add_right _ _, ?_, some_marker, no_space,
    (List.prefix_append _ _).trans (Text.holds_rest holds)⟩
  intro place from_start before
  change opening.start ≤ place at from_start
  have indent : fence.indent <+: text.drop opening.start := (List.prefix_append _ _).trans holds
  have within : place - opening.start < fence.indent.length := by omega
  rw [Text.getElem?_of_holds indent from_start before, List.getElem?_eq_getElem within,
    spaces _ (List.getElem_mem within)]

theorem unclosed_position (member : opening ∈ text.lines)
    (opens : fence? opening.content = some fence) :
    ∃ position, text.lineMap.positionOf (opening.start + fence.indent.length : Nat) = .ok position ∧
      unclosed opening fence = ⟨.unclosedFence, some position⟩ := by
  obtain ⟨whole, -, some_marker, -⟩ := fence_append opens
  have marker := List.length_pos_iff.mpr some_marker
  have inside : opening.start + fence.indent.length < opening.stop := by
    rw [Line.stop, Line.contentEnd, ← whole, List.length_append, List.length_append]
    omega
  refine ⟨_, LineMap.positionOf_of_lies member (Nat.le_add_right _ _) inside, ?_⟩
  have column : ((opening.start + fence.indent.length : Nat) : Int) - opening.start + 1 =
      fence.indent.length + 1 := by omega
  rw [column]
  rfl

end Fences

/-- Strict and lenient reading agree. A text is always read leniently; at most one block of code in
its tree is never closed, and that is the last block at the top. Without one, the text is read
strictly as the same tree, and with one it is refused, at the position at which the fence of that
block begins. -/
theorem strict_reading_follows_lenient (text : Text) :
    ∃ tree, parse false text = .ok tree ∧ (tree.select isUnclosed).length ≤ 1 ∧
      (∀ block ∈ tree.select isUnclosed, tree.children.getLast? = some block) ∧
      (tree.select isUnclosed = [] → parse true text = .ok tree) ∧
      ∀ block ∈ tree.select isUnclosed, ∃ offset position, FenceBegins text block offset ∧
        text.lineMap.positionOf offset = .ok position ∧
        parse true text = .error ⟨.unclosedFence, some position⟩ := by
  obtain ⟨tree, read⟩ := (parse_eq_ok_iff false text).mpr nofun
  obtain ⟨nodes, readNodes, rfl⟩ := parse_eq_ok.mp read
  refine ⟨_, read, ?_⟩
  rw [select_unclosed readNodes, Node.children_spanning]
  rcases strict_of_lenient readNodes with
    ⟨all_closed, readStrictly⟩ | ⟨closed, before, opening, inside, fence, split, opens, rfl,
      all_closed, stopped⟩
  · rw [all_closed]
    exact ⟨Nat.zero_le 1, nofun, fun _ => parse_eq_ok.mpr ⟨nodes, readStrictly, rfl⟩, nofun⟩
  · have isUnclosed_last : isUnclosed (codeBlock opening fence inside none) = true :=
      Node.isBranch_spanning _ _ _ _
    have only : (closed ++ [codeBlock opening fence inside none]).filter isUnclosed =
        [codeBlock opening fence inside none] := by
      rw [List.filter_append, all_closed, List.nil_append, List.filter_cons_of_pos isUnclosed_last,
        List.filter_nil]
    have member : opening ∈ text.lines := by simp [split]
    rw [only]
    refine ⟨Nat.le_refl 1, List.forall_mem_singleton.mpr List.getLast?_concat, nofun,
      List.forall_mem_singleton.mpr ?_⟩
    obtain ⟨position, stands, fault⟩ := unclosed_position member opens
    exact ⟨_, position, fence_begins member opens inside none, stands,
      parse_eq_error.mpr (fault ▸ stopped)⟩

end Markdown

end ProseLinter
