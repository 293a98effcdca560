import ProseLinter.Proofs.Attempt
import ProseLinter.Proofs.Markdown.FencedCode
import ProseLinter.Proofs.Text.Positions

/-!
# Lines drawn as horizontal rules

A line such as `- - -` is drawn as a horizontal rule, and it has the shape of an item as well. The
first line of a block is tried as a rule before it is tried as an item, and a line goes on with a
list as an item only if it is no rule. But an indented line goes on with a list in any case, and the
list then takes every line of it with the shape of an item as one.
-/

namespace ProseLinter.Markdown

open Node (isList isItem)
open Line (Follow wholeText follow_append bounds_of_follow)

/-- That a content is drawn as a horizontal rule: up to three spaces, then three or more times one
of three characters, with only spaces and tabs between and behind them. -/
def DrawsRule (content : Text) : Prop :=
  ∃ (indent : Nat) (c : Char) (gaps : List Text) (blanks : Text), indent ≤ 3 ∧
    (c = '-' ∨ c = '*' ∨ c = '_') ∧
    2 ≤ gaps.length ∧ (∀ gap ∈ gaps, ∀ d ∈ gap, isSpaceOrTab d = true) ∧
    (∀ d ∈ blanks, isSpaceOrTab d = true) ∧
    content = List.replicate indent ' ' ++ c :: (gaps.flatMap (· ++ [c]) ++ blanks)

/-! ## The pattern -/

section Patterns

variable {c : Char} {content text : Text}

/-- A text of one character, spaces and tabs falls apart behind each of the characters. -/
theorem gaps_of_strokes (drawn : ∀ d ∈ text, d = c ∨ isSpaceOrTab d = true) :
    ∃ (gaps : List Text) (blanks : Text), gaps.length = text.countP (· == c) ∧
      (∀ gap ∈ gaps, ∀ d ∈ gap, isSpaceOrTab d = true) ∧ (∀ d ∈ blanks, isSpaceOrTab d = true) ∧
      text = gaps.flatMap (· ++ [c]) ++ blanks := by
  induction text with
  | nil => exact ⟨[], [], rfl, nofun, nofun, rfl⟩
  | cons d rest induction =>
      rw [List.forall_mem_cons] at drawn
      obtain ⟨gaps, blanks, count, gaps_blank, blanks_blank, whole⟩ := induction drawn.2
      by_cases same : d = c
      · refine ⟨[] :: gaps, blanks, ?_, ?_, blanks_blank, ?_⟩
        · rw [List.length_cons, count, List.countP_cons_of_pos (by simp [same])]
        · exact List.forall_mem_cons.mpr ⟨nofun, gaps_blank⟩
        · rw [same, whole]
          rfl
      · have blank : isSpaceOrTab d = true := drawn.1.resolve_left same
        rw [List.countP_cons_of_neg (by simp [same])]
        cases gaps with
        | nil =>
            exact ⟨[], d :: blanks, count, nofun, List.forall_mem_cons.mpr ⟨blank, blanks_blank⟩,
              by rw [whole]; rfl⟩
        | cons gap gaps =>
            rw [List.forall_mem_cons] at gaps_blank
            refine ⟨(d :: gap) :: gaps, blanks, count, ?_, blanks_blank, by rw [whole]; rfl⟩
            exact List.forall_mem_cons.mpr
              ⟨List.forall_mem_cons.mpr ⟨blank, gaps_blank.1⟩, gaps_blank.2⟩

theorem strokes_of_gaps {gaps : List Text} {blanks : Text}
    (gaps_blank : ∀ gap ∈ gaps, ∀ d ∈ gap, isSpaceOrTab d = true)
    (blanks_blank : ∀ d ∈ blanks, isSpaceOrTab d = true) :
    (∀ d ∈ gaps.flatMap (· ++ [c]) ++ blanks, d = c ∨ isSpaceOrTab d = true) ∧
      gaps.length ≤ (gaps.flatMap (· ++ [c]) ++ blanks).countP (· == c) := by
  induction gaps with
  | nil => exact ⟨fun d member => .inr (blanks_blank d member), Nat.zero_le _⟩
  | cons gap gaps induction =>
      rw [List.forall_mem_cons] at gaps_blank
      obtain ⟨drawn, enough⟩ := induction gaps_blank.2
      rw [List.flatMap_cons, List.append_assoc, List.append_assoc]
      constructor
      · intro d member
        rcases List.mem_append.mp member with inside | member
        · exact .inr (gaps_blank.1 d inside)
        · rcases List.mem_append.mp member with same | later
          · exact .inl (List.mem_singleton.mp same)
          · exact drawn d later
      · rw [List.countP_append, List.countP_append, List.countP_singleton,
          if_pos (beq_self_eq_true c), List.length_cons]
        omega

theorem ne_space_of_stroke (stroke : c = '-' ∨ c = '*' ∨ c = '_') : isSpaceOrTab c = false := by
  rcases stroke with rfl | rfl | rfl <;> decide

theorem shallow_of_stroke {indent : Nat} (few : indent ≤ 3) (stroke : c = '-' ∨ c = '*' ∨ c = '_')
    (rest : Text) :
    shallow? (List.replicate indent ' ' ++ c :: rest) =
      some (List.replicate indent ' ', c :: rest) := by
  apply shallow_of_replicate few
  rcases stroke with rfl | rfl | rfl <;> simp

theorem horizontal_rule_iff : isHorizontalRule content = true ↔ DrawsRule content := by
  constructor
  · intro isRule
    unfold isHorizontalRule at isRule
    split at isRule
    · cases isRule
    next indent rest indented =>
      split at isRule
      · cases isRule
      next c more =>
        simp only [Bool.and_eq_true, Bool.or_eq_true, beq_iff_eq, List.all_eq_true,
          decide_eq_true_eq, or_assoc] at isRule
        obtain ⟨⟨stroke, drawn⟩, enough⟩ := isRule
        obtain ⟨spaces, few, rfl⟩ := replicate_of_shallow indented
        obtain ⟨gaps, blanks, count, gaps_blank, blanks_blank, rfl⟩ := gaps_of_strokes drawn
        exact ⟨spaces, c, gaps, blanks, few, stroke, count ▸ enough, gaps_blank, blanks_blank, rfl⟩
  · intro draws
    obtain ⟨indent, c, gaps, blanks, few, stroke, enough, gaps_blank, blanks_blank, rfl⟩ := draws
    obtain ⟨drawn, counted⟩ := strokes_of_gaps (c := c) gaps_blank blanks_blank
    rw [isHorizontalRule, shallow_of_stroke few stroke]
    simp only [Bool.and_eq_true, Bool.or_eq_true, beq_iff_eq, List.all_eq_true,
      decide_eq_true_eq, or_assoc]
    exact ⟨⟨stroke, drawn⟩, Nat.le_trans enough counted⟩

theorem DrawsRule.nothing_else (draws : DrawsRule content) :
    content.blank = false ∧ fence? content = none ∧
    (content.head?.any isSpaceOrTab = true → content.head? = some ' ') := by
  obtain ⟨indent, c, gaps, blanks, few, stroke, -, -, -, rfl⟩ := draws
  have noSpace := ne_space_of_stroke stroke
  refine ⟨?_, ?_, ?_⟩
  · have notBlank : isBlank c = false := by rcases stroke with rfl | rfl | rfl <;> decide
    rw [Text.blank, List.all_append, List.all_cons, notBlank, Bool.false_and, Bool.and_false]
  · have noMark : (c == tick || c == '~') = false := by
      rcases stroke with rfl | rfl | rfl <;> decide
    rw [fence?, shallow_of_stroke few stroke]
    simp only [noMark, Bool.false_and, Bool.false_eq_true, if_false]
  · intro indented
    cases indent with
    | zero => simp [noSpace] at indented
    | succ fewer => rfl

theorem DrawsRule.continues_iff (draws : DrawsRule content) :
    continuesList content = true ↔ content.head? = some ' ' := by
  obtain ⟨notBlank, noFence, indented⟩ := draws.nothing_else
  have isRule := horizontal_rule_iff.mpr draws
  rw [continuesList, notBlank, noFence, isRule]
  constructor
  · intro goes_on
    exact indented (by simpa using goes_on)
  · intro space
    rw [space]
    simp [isSpaceOrTab]

end Patterns

/-! ## Where items start -/

section Items

variable {strict : Bool} {before taken after lines : List Line} {block : Node} {nodes : List Node}
  {line : Line}

theorem start_of_item (kind : BranchKind) (line : Line) (mark : ItemMark) (pending : List Node) :
    (Node.spanning kind line.start (itemLine line mark ++ pending)).span.start = line.start := by
  unfold itemLine
  cases mark.indent <;> rfl

theorem starts_of_gathered (lines : List Line) :
    (gatherItems lines).2.map (fun item => item.span.start) =
    (lines.filter fun line => (item? line.content).isSome).map Line.start := by
  induction lines with
  | nil => rfl
  | cons line rest induction =>
      rw [gatherItems, List.filter_cons]
      cases found : item? line.content with
      | none => simpa [found] using induction
      | some mark =>
          simp only [Option.isSome_some, if_true, List.map_cons, start_of_item, induction]

theorem list_of_next (next : NextBlock strict taken after block) (list : block.isList = true) :
    ∃ line more, taken = line :: more ∧ ¬isHorizontalRule line.content = true ∧
      (∀ next ∈ more, continuesList next.content = true) ∧
      StopsAt (fun next => continuesList next.content) after ∧
      block.children = (gatherItems taken).2 := by
  have other {kind : BranchKind} {start : Nat} {below : List Node} (notList : kind.isList = false) :
      ¬(Node.spanning kind start below).isList = true := by
    rw [isList, Node.isBranch_spanning, notList]
    exact Bool.false_ne_true
  cases next with
  | list line more _ notBlank notFence notHeader notRule notQuote opens goes_on stops =>
      exact ⟨line, more, rfl, notRule, goes_on, stops, Node.children_spanning _ _ _⟩
  | _ => exact absurd list (other rfl)

theorem item_starts_iff (next : NextBlock strict taken after block) (list : block.isList = true)
    (offset : Nat) :
    (∃ item ∈ block.children, item.span.start = offset) ↔
      ∃ line ∈ taken, (item? line.content).isSome = true ∧ line.start = offset := by
  obtain ⟨line, more, -, -, -, -, children⟩ := list_of_next next list
  have starts : offset ∈ block.children.map (fun item => item.span.start) ↔
      offset ∈ (taken.filter fun line => (item? line.content).isSome).map Line.start := by
    rw [children, starts_of_gathered]
  simpa only [List.mem_map, List.mem_filter, and_assoc] using starts

/-- A line that is drawn as a rule is among the lines of a list just if it is indented and stands
behind the first of them, and not beyond where the list stops. -/
theorem rule_in_list_iff (follow : Follow 0 (before ++ (taken ++ after)))
    (next : NextBlock strict taken after block) (list : block.isList = true)
    (member : line ∈ before ++ (taken ++ after)) (draws : DrawsRule line.content) :
    line ∈ taken ↔
      line.content.head? = some ' ' ∧ block.span.start < line.start ∧
        line.start ≤ block.span.stop := by
  obtain ⟨front, follow⟩ := follow_append.mp follow
  obtain ⟨middle, back⟩ := follow_append.mp follow
  have span := span_of_next next middle
  have start : block.span.start = 0 + (wholeText before).length := by rw [span]; rfl
  have stop : block.span.stop = 0 + (wholeText before).length + (wholeText taken).length := by
    rw [span]; rfl
  rw [start, stop]
  clear span start stop
  obtain ⟨first, more, rfl, notRule, goes_on, stops, -⟩ := list_of_next next list
  constructor
  · intro taken
    rcases List.mem_cons.mp taken with rfl | behind
    · exact absurd (horizontal_rule_iff.mpr draws) notRule
    · refine ⟨draws.continues_iff.mp (goes_on line behind), ?_, ?_⟩
      · have own := bounds_of_follow middle first List.mem_cons_self
        have beyond := (bounds_of_follow middle.2.2 line behind).1
        omega
      · have bounds := bounds_of_follow middle line taken
        omega
  · intro placed
    obtain ⟨indented, started, reached⟩ := placed
    rcases List.mem_append.mp member with earlier | member
    · have bounds := bounds_of_follow front line earlier
      omega
    · rcases List.mem_append.mp member with among | later
      · exact among
      · -- The list would have gone on with a rule that stands right behind it.
        have stopped : continuesList line.content = false :=
          stops line (Line.head_of_start back later reached)
        rw [draws.continues_iff.mpr indented] at stopped
        cases stopped

theorem item_on_line_iff (follow : Follow 0 (before ++ (taken ++ after)))
    (next : NextBlock strict taken after block) (list : block.isList = true)
    (member : line ∈ before ++ (taken ++ after)) :
    (∃ item ∈ block.children, line.start ≤ item.span.start ∧ item.span.start < line.stop) ↔
      line ∈ taken ∧ (item? line.content).isSome = true := by
  constructor
  · intro starts
    obtain ⟨item, below, reached, inside⟩ := starts
    obtain ⟨own, among, shape, start⟩ :=
      (item_starts_iff next list item.span.start).mp ⟨item, below, rfl⟩
    have own_member : own ∈ before ++ (taken ++ after) :=
      List.mem_append_right _ (List.mem_append_left _ among)
    have own_bounds := bounds_of_follow follow own own_member
    have same : own = line :=
      Line.eq_of_shared follow own_member member (Nat.le_of_eq start) (by omega) reached inside
    rw [← same]
    exact ⟨among, shape⟩
  · intro found
    obtain ⟨item, below, start⟩ :=
      (item_starts_iff next list line.start).mpr ⟨line, found.1, found.2, rfl⟩
    have bounds := bounds_of_follow follow line member
    exact ⟨item, below, Nat.le_of_eq start.symm, by omega⟩

end Items

/-- An item starts on a line that is drawn as a horizontal rule just if the line has the shape of an
item as well, is indented, and stands where a list has begun before it and has not stopped before
it. No item starts on any line but one with the shape of an item, and each starts where its line
does. -/
theorem items_on_rule_lines {strict : Bool} {text : Text} {tree : Node}
    (read : parse strict text = .ok tree) :
    (∀ item ∈ tree.select isItem, ∃ line ∈ text.lines, (item? line.content).isSome = true ∧
      line.start = item.span.start) ∧
      ∀ line ∈ text.lines, DrawsRule line.content →
        ((∃ item ∈ tree.select isItem, line.start ≤ item.span.start ∧ item.span.start < line.stop) ↔
          (item? line.content).isSome = true ∧ line.content.head? = some ' ' ∧
            ∃ list ∈ tree.select isList, list.span.start < line.start ∧
            line.start ≤ list.span.stop) := by
  obtain ⟨nodes, readNodes, rfl⟩ := parse_eq_ok.mp read
  have flat := blocks_are_flat readNodes
  have follow := Line.follow_lines text
  rw [select_items flat, select_lists flat]
  constructor
  · intro item member
    obtain ⟨list, among, below⟩ := List.mem_flatMap.mp member
    obtain ⟨atTop, isList⟩ := List.mem_filter.mp among
    obtain ⟨before, taken, after, split, next⟩ := step_of_block readNodes list atTop
    obtain ⟨line, own, shape, start⟩ :=
      (item_starts_iff next isList item.span.start).mp ⟨item, below, rfl⟩
    exact ⟨line, by simp [split, own], shape, start⟩
  · intro line member draws
    have each : ∀ list ∈ nodes.filter isList,
        (∃ item ∈ list.children, line.start ≤ item.span.start ∧ item.span.start < line.stop) ↔
          (item? line.content).isSome = true ∧ line.content.head? = some ' ' ∧
            list.span.start < line.start ∧ line.start ≤ list.span.stop := by
      intro list among
      obtain ⟨atTop, isList⟩ := List.mem_filter.mp among
      obtain ⟨before, taken, after, split, next⟩ := step_of_block readNodes list atTop
      rw [split, List.append_assoc] at follow member
      rw [item_on_line_iff follow next isList member,
        rule_in_list_iff follow next isList member draws, and_comm]
    constructor
    · intro starts
      obtain ⟨item, among, on_line⟩ := starts
      obtain ⟨list, listed, below⟩ := List.mem_flatMap.mp among
      obtain ⟨shape, indented, placed⟩ := (each list listed).mp ⟨item, below, on_line⟩
      exact ⟨shape, indented, list, listed, placed⟩
    · intro placed
      obtain ⟨shape, indented, list, listed, placed⟩ := placed
      obtain ⟨item, below, on_line⟩ := (each list listed).mpr ⟨shape, indented, placed⟩
      exact ⟨item, List.mem_flatMap.mpr ⟨list, listed, below⟩, on_line⟩

/-- A list goes on with an indented rule and takes it as an item. A rule that is not indented ends
the list. -/
theorem indented_rule_goes_on_with_a_list :
    ∃ tree, parse true "- a\n - - -\n* * *".toList = .ok tree ∧
      (∀ item ∈ tree.select isItem, ∃ line ∈ Text.lines "- a\n - - -\n* * *".toList,
        (item? line.content).isSome = true ∧ line.start = item.span.start) ∧
      (∃ item ∈ tree.select isItem, 4 ≤ item.span.start ∧ item.span.start < 11) ∧
      ¬∃ item ∈ tree.select isItem, 11 ≤ item.span.start ∧ item.span.start < 16 := by
  have lines : Text.lines "- a\n - - -\n* * *".toList =
      [⟨1, 0, "- a".toList, ['\n']⟩, ⟨2, 4, " - - -".toList, ['\n']⟩,
        ⟨3, 11, "* * *".toList, []⟩] := by cbv
  have spans :
      (parse true "- a\n - - -\n* * *".toList >>=
        fun tree => .ok ((tree.select isList).map Node.span)) =
      .ok [Span.ofLength 0 11] := by cbv
  obtain ⟨tree, read, spans⟩ := ok_of_bind spans
  obtain ⟨starts, on_rules⟩ := items_on_rule_lines read
  refine ⟨tree, read, starts, ?_, ?_⟩
  · have first : Span.ofLength 0 11 ∈ (tree.select isList).map Node.span := by
      rw [Except.ok.inj spans]
      exact List.mem_cons_self
    obtain ⟨list, among, span⟩ := List.mem_map.mp first
    have second : (⟨2, 4, " - - -".toList, ['\n']⟩ : Line) ∈
        Text.lines "- a\n - - -\n* * *".toList := by
      rw [lines]
      exact List.mem_cons_of_mem _ List.mem_cons_self
    refine (on_rules _ second (horizontal_rule_iff.mp (by cbv))).mpr ⟨by cbv, rfl, list, among, ?_⟩
    rw [span]
    exact ⟨by decide, by decide⟩
  · have third : (⟨3, 11, "* * *".toList, []⟩ : Line) ∈ Text.lines "- a\n - - -\n* * *".toList := by
      rw [lines]
      exact List.mem_cons_of_mem _ (List.mem_cons_of_mem _ List.mem_cons_self)
    intro starts
    have placed := (on_rules _ third (horizontal_rule_iff.mp (by cbv))).mp starts
    exact absurd placed.2.1 (by decide)

/-- A rule that is indented below an item is read as an item, and not as a rule. -/
theorem rule_read_as_item :
    ∃ tree line, parse true "- a\n - - -\n".toList = .ok tree ∧
    line ∈ Text.lines "- a\n - - -\n".toList ∧
      DrawsRule line.content ∧ ∃ item ∈ tree.select isItem, line.start ≤ item.span.start ∧
      item.span.start < line.stop := by
  have lines : Text.lines "- a\n - - -\n".toList =
      [⟨1, 0, "- a".toList, ['\n']⟩, ⟨2, 4, " - - -".toList, ['\n']⟩] := by cbv
  have starts : (parse true "- a\n - - -\n".toList >>= fun tree =>
      .ok ((tree.select isItem).map fun item => item.span.start)) = .ok [0, 4] := by cbv
  obtain ⟨tree, read, starts⟩ := ok_of_bind starts
  have second : (⟨2, 4, " - - -".toList, ['\n']⟩ : Line) ∈ Text.lines "- a\n - - -\n".toList := by
    rw [lines]
    exact List.mem_cons_of_mem _ List.mem_cons_self
  have fourth : 4 ∈ (tree.select isItem).map fun item => item.span.start := by
    rw [Except.ok.inj starts]
    exact List.mem_cons_of_mem _ List.mem_cons_self
  obtain ⟨item, among, start⟩ := List.mem_map.mp fourth
  refine ⟨tree, _, read, second, horizontal_rule_iff.mp (by cbv), item, among, ?_⟩
  rw [start]
  exact ⟨Nat.le_refl 4, by cbv⟩

end ProseLinter.Markdown
