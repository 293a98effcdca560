import Mathlib
import ProseLinter.Proofs.Markdown.Shifting

/-!
# Reading on after a blank line

A step of the reader looks at the lines it takes and at most at whether the next line goes on with
its block. A blank line is a block by itself, whatever follows it, so a run that ends in one is the
beginning of a run over any lines behind it.
-/

namespace ProseLinter.Markdown

variable {strict : Bool} {taken after lines : List Line} {block : Node} {nodes : List Node}

theorem taken_ne_nil (next : NextBlock strict taken after block) : taken ≠ [] := by
  cases next <;> simp

theorem stops_at_append {test : Line → Bool} (stops : StopsAt test after) (some_after : after ≠ [])
    (more : List Line) :
    StopsAt test (after ++ more) := by
  intro line head
  rw [List.head?_append_of_ne_nil after some_after] at head
  exact stops line head

theorem NextBlock.append (next : NextBlock strict taken after block) (some_after : after ≠ [])
    (more : List Line) :
    NextBlock strict taken (after ++ more) block := by
  cases next with
  | blank line _ blank => exact .blank line _ blank
  | closedCode line inside _ closing notBlank fence opens open_inside closes =>
      exact .closedCode line inside _ closing notBlank fence opens open_inside closes
  | openCode line inside notBlank fence opens open_inside lenient => exact absurd rfl some_after
  | header line _ notBlank notFence mark opens => exact .header line _ notBlank notFence mark opens
  | rule line _ notBlank notFence notHeader isRule =>
      exact .rule line _ notBlank notFence notHeader isRule
  | quote line others _ notBlank notFence notHeader notRule opens goes_on stops =>
      exact .quote line others _ notBlank notFence notHeader notRule opens goes_on
        (stops_at_append stops some_after more)
  | list line others _ notBlank notFence notHeader notRule notQuote opens goes_on stops =>
      exact .list line others _ notBlank notFence notHeader notRule notQuote opens goes_on
        (stops_at_append stops some_after more)
  | paragraph line others _ notBlank notFence notHeader notRule notQuote notItem goes_on stops =>
      exact .paragraph line others _ notBlank notFence notHeader notRule notQuote notItem goes_on
        (stops_at_append stops some_after more)

theorem NextBlock.of_blank {span : Span} {below : List Node}
    (next : NextBlock strict taken after (.branch .blank span below)) :
    ∃ line, taken = [line] ∧ below = line.contentLeaves .whiteSpace ++ line.endingLeaves ∧
      ∀ others, NextBlock strict taken others (.branch .blank span below) := by
  generalize same : Node.branch .blank span below = block at next
  have isBlank : block.isBranch (· == .blank) = true := by rw [← same]; rfl
  cases next with
  | blank line _ blank =>
      refine ⟨line, rfl, ?_, fun others => .blank line others blank⟩
      rw [← Node.children_spanning .blank line.start
        (line.contentLeaves .whiteSpace ++ line.endingLeaves)]
      exact congrArg Node.children same
  | closedCode => simp [codeBlock] at isBlank
  | openCode => simp [codeBlock] at isBlank
  | header => simp [headerBlock] at isBlank
  | rule => simp [ruleBlock] at isBlank
  | quote => simp [quoteBlock] at isBlank
  | list => simp [listBlock] at isBlank
  | paragraph => simp [paragraphBlock] at isBlank

/-- A run that gives blocks ends in the step that gives the last of them. Where other lines follow,
and the last step is made before them as well, the run goes on with what these are read as. -/
theorem last_step (read : blocks strict lines = .ok nodes) :
    (nodes = [] ↔ lines = []) ∧ ∀ block ∈ nodes.getLast?,
      ∃ front taken, lines = front ++ taken ∧ NextBlock strict taken [] block ∧
        ∀ others, NextBlock strict taken others block →
          blocks strict (lines ++ others) = (blocks strict others).map (nodes ++ ·) := by
  refine blocks_induction (motive :=
    fun lines nodes => (nodes = [] ↔ lines = []) ∧ ∀ block ∈ nodes.getLast?,
    ∃ front taken, lines = front ++ taken ∧ NextBlock strict taken [] block ∧
      ∀ others, NextBlock strict taken others block →
        blocks strict (lines ++ others) = (blocks strict others).map (nodes ++ ·))
          ?finish ?step read
  case finish => exact ⟨iff_of_true rfl rfl, fun block last => absurd last (by simp)⟩
  case step =>
    rintro taken after block more next ⟨both_nil, induction⟩
    have some_taken := taken_ne_nil next
    refine ⟨by simp [some_taken], fun last found => ?_⟩
    cases more with
    | nil =>
        have none_after : after = [] := both_nil.1 rfl
        subst none_after
        rw [List.getLast?_singleton, Option.mem_some] at found
        subst found
        refine ⟨[], taken, List.append_nil taken, next, fun others again => ?_⟩
        rw [List.append_nil, blocks_of_next again]
        rfl
    | cons second rest =>
        have some_after : after ≠ [] :=
          fun none_after => List.cons_ne_nil _ _ (both_nil.2 none_after)
        rw [List.getLast?_cons_cons] at found
        obtain ⟨front, back, equal, lastStep, goes_on⟩ := induction last found
        refine ⟨taken ++ front, back,
          by rw [equal, List.append_assoc], lastStep, fun others again => ?_⟩
        rw [List.append_assoc, blocks_of_next (next.append some_after others), goes_on others again]
        cases blocks strict others <;> rfl

theorem ending_of_line_break {line : Line} {start : Nat} {terminator : Text}
    (last : (line.contentLeaves .whiteSpace ++ line.endingLeaves).getLast? =
      some (.leaf .lineBreak start terminator)) :
    line.ending ≠ [] := by
  intro none_ending
  rw [Line.endingLeaves, none_ending, if_pos List.isEmpty_nil, List.append_nil,
    Line.contentLeaves] at last
  split at last <;> simp at last

/-- Reading is compositional at blank lines. If the last block of a text is a blank line with a
terminator, and what follows does not change that terminator, then both texts together are read if
the second is, as the blocks of the first and then those of the second, shifted behind the first;
and a fault in the second stands as many lines further down as the first has lines, in the same
column. -/
theorem blocks_compose_at_blank_line {strict : Bool} {first second : Text} {tree : Node}
    {span : Span} {below : List Node} {start : Nat} {terminator : Text}
    (read : parse strict first = .ok tree)
    (blank : tree.children.getLast? = some (.branch .blank span below))
    (ended : below.getLast? = some (.leaf .lineBreak start terminator))
    (apart : ¬ (first.getLast? = some '\r' ∧ second.head? = some '\n')) :
    ((∃ whole, parse strict (first ++ second) = .ok whole) ↔
      ∃ other, parse strict second = .ok other) ∧
      (∀ other, parse strict second = .ok other →
        ∃ whole, parse strict (first ++ second) = .ok whole ∧
        whole.children = tree.children ++ other.children.map (Node.shift first.length)) ∧
      ∀ fault, parse strict second = .error fault → ∃ cause line column,
        fault = ⟨cause, some ⟨line, column⟩⟩ ∧
          parse strict (first ++ second) =
            .error ⟨cause, some ⟨first.lines.length + line, column⟩⟩ := by
  obtain ⟨nodes, readFirst, rfl⟩ := parse_eq_ok.1 read
  rw [Node.children_spanning] at blank
  obtain ⟨front, taken, equal, lastStep, goes_on⟩ := (last_step readFirst).2 _ blank
  obtain ⟨line, rfl, rfl, again⟩ := lastStep.of_blank
  have joined :=
    Line.lines_append (Line.ends_before_of_lines equal (ending_of_line_break ended) apart)
  have whole := goes_on (second.lines.map (Line.shift first.lines.length first.length)) (again _)
  rw [← joined, blocks_shift] at whole
  have reads : ∀ other, parse strict second = .ok other →
      ∃ whole, parse strict (first ++ second) = .ok whole ∧
      whole.children = (Node.spanning .document 0 nodes).children ++
        other.children.map (Node.shift first.length) := by
    intro other readSecond
    obtain ⟨others, readOthers, rfl⟩ := parse_eq_ok.1 readSecond
    rw [readOthers] at whole
    refine ⟨_, parse_eq_ok.2 ⟨_, whole, rfl⟩, ?_⟩
    rw [Node.children_spanning, Node.children_spanning, Node.children_spanning]
  have refuses : ∀ fault, parse strict second = .error fault →
      parse strict (first ++ second) = .error (fault.lower first.lines.length) := by
    intro fault refused
    rw [parse_eq_error.1 refused] at whole
    exact parse_eq_error.2 whole
  refine ⟨⟨?_, fun ⟨other, readSecond⟩ => (reads other readSecond).imp fun _ =>
    And.left⟩, reads, ?_⟩
  · rintro ⟨whole, readWhole⟩
    cases readSecond : parse strict second with
    | ok other => exact ⟨other, rfl⟩
    | error fault => simp [refuses fault readSecond] at readWhole
  · intro fault refused
    obtain ⟨line, fence, rfl⟩ := fault_of_blocks (parse_eq_error.1 refused)
    exact ⟨_, _, _, rfl, refuses _ refused⟩

/-- A list, and a blank line with a return alone behind it: an indented line that would go on with
the list is a paragraph, and a fence that is never closed is the fourth line of both texts
together. -/
theorem list_ends_at_blank_line :
    (∃ tree whole, parse true "- a\r\t\r".toList = .ok tree ∧
      parse true "- a\r\t\r  b".toList = .ok whole ∧
      whole.children = tree.children ++
        [.branch .paragraph (.ofLength 6 3)
          [.leaf .whiteSpace 6 [' ', ' '], .leaf .prose 8 ['b']]]) ∧
      parse true "- a\r\t\rb\n  ~~~".toList = .error ⟨.unclosedFence, some ⟨4, 3⟩⟩ := by
  have read : ∃ tree span below, parse true "- a\r\t\r".toList = .ok tree ∧
      tree.children.getLast? = some (.branch .blank span below) ∧
        below.getLast? = some (.leaf .lineBreak 5 ['\r']) := ⟨_, _, _, by cbv, by cbv, by cbv⟩
  have readSecond : ∃ other, parse true "  b".toList = .ok other ∧
      other.children =
        [.branch .paragraph (.ofLength 0 3)
          [.leaf .whiteSpace 0 [' ', ' '], .leaf .prose 2 ['b']]] :=
    ⟨_, by cbv, by cbv⟩
  have refused : parse true "b\n  ~~~".toList = .error ⟨.unclosedFence, some ⟨2, 3⟩⟩ := by cbv
  obtain ⟨tree, span, below, readFirst, blank, ended⟩ := read
  obtain ⟨other, reads, children⟩ := readSecond
  have apart : ∀ second : Text, second.head? ≠ some '\n' →
      ¬ ("- a\r\t\r".toList.getLast? = some '\r' ∧ second.head? = some '\n') :=
        fun second other both => other both.2
  obtain ⟨-, composes, -⟩ :=
    blocks_compose_at_blank_line readFirst blank ended (apart "  b".toList (by decide))
  obtain ⟨-, -, refuses⟩ :=
    blocks_compose_at_blank_line readFirst blank ended (apart "b\n  ~~~".toList (by decide))
  obtain ⟨whole, readsWhole, same⟩ := composes other reads
  obtain ⟨cause, line, column, fault, refusesWhole⟩ := refuses _ refused
  refine ⟨⟨tree, whole, readFirst, readsWhole, ?_⟩, ?_⟩
  · rw [same, children]
    rfl
  · rw [ParseFault.mk.injEq, Option.some.injEq, Position.mk.injEq] at fault
    obtain ⟨rfl, rfl, rfl⟩ := fault
    exact refusesWhole

end ProseLinter.Markdown
