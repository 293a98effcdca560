import ProseLinter.Markdown.Block
import ProseLinter.Proofs.Text.Cutting

/-!
# One step of the block reader

The reader takes one block after the other off the lines that are left. What one step can do is said
once, as a relation between the lines it takes, the lines after them and the block, with the guards
under which each kind of block is read. A run of the reader is steps until no line is left, unless a
fence that is never closed stops it; whatever every step carries over is carried over by a run.
-/

namespace ProseLinter.Markdown

/-- Whether the first of the lines, if there is one, fails a test. -/
def StopsAt (test : Line → Bool) (lines : List Line) : Prop :=
  ∀ line ∈ lines.head?, test line = false

/-- A block that is read next: the lines it takes, the lines after them, and the block itself. The
guards of each kind rule out the kinds that are tried before it. -/
inductive NextBlock (strict : Bool) : List Line → List Line → Node → Prop
  | blank (line : Line) (after : List Line) (blank : line.content.blank = true) :
      NextBlock strict [line] after line.blankBlock
  | closedCode (line : Line) (inside after : List Line) (closing : Line)
      (notBlank : ¬line.content.blank = true) (fence : Fence)
      (opens : fence? line.content = some fence)
      (open_inside : ∀ next ∈ inside, fence.closedBy next.content = false)
      (closes : fence.closedBy closing.content = true) :
      NextBlock strict (line :: inside ++ [closing]) after
        (codeBlock line fence inside (some closing))
  | openCode (line : Line) (inside : List Line) (notBlank : ¬line.content.blank = true)
      (fence : Fence) (opens : fence? line.content = some fence)
      (open_inside : ∀ next ∈ inside, fence.closedBy next.content = false)
      (lenient : ¬strict = true) :
      NextBlock strict (line :: inside) [] (codeBlock line fence inside none)
  | header (line : Line) (after : List Line) (notBlank : ¬line.content.blank = true)
      (notFence : fence? line.content = none) (mark : HeaderMark)
      (opens : header? line.content = some mark) :
      NextBlock strict [line] after (headerBlock line mark)
  | rule (line : Line) (after : List Line) (notBlank : ¬line.content.blank = true)
      (notFence : fence? line.content = none) (notHeader : header? line.content = none)
      (isRule : isHorizontalRule line.content = true) :
      NextBlock strict [line] after (ruleBlock line)
  | quote (line : Line) (more after : List Line) (notBlank : ¬line.content.blank = true)
      (notFence : fence? line.content = none) (notHeader : header? line.content = none)
      (notRule : ¬isHorizontalRule line.content = true)
      (opens : (quote? line.content).isSome = true)
      (goes_on : ∀ next ∈ more, (quote? next.content).isSome = true)
      (stops : StopsAt (fun next => (quote? next.content).isSome) after) :
      NextBlock strict (line :: more) after (quoteBlock (line :: more))
  | list (line : Line) (more after : List Line) (notBlank : ¬line.content.blank = true)
      (notFence : fence? line.content = none) (notHeader : header? line.content = none)
      (notRule : ¬isHorizontalRule line.content = true)
      (notQuote : ¬(quote? line.content).isSome = true)
      (opens : (item? line.content).isSome = true)
      (goes_on : ∀ next ∈ more, continuesList next.content = true)
      (stops : StopsAt (fun next => continuesList next.content) after) :
      NextBlock strict (line :: more) after (listBlock (line :: more))
  | paragraph (line : Line) (more after : List Line) (notBlank : ¬line.content.blank = true)
      (notFence : fence? line.content = none) (notHeader : header? line.content = none)
      (notRule : ¬isHorizontalRule line.content = true)
      (notQuote : ¬(quote? line.content).isSome = true)
      (notItem : ¬(item? line.content).isSome = true)
      (goes_on : ∀ next ∈ more, (!startsBlock next.content) = true)
      (stops : StopsAt (fun next => !startsBlock next.content) after) :
      NextBlock strict (line :: more) after (paragraphBlock (line :: more))

def Unclosed (strict : Bool) (lines : List Line) (fault : ParseFault) : Prop :=
  strict = true ∧ ∃ line rest fence, lines = line :: rest ∧ ¬line.content.blank = true ∧
    fence? line.content = some fence ∧ (∀ next ∈ rest, fence.closedBy next.content = false) ∧
    fault = unclosed line fence

theorem stops_at_drop_while (test : Line → Bool) (lines : List Line) :
    StopsAt test (lines.dropWhile test) := by
  intro line head
  have stopped := List.head?_dropWhile_not test lines
  rw [Option.mem_def.1 head] at stopped
  simpa using stopped

theorem goes_on_take_while (test : Line → Bool) (lines : List Line) :
    ∀ line ∈ lines.takeWhile test, test line = true :=
  List.all_eq_true.1 List.all_takeWhile

theorem still_open {fence : Fence} {inside : List Line}
    (open_inside : ∀ next ∈ inside, fence.closedBy next.content = false) :
    ∀ next ∈ inside, (!fence.closedBy next.content) = true := by
  intro next member
  rw [open_inside next member]
  rfl

theorem stops_at_closing {fence : Fence} {closing : Line} (after : List Line)
    (closes : fence.closedBy closing.content = true) :
    StopsAt (fun next => !fence.closedBy next.content) (closing :: after) := by
  intro next head
  rw [← Option.mem_some.1 head]
  simp only [closes, Bool.not_true]

theorem stops_at_end (test : Line → Bool) : StopsAt test [] := by
  intro next head
  simp at head

theorem blocks_nil (strict : Bool) : blocks strict [] = .ok [] := by rw [blocks]

theorem blocks_of_next {strict : Bool} {taken after : List Line} {block : Node}
    (next : NextBlock strict taken after block) :
    blocks strict (taken ++ after) = (blocks strict after).map (block :: ·) := by
  cases next with
  | blank line _ blank =>
      rw [List.singleton_append, blocks, if_pos blank]
      rfl
  | closedCode line inside _ closing notBlank fence opens open_inside closes =>
      obtain ⟨front, back⟩ :=
        cut_behind_run (still_open open_inside) (stops_at_closing after closes)
      rw [List.append_assoc, List.singleton_append, List.cons_append, blocks, if_neg notBlank]
      simp only [opens]
      split
      next other rest closes' =>
        rw [back, List.cons.injEq] at closes'
        obtain ⟨rfl, rfl⟩ := closes'
        rw [front]
        rfl
      next closes' => simp [back] at closes'
  | openCode line inside notBlank fence opens open_inside lenient =>
      obtain ⟨front, back⟩ := cut_behind_run (still_open open_inside) (stops_at_end _)
      rw [List.append_nil] at front back
      rw [List.append_nil, blocks_nil, blocks, if_neg notBlank]
      simp only [opens]
      split
      next other rest closes' => simp [back] at closes'
      next =>
        rw [if_neg lenient, front]
        rfl
  | header line _ notBlank notFence mark opens =>
      rw [List.singleton_append, blocks, if_neg notBlank]
      simp only [notFence, opens]
      rfl
  | rule line _ notBlank notFence notHeader isRule =>
      rw [List.singleton_append, blocks, if_neg notBlank]
      simp only [notFence, notHeader, if_pos isRule]
      rfl
  | quote line more _ notBlank notFence notHeader notRule opens goes_on stops =>
      obtain ⟨front, back⟩ := cut_behind_run goes_on stops
      rw [List.cons_append, blocks, if_neg notBlank]
      simp only [notFence, notHeader, if_neg notRule, if_pos opens, front, back]
      rfl
  | list line more _ notBlank notFence notHeader notRule notQuote opens goes_on stops =>
      obtain ⟨front, back⟩ := cut_behind_run goes_on stops
      rw [List.cons_append, blocks, if_neg notBlank]
      simp only [notFence, notHeader, if_neg notRule, if_neg notQuote, if_pos opens, front, back]
      rfl
  | paragraph line more _ notBlank notFence notHeader notRule notQuote notItem goes_on stops =>
      obtain ⟨front, back⟩ := cut_behind_run goes_on stops
      rw [List.cons_append, blocks, if_neg notBlank]
      simp only [notFence, notHeader, if_neg notRule, if_neg notQuote, if_neg notItem, front, back]
      rfl

theorem blocks_of_unclosed {strict : Bool} {lines : List Line} {fault : ParseFault}
    (stops : Unclosed strict lines fault) : blocks strict lines = .error fault := by
  obtain ⟨strictly, line, rest, fence, rfl, notBlank, opens, open_inside, rfl⟩ := stops
  obtain ⟨-, back⟩ := cut_behind_run (still_open open_inside) (stops_at_end _)
  rw [List.append_nil] at back
  rw [blocks, if_neg notBlank]
  simp only [opens]
  split
  next other after closes' => simp [back] at closes'
  next => rw [if_pos strictly]

theorem closing_or_none (fence : Fence) (rest : List Line) :
    (∃ inside closing after, rest = inside ++ closing :: after ∧
      (∀ next ∈ inside, fence.closedBy next.content = false) ∧
      fence.closedBy closing.content = true) ∨
        ∀ next ∈ rest, fence.closedBy next.content = false := by
  induction rest with
  | nil => exact .inr fun _ member => absurd member List.not_mem_nil
  | cons line rest induction =>
      by_cases closes : fence.closedBy line.content = true
      · exact .inl ⟨[], line, rest, rfl, fun _ member => absurd member List.not_mem_nil, closes⟩
      · have opened := Bool.eq_false_iff.2 closes
        rcases induction with ⟨inside, closing, after, rfl, open_inside, closes⟩ | open_inside
        · exact .inl ⟨line :: inside, closing, after, rfl,
            List.forall_mem_cons.2 ⟨opened, open_inside⟩, closes⟩
        · exact .inr (List.forall_mem_cons.2 ⟨opened, open_inside⟩)

/-- As long as a line is left there is a next block, unless a fence that is never closed stops a
strict reader. -/
theorem next_or_unclosed (strict : Bool) (line : Line) (rest : List Line) :
    (∃ taken after block, line :: rest = taken ++ after ∧ taken ≠ [] ∧
      NextBlock strict taken after block) ∨
      ∃ fault, Unclosed strict (line :: rest) fault := by
  have run (test : Line → Bool) : line :: rest =
      (line :: rest.takeWhile test) ++ rest.dropWhile test := by
    rw [List.cons_append, List.takeWhile_append_dropWhile]
  by_cases notBlank : line.content.blank = true
  · exact .inl ⟨_, rest, _, rfl, List.cons_ne_nil _ _, .blank line rest notBlank⟩
  cases fenced : fence? line.content with
  | some fence =>
      rcases closing_or_none fence
        rest with ⟨inside, closing, after, rfl, open_inside, closes⟩ | open_inside
      · refine .inl ⟨line :: inside ++ [closing], after, _, ?_, List.cons_ne_nil _ _,
          .closedCode line inside after closing notBlank fence fenced open_inside closes⟩
        rw [List.append_assoc, List.singleton_append, List.cons_append]
      · by_cases strictly : strict = true
        · exact .inr ⟨_, strictly, line, rest, fence, rfl, notBlank, fenced, open_inside, rfl⟩
        · exact .inl ⟨_, [], _, (List.append_nil _).symm, List.cons_ne_nil _ _,
            .openCode line rest notBlank fence fenced open_inside strictly⟩
  | none =>
      cases headed : header? line.content with
      | some mark =>
          exact .inl ⟨_, rest, _, rfl, List.cons_ne_nil _ _,
            .header line rest notBlank fenced mark headed⟩
      | none =>
          by_cases isRule : isHorizontalRule line.content = true
          · exact .inl ⟨_, rest, _, rfl, List.cons_ne_nil _ _,
              .rule line rest notBlank fenced headed isRule⟩
          by_cases quoted : (quote? line.content).isSome = true
          · exact .inl ⟨_, _, _, run _, List.cons_ne_nil _ _,
              .quote line _ _ notBlank fenced headed isRule quoted
              (goes_on_take_while _ rest) (stops_at_drop_while _ rest)⟩
          by_cases listed : (item? line.content).isSome = true
          · exact .inl ⟨_, _, _, run _, List.cons_ne_nil _ _,
              .list line _ _ notBlank fenced headed isRule quoted listed
              (goes_on_take_while _ rest) (stops_at_drop_while _ rest)⟩
          · exact .inl ⟨_, _, _, run _, List.cons_ne_nil _ _,
              .paragraph line _ _ notBlank fenced headed isRule quoted
              listed (goes_on_take_while _ rest) (stops_at_drop_while _ rest)⟩

/-- A run of the reader is steps until no line is left or a fence that is never closed stops it, so
what a run gives is known from what its last step gives and from what every step before it adds. -/
theorem reader_induction (strict : Bool) {motive : List Line → Except ParseFault (List Node) → Prop}
    (finish : motive [] (.ok []))
    (stop : ∀ {lines : List Line} {fault : ParseFault}, Unclosed strict lines fault →
      motive lines (.error fault))
    (step : ∀ {taken after : List Line} {block : Node}, NextBlock strict taken after block →
      motive after (blocks strict after) →
      motive (taken ++ after) ((blocks strict after).map (block :: ·)))
    (lines : List Line) : motive lines (blocks strict lines) := by
  induction bound : lines.length using Nat.strongRecOn generalizing lines with
  | ind length induction =>
      cases lines with
      | nil =>
          rw [blocks_nil]
          exact finish
      | cons line rest =>
          rcases next_or_unclosed strict line
            rest with ⟨taken, after, block, equal, some_taken, next⟩ | ⟨fault, stops⟩
          · have shorter : after.length < length := by
              have positive := List.length_pos_iff.2 some_taken
              rw [← bound, equal, List.length_append]
              omega
            rw [equal, blocks_of_next next]
            exact step next (induction after.length shorter after rfl)
          · rw [blocks_of_unclosed stops]
            exact stop stops

/-- Whatever holds of no lines, and is carried over by every step, holds of every run that gives
blocks. -/
theorem blocks_induction {strict : Bool} {motive : List Line → List Node → Prop}
    (finish : motive [] [])
    (step : ∀ {taken after : List Line} {block : Node} {more : List Node},
      NextBlock strict taken after block →
      motive after more → motive (taken ++ after) (block :: more))
    {lines : List Line} {nodes : List Node} (read : blocks strict lines = .ok nodes) :
    motive lines nodes := by
  have run := reader_induction strict (motive := fun lines result => ∀ nodes, result = .ok nodes →
    motive lines nodes) ?finish ?stop ?step lines
  · exact run nodes read
  case finish =>
    intro nodes same
    cases same
    exact finish
  case stop =>
    intro lines fault _ nodes same
    cases same
  case step =>
    intro taken after block next induction nodes same
    cases readAfter : blocks strict after with
    | error fault => simp [readAfter, Except.map] at same
    | ok more =>
        rw [readAfter, Except.map, Except.ok.injEq] at same
        exact same ▸ step next (induction more readAfter)

theorem unclosed_of_blocks {strict : Bool} {lines : List Line} {fault : ParseFault}
    (refused : blocks strict lines = .error fault) :
    ∃ read left, lines = read ++ left ∧ Unclosed strict left fault := by
  have run := reader_induction strict (motive := fun lines result => result = .error fault →
    ∃ read left, lines = read ++ left ∧ Unclosed strict left fault) ?finish ?stop ?step lines
  · exact run refused
  case finish =>
    intro same
    cases same
  case stop =>
    intro left other stops same
    cases same
    exact ⟨[], left, rfl, stops⟩
  case step =>
    intro taken after block next induction same
    cases readAfter : blocks strict after with
    | ok more => simp [readAfter, Except.map] at same
    | error other =>
        rw [readAfter, Except.map] at same
        obtain ⟨read, left, equal, stops⟩ := induction (readAfter.trans same)
        exact ⟨taken ++ read, left, by rw [equal, List.append_assoc], stops⟩

theorem fault_of_blocks {strict : Bool} {lines : List Line} {fault : ParseFault}
    (refused : blocks strict lines = .error fault) :
    ∃ opening fence, fault = unclosed opening fence := by
  obtain ⟨read, left, -, -, line, rest, fence, -, -, -, -, same⟩ := unclosed_of_blocks refused
  exact ⟨line, fence, same⟩

theorem parse_eq_ok {strict : Bool} {text : Text} {tree : Node} :
    parse strict text = .ok tree ↔
      ∃ nodes, blocks strict text.lines = .ok nodes ∧ Node.spanning .document 0 nodes = tree := by
  rw [parse]
  cases blocks strict text.lines <;> simp [Except.map]

theorem parse_eq_error {strict : Bool} {text : Text} {fault : ParseFault} :
    parse strict text = .error fault ↔ blocks strict text.lines = .error fault := by
  rw [parse]
  cases blocks strict text.lines <;> simp [Except.map]

end ProseLinter.Markdown
