import ProseLinter.Proofs.Markdown.Marks
import ProseLinter.Proofs.Text.Cutting
import ProseLinter.Text.Line

/-!
# Fences, by lines alone

A fence opens and closes by what single lines hold. The two patterns are given here as shapes of a
content, and a scan goes over lines from top to bottom with them: outside it looks for an opening
line only, and inside for the first line that closes the fence it is in. It knows of no other block.
-/

namespace ProseLinter.Markdown

/-- That a content opens a fence: up to three spaces, then so many ticks or tildes, three or more,
then anything else. -/
def OpensFence (c : Char) (count : Nat) (content : Text) : Prop :=
  (c = tick ∨ c = '~') ∧ 3 ≤ count ∧ ∃ (indent : Nat) (info : Text), indent ≤ 3 ∧
    content = List.replicate indent ' ' ++ (List.replicate count c ++ info) ∧ info.head? ≠ some c

/-- That a content closes a fence of so many copies of a character: up to three spaces, then at
least as many copies, then only spaces and tabs. -/
def ClosesFence (c : Char) (count : Nat) (content : Text) : Prop :=
  ∃ (indent copies : Nat) (blanks : Text), indent ≤ 3 ∧ count ≤ copies ∧
    content = List.replicate indent ' ' ++ (List.replicate copies c ++ blanks) ∧
    ∀ d ∈ blanks, isSpaceOrTab d = true

/-- What a scan for fences has come to: it is outside, or inside a fence of so many copies of a
character, with the lines from the opening one on. -/
inductive FenceState where
  | outside
  | inside (c : Char) (count : Nat) (held : List Line)

/-- The scan of the lines that are left, with the regions it finds, each with both its fences. Only
a lenient scan may end inside a fence. -/
inductive FenceScan (strict : Bool) : FenceState → List Line → List (List Line) → Prop
  | finished : FenceScan strict .outside [] []
  | unclosed (c : Char) (count : Nat) (held : List Line) (lenient : ¬strict = true) :
      FenceScan strict (.inside c count held) [] [held]
  | passes (line : Line) (rest : List Line) (regions : List (List Line))
      (plain : ∀ c count, ¬OpensFence c count line.content)
      (more : FenceScan strict .outside rest regions) :
      FenceScan strict .outside (line :: rest) regions
  | opens (c : Char) (count : Nat) (line : Line) (rest : List Line) (regions : List (List Line))
      (opening : OpensFence c count line.content)
      (more : FenceScan strict (.inside c count [line]) rest regions) :
      FenceScan strict .outside (line :: rest) regions
  | holds (c : Char) (count : Nat) (held : List Line) (line : Line) (rest : List Line)
      (regions : List (List Line)) (still : ¬ClosesFence c count line.content)
      (more : FenceScan strict (.inside c count (held ++ [line])) rest regions) :
      FenceScan strict (.inside c count held) (line :: rest) regions
  | closes (c : Char) (count : Nat) (held : List Line) (line : Line) (rest : List Line)
      (regions : List (List Line)) (closing : ClosesFence c count line.content)
      (more : FenceScan strict .outside rest regions) :
      FenceScan strict (.inside c count held) (line :: rest) ((held ++ [line]) :: regions)

/-! ## The patterns -/

section Patterns

variable {c : Char} {count other : Nat} {content opening indent rest : Text} {fence : Fence}

theorem take_while_eq_replicate (c : Char) (text : Text) :
    text.takeWhile (· == c) = List.replicate (text.takeWhile (· == c)).length c := by
  apply List.eq_replicate_iff.2
  exact ⟨rfl, fun d member => eq_of_beq (List.all_eq_true.1 List.all_takeWhile d member)⟩

theorem head_drop_while_ne (c : Char) (text : Text) : (text.dropWhile (· == c)).head? ≠ some c := by
  intro head
  have other := List.head?_dropWhile_not (· == c) text
  rw [head] at other
  simp at other

theorem run_of_replicate (count : Nat) (ends : rest.head? ≠ some c) :
    (List.replicate count c ++ rest).takeWhile (· == c) = List.replicate count c ∧
      (List.replicate count c ++ rest).dropWhile (· == c) = rest := by
  have run : ∀ d ∈ List.replicate count c, (d == c) = true := by
    intro d member
    simp [List.eq_of_mem_replicate member]
  have stops : ∀ d ∈ rest.head?, (d == c) = false := by
    intro d head
    rw [beq_eq_false_iff_ne]
    rintro rfl
    exact ends head
  exact cut_behind_run run stops

theorem shallow_of_replicate (few : count ≤ 3) (ends : rest.head? ≠ some ' ') :
    shallow? (List.replicate count ' ' ++ rest) = some (List.replicate count ' ', rest) := by
  obtain ⟨front, back⟩ := run_of_replicate count ends
  rw [shallow?, front, back, List.length_replicate, if_pos few]

theorem replicate_of_shallow (found : shallow? content = some (indent, rest)) :
    ∃ count, count ≤ 3 ∧ content = List.replicate count ' ' ++ rest := by
  have whole := shallow_append found
  simp only [shallow?, Option.ite_none_right_eq_some, Option.some.injEq, Prod.mk.injEq] at found
  obtain ⟨few, same, -⟩ := found
  refine ⟨_, few, ?_⟩
  rw [← take_while_eq_replicate, same, whole]

theorem ne_space_of_mark (mark : c = tick ∨ c = '~') : isSpaceOrTab c = false := by
  rcases mark with rfl | rfl <;> decide

theorem shallow_of_run (rest : Text) (mark : c = tick ∨ c = '~') (few : other ≤ 3)
    (some_copies : 0 < count) :
    shallow? (List.replicate other ' ' ++ (List.replicate count c ++ rest)) =
      some (List.replicate other ' ', List.replicate count c ++ rest) := by
  apply shallow_of_replicate few
  obtain ⟨fewer, rfl⟩ := Nat.exists_eq_add_one_of_ne_zero (Nat.ne_of_gt some_copies)
  have different := ne_space_of_mark mark
  rw [List.replicate_succ, List.cons_append, List.head?_cons]
  rintro ⟨rfl⟩
  simp [isSpaceOrTab] at different

theorem fence_of_opens (opens : OpensFence c count content) :
    ∃ fence, fence? content = some fence ∧ fence.char = c ∧ fence.marker.length = count := by
  obtain ⟨mark, long, indent, info, few, rfl, ends⟩ := opens
  have some_copies : 0 < count := by omega
  have isMark : (c == tick || c == '~') = true := by simpa using mark
  obtain ⟨front, back⟩ := run_of_replicate count ends
  obtain ⟨fewer, rfl⟩ := Nat.exists_eq_add_one_of_ne_zero (Nat.ne_of_gt some_copies)
  refine ⟨⟨List.replicate indent ' ', List.replicate (fewer + 1) c, info⟩, ?_, rfl,
    List.length_replicate⟩
  rw [fence?, shallow_of_run info mark few some_copies]
  simp only [List.replicate_succ, List.cons_append] at front back ⊢
  simp only [front, back, isMark, List.length_cons, List.length_replicate, Bool.true_and,
    decide_eq_true long, if_true]

theorem opens_of_fence (found : fence? content = some fence) :
    OpensFence fence.char fence.marker.length content := by
  unfold fence? at found
  split at found
  · simp at found
  next indent rest indented =>
    split at found
    · simp at found
    next d more =>
      simp only [Option.ite_none_right_eq_some, Option.some.injEq, Bool.and_eq_true,
        decide_eq_true_eq] at found
      obtain ⟨⟨isMark, long⟩, rfl⟩ := found
      obtain ⟨spaces, few, rfl⟩ := replicate_of_shallow indented
      have mark : d = tick ∨ d = '~' := by simpa using isMark
      have first : ((d :: more).takeWhile (· == d)).headD tick = d := by simp
      simp only [Fence.char, first]
      refine ⟨mark, long, spaces, (d :: more).dropWhile (· == d), few, ?_,
        head_drop_while_ne d (d :: more)⟩
      rw [← take_while_eq_replicate, List.takeWhile_append_dropWhile]

theorem opens_fence_iff :
    OpensFence c count content ↔ ∃ fence, fence? content = some fence ∧ fence.char = c ∧
      fence.marker.length = count := by
  constructor
  · exact fence_of_opens
  · rintro ⟨fence, found, rfl, rfl⟩
    exact opens_of_fence found

theorem OpensFence.unique {d : Char} (opens : OpensFence c count content)
    (also : OpensFence d other content) :
    c = d ∧ count = other := by
  obtain ⟨fence, found, rfl, rfl⟩ := opens_fence_iff.1 opens
  obtain ⟨second, also_found, rfl, rfl⟩ := opens_fence_iff.1 also
  rw [found, Option.some.injEq] at also_found
  rw [also_found]
  exact ⟨rfl, rfl⟩

theorem not_opens_of_none (none_found : fence? content = none) (c : Char) (count : Nat) :
    ¬OpensFence c count content := by
  intro opens
  obtain ⟨fence, found, -⟩ := opens_fence_iff.1 opens
  simp [none_found] at found

theorem item_marker_of_mark (mark : c = tick ∨ c = '~') (rest : Text) :
    itemMarker? (c :: rest) = none := by
  have notDigit : isDecimalDigit c = false := by rcases mark with rfl | rfl <;> decide
  have notBullet : (c == '-' || c == '*' || c == '+') = false := by
    rcases mark with rfl | rfl <;> decide
  rw [itemMarker?, notBullet, List.takeWhile_cons_of_neg (by simp [notDigit]),
    List.dropWhile_cons_of_neg (by simp [notDigit])]
  rfl

theorem OpensFence.nothing_else (opens : OpensFence c count content) :
    content.blank = false ∧ quote? content = none ∧ item? content = none := by
  obtain ⟨mark, long, indent, info, few, rfl, ends⟩ := opens
  have some_copies : 0 < count := by omega
  have shallow := shallow_of_run info mark few some_copies
  obtain ⟨fewer, rfl⟩ := Nat.exists_eq_add_one_of_ne_zero (Nat.ne_of_gt some_copies)
  rw [List.replicate_succ, List.cons_append] at shallow ⊢
  refine ⟨?_, ?_, ?_⟩
  · have notBlank : isBlank c = false := by rcases mark with rfl | rfl <;> decide
    rw [Text.blank, List.all_append, List.all_cons, notBlank, Bool.false_and, Bool.and_false]
  · rw [quote?, shallow]
    rcases mark with rfl | rfl <;> rfl
  · have spaces : ∀ d ∈ List.replicate indent ' ', isSpaceOrTab d = true := by
      intro d member
      rw [List.eq_of_mem_replicate member]
      rfl
    have stops : ¬isSpaceOrTab c = true := by simp [ne_space_of_mark mark]
    rw [item?, List.dropWhile_append_of_pos spaces, List.dropWhile_cons_of_neg stops]
    simp only [item_marker_of_mark mark]

theorem closed_by_iff (found : fence? opening = some fence) :
    fence.closedBy content = true ↔ ClosesFence fence.char fence.marker.length content := by
  obtain ⟨mark, long, -⟩ := opens_of_fence found
  constructor
  · intro closes
    unfold Fence.closedBy at closes
    split at closes
    · simp at closes
    next indent rest indented =>
      obtain ⟨few_spaces, few, rfl⟩ := replicate_of_shallow indented
      rw [Bool.and_eq_true, decide_eq_true_eq, List.all_eq_true] at closes
      refine ⟨few_spaces, _, rest.dropWhile (· == fence.char), few, closes.1, ?_, closes.2⟩
      rw [← take_while_eq_replicate, List.takeWhile_append_dropWhile]
  · rintro ⟨indent, copies, blanks, few, enough, rfl, all_blank⟩
    have ends : blanks.head? ≠ some fence.char := by
      intro head
      have blank := all_blank _ (List.mem_of_head? head)
      rw [ne_space_of_mark mark] at blank
      exact Bool.false_ne_true blank
    obtain ⟨front, back⟩ := run_of_replicate copies ends
    rw [Fence.closedBy, shallow_of_run blanks mark few (by omega)]
    simp only [front, back, List.length_replicate, decide_eq_true enough, Bool.true_and,
      List.all_eq_true]
    exact all_blank

end Patterns

/-! ## The scan -/

section Scan

variable {strict : Bool} {c : Char} {count : Nat} {held lines rest : List Line}
  {regions others : List (List Line)}

theorem FenceScan.unique {state : FenceState} (scan : FenceScan strict state lines regions)
    (also : FenceScan strict state lines others) : regions = others := by
  induction scan generalizing others with
  | finished => cases also with | finished => rfl
  | unclosed c count held lenient => cases also with | unclosed => rfl
  | passes line rest regions plain more induction =>
      cases also with
      | passes _ _ _ _ also => exact induction also
      | opens c count _ _ _ opening _ => exact absurd opening (plain c count)
  | opens c count line rest regions opening more induction =>
      cases also with
      | passes _ _ _ plain _ => exact absurd opening (plain c count)
      | opens d other _ _ _ again also =>
          obtain ⟨rfl, rfl⟩ := opening.unique again
          exact induction also
  | holds c count held line rest regions still more induction =>
      cases also with
      | holds _ _ _ _ _ _ _ also => exact induction also
      | closes _ _ _ _ _ _ closing _ => exact absurd closing still
  | closes c count held line rest regions closing more induction =>
      cases also with
      | holds _ _ _ _ _ _ still _ => exact absurd closing still
      | closes _ _ _ _ _ _ _ also => rw [induction also]

theorem FenceScan.passes_all (plain : ∀ line ∈ lines, fence? line.content = none)
    (more : FenceScan strict .outside rest regions) :
    FenceScan strict .outside (lines ++ rest) regions := by
  induction lines with
  | nil => exact more
  | cons line lines induction =>
      rw [List.forall_mem_cons] at plain
      exact .passes line _ regions (not_opens_of_none plain.1) (induction plain.2)

theorem FenceScan.holds_all (still : ∀ line ∈ lines, ¬ClosesFence c count line.content)
    (more : FenceScan strict (.inside c count (held ++ lines)) rest regions) :
    FenceScan strict (.inside c count held) (lines ++ rest) regions := by
  induction lines generalizing held with
  | nil =>
      rw [List.append_nil] at more
      exact more
  | cons line lines induction =>
      rw [List.forall_mem_cons] at still
      rw [List.append_cons] at more
      exact .holds c count held line _ regions still.1 (induction still.2 more)

end Scan

end ProseLinter.Markdown
