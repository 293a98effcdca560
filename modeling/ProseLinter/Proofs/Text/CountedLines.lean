import ProseLinter.Proofs.Text.Positions

/-!
# The lines that positions count

The lines of a text stand at the places that their numbers say, and the empty text counts as one
line. Every offset up to the length of the text belongs to one of them: it lies in the line, or the
line and the text end there.
-/

namespace ProseLinter

/-- The lines that positions count. The empty text has one of them. -/
def Text.countedLines (text : Text) : List Line :=
  match text.lines with
  | [] => [⟨1, 0, [], []⟩]
  | lines => lines

namespace Line

variable {text : Text} {line : Line} {before after : List Line} {offset : Nat}

/-- That an offset belongs to a line of a text: it lies in the line, or the line and the text end
there. -/
def Has (text : Text) (line : Line) (offset : Nat) : Prop :=
  line.start ≤ offset ∧ (offset < line.stop ∨ offset = line.stop ∧ line.stop = text.length)

theorem stop_le_length (member : line ∈ text.lines) : line.stop ≤ text.length := by
  have bound := (bounds_of_follow (follow_lines text) line member).2.2
  rwa [whole_text_lines, Nat.zero_add] at bound

theorem counted_cases (text : Text) :
    text.lines = [] ∧ text = [] ∧ text.countedLines = [⟨1, 0, [], []⟩] ∨
      text.lines ≠ [] ∧ text.countedLines = text.lines := by
  rw [Text.countedLines]
  cases lines : text.lines with
  | nil =>
      have whole := whole_text_lines text
      rw [lines, whole_text_nil] at whole
      exact .inl ⟨rfl, whole.symm, rfl⟩
  | cons first rest => exact .inr ⟨List.cons_ne_nil first rest, rfl⟩

theorem mem_counted (listed : line ∈ text.lines) : line ∈ text.countedLines := by
  rcases counted_cases text with ⟨none_there, -, -⟩ | ⟨-, same⟩
  · rw [none_there] at listed
    cases listed
  · exact same ▸ listed

theorem stop_le_of_counted (member : line ∈ text.countedLines) : line.stop ≤ text.length := by
  rcases counted_cases text with ⟨-, -, one⟩ | ⟨-, same⟩
  · rw [one, List.mem_singleton] at member
    rw [member]
    exact Nat.zero_le _
  · exact stop_le_length (same ▸ member)

theorem number_of_counted (split : text.countedLines = before ++ line :: after) :
    line.number = before.length + 1 := by
  rcases counted_cases text with ⟨-, -, one⟩ | ⟨-, same⟩
  · rw [one, List.singleton_eq_append_iff] at split
    rcases split with ⟨rfl, own⟩ | ⟨-, own⟩
    · rw [(List.cons.inj own).1, List.length_nil]
    · cases own
  · rw [number_of_split (same ▸ split : text.lines = before ++ line :: after), Nat.add_comm]

theorem getElem?_counted {index : Nat} :
    text.countedLines[index]? = some line ↔ line ∈ text.countedLines ∧ line.number = index + 1 := by
  constructor
  · intro found
    obtain ⟨bound, own⟩ := List.getElem?_eq_some_iff.mp found
    have split := List.take_append_drop index text.countedLines
    rw [List.drop_eq_getElem_cons bound, own] at split
    have number := number_of_counted split.symm
    rw [List.length_take_of_le (Nat.le_of_lt bound)] at number
    exact ⟨List.mem_of_getElem? found, number⟩
  · rintro ⟨member, number⟩
    obtain ⟨before, after, split⟩ := List.append_of_mem member
    have own := number_of_counted split
    rw [split, show index = before.length by omega, List.getElem?_append_right (Nat.le_refl _),
      Nat.sub_self]
    rfl

theorem eq_of_number {other : Line} (member : line ∈ text.countedLines)
    (among : other ∈ text.countedLines) (same : line.number = other.number) : line = other := by
  obtain ⟨before, after, split⟩ := List.append_of_mem member
  have number := number_of_counted split
  have found := getElem?_counted.mpr ⟨member, number⟩
  rw [getElem?_counted.mpr ⟨among, same ▸ number⟩, Option.some.injEq] at found
  exact found.symm

theorem exists_reaching {start : Nat} {lines : List Line} (follow : Follow start lines)
    (some_line : lines ≠ []) (reached : start ≤ offset)
    (within : offset ≤ start + (wholeText lines).length) : ∃ line ∈ lines,
      line.start ≤ offset ∧
        (offset < line.stop ∨ offset = line.stop ∧
          line.stop = start + (wholeText lines).length) := by
  induction lines generalizing start with
  | nil => exact absurd rfl some_line
  | cons line rest induction =>
      obtain ⟨starts, -, more⟩ := follow
      have stop : line.stop + (wholeText rest).length =
          start + (wholeText (line :: rest)).length := by
        rw [whole_text_cons, List.length_append, stop_eq, starts, Nat.add_assoc]
      by_cases inside : offset < line.stop
      · exact ⟨line, List.mem_cons_self, starts ▸ reached, .inl inside⟩
      · cases rest with
        | nil =>
            rw [whole_text_nil, List.length_nil, Nat.add_zero] at stop
            exact ⟨line, List.mem_cons_self, starts ▸ reached, .inr ⟨by omega, stop⟩⟩
        | cons next rest =>
            obtain ⟨found, member, own, ends⟩ :=
              induction more (List.cons_ne_nil next rest) (Nat.not_lt.mp inside) (stop ▸ within)
            exact ⟨found, List.mem_cons_of_mem line member, own, stop ▸ ends⟩

theorem exists_has (within : offset ≤ text.length) :
    ∃ line ∈ text.countedLines, Has text line offset := by
  rcases counted_cases text with ⟨-, rfl, one⟩ | ⟨some_line, same⟩
  · have first : offset = 0 := Nat.le_zero.mp within
    rw [one, first]
    exact ⟨_, List.mem_singleton_self _, Nat.le_refl 0, .inr ⟨rfl, rfl⟩⟩
  · have whole := congrArg List.length (whole_text_lines text)
    have found := exists_reaching (follow_lines text) some_line (Nat.zero_le offset) (by omega)
    rw [Nat.zero_add, whole] at found
    rw [same]
    exact found

theorem Has.ahead (has : Has text line offset)
    (split : text.countedLines = before ++ line :: after) :
    ∀ later ∈ after, offset < later.start := by
  rcases counted_cases text with ⟨-, -, one⟩ | ⟨-, same⟩
  · rw [one, List.singleton_eq_append_iff] at split
    rcases split with ⟨-, own⟩ | ⟨-, own⟩
    · rw [(List.cons.inj own).2]
      exact List.forall_mem_nil _
    · cases own
  · rw [same] at split
    have follow : Follow 0 (before ++ line :: after) := split ▸ follow_lines text
    intro later member
    rcases has.2 with inside | ⟨ends, last⟩
    · exact ahead_of_inside follow inside later member
    · -- A line behind the end of the text would hold nothing.
      have listed : later ∈ text.lines :=
        split ▸ List.mem_append_right _ (List.mem_cons_of_mem line member)
      have bounds := bounds_of_follow (follow_lines text) later listed
      have within := stop_le_length listed
      have in_turn := in_turn_of_follow follow
      rw [List.pairwise_append, List.pairwise_cons] at in_turn
      have behind := in_turn.2.1.1 later member
      omega

theorem Has.inside (has : Has text line offset) (before_end : offset < text.length) :
    offset < line.stop := by
  rcases has.2 with inside | ⟨ends, last⟩
  · exact inside
  · omega

theorem Has.last (has : Has text line text.length) (member : line ∈ text.countedLines) :
    (text.lines.getLast?.elim (1 : Int) fun last => last.number) = line.number := by
  rcases counted_cases text with ⟨none_there, -, one⟩ | ⟨-, same⟩
  · rw [one, List.mem_singleton] at member
    rw [none_there, member]
    rfl
  · obtain ⟨before, after, split⟩ := List.append_of_mem member
    have ahead := has.ahead split
    have none_behind : after = [] := by
      cases after with
      | nil => rfl
      | cons later rest =>
          have listed : later ∈ text.lines := by
            rw [← same, split]
            exact List.mem_append_right before (List.mem_cons_of_mem line List.mem_cons_self)
          have start_lt := (bounds_of_follow (follow_lines text) later listed).2.1
          have within := stop_le_length listed
          have beyond := ahead later List.mem_cons_self
          omega
    rw [← same, split, none_behind, List.getLast?_concat]
    rfl

end Line

end ProseLinter
