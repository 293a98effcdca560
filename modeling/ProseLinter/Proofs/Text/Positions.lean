import ProseLinter.Position
import ProseLinter.Proofs.Text.Cutting
import ProseLinter.Proofs.Text.Lines

/-!
# Where offsets stand

The map between offsets and positions knows only where lines start. The lines of a text are counted
from 1 and come one behind the other, so an offset in one of them is placed in that line, as many
columns behind the first as it lies behind its start.
-/

namespace ProseLinter

namespace Line

variable {before after : List Line} {line : Line}

theorem number_of_split {number start : Nat} {parts : List (Text × Text)}
    (split : numbered number start parts = before ++ line :: after) :
    line.number = number + before.length := by
  induction before generalizing number start parts with
  | nil =>
      cases parts with
      | nil => cases split
      | cons part rest =>
          rw [numbered, List.nil_append, List.cons.injEq] at split
          rw [← split.1, List.length_nil, Nat.add_zero]
  | cons first before induction =>
      cases parts with
      | nil => cases split
      | cons part rest =>
          rw [numbered, List.cons_append, List.cons.injEq] at split
          rw [induction split.2, List.length_cons, Nat.add_assoc, Nat.add_comm 1]

theorem started_of_reached {start offset : Nat} (follow : Follow start (before ++ line :: after))
    (reached : line.start ≤ offset) : ∀ earlier ∈ before ++ [line], earlier.start ≤ offset := by
  have in_turn := in_turn_of_follow follow
  have bounds := bounds_of_follow follow
  rw [List.pairwise_append] at in_turn
  intro earlier member
  rcases List.mem_append.mp member with among | same
  · have stop := in_turn.2.2 earlier among line List.mem_cons_self
    have own := (bounds earlier (List.mem_append_left _ among)).2.1
    omega
  · rw [List.mem_singleton.mp same]
    exact reached

theorem ahead_of_inside {start offset : Nat} (follow : Follow start (before ++ line :: after))
    (inside : offset < line.stop) : ∀ later ∈ after, offset < later.start := by
  have in_turn := in_turn_of_follow follow
  rw [List.pairwise_append, List.pairwise_cons] at in_turn
  intro later member
  exact Nat.lt_of_lt_of_le inside (in_turn.2.1.1 later member)

theorem eq_of_shared {start offset : Nat} {lines : List Line} {one other : Line}
    (follow : Follow start lines) (among : one ∈ lines) (also : other ∈ lines)
    (one_reached : one.start ≤ offset) (one_inside : offset < one.stop)
    (other_reached : other.start ≤ offset) (other_inside : offset < other.stop) : one = other := by
  obtain ⟨before, after, rfl⟩ := List.append_of_mem among
  have later := ahead_of_inside follow one_inside
  rcases List.mem_append.mp also with earlier | member
  · -- A line before the one stops before the offset.
    have in_turn := in_turn_of_follow follow
    rw [List.pairwise_append] at in_turn
    have stop := in_turn.2.2 other earlier one List.mem_cons_self
    omega
  · rcases List.mem_cons.mp member with same | behind
    · exact same.symm
    · have beyond := later other behind
      omega

theorem head_of_start {start : Nat} {lines : List Line} (follow : Follow start lines)
    (among : line ∈ lines) (starts : line.start ≤ start) : lines.head? = some line := by
  cases lines with
  | nil => exact absurd among List.not_mem_nil
  | cons first rest =>
      rcases List.mem_cons.mp among with same | behind
      · rw [same, List.head?_cons]
      · have own := bounds_of_follow follow first List.mem_cons_self
        have beyond := (bounds_of_follow follow.2.2 line behind).1
        omega

end Line

namespace LineMap

open Line (Follow)

variable {text : Text} {line : Line} {offset : Nat}

theorem starts_of_lines {before after : List Line} (split : text.lines = before ++ line :: after) :
    text.lineMap.starts = (before ++ [line]).map Line.start ++ after.map Line.start := by
  have some_lines : text.lines ≠ [] := by simp [split]
  have starts : text.lineMap.starts = text.lines.map Line.start := by
    rw [starts, Text.lineMap]
    cases lines : text.lines with
    | nil => exact absurd lines some_lines
    | cons first rest => rfl
  rw [starts, split, ← List.map_append, List.append_assoc, List.singleton_append]

theorem place_of_split {before after : List Line} (split : text.lines = before ++ line :: after)
    (reached : line.start ≤ offset) (ahead : ∀ later ∈ after, offset < later.start) :
    text.lineMap.place offset = ⟨line.number, offset - line.start + 1⟩ := by
  have follow : Follow 0 (before ++ line :: after) := split ▸ Line.follow_lines text
  have started := Line.started_of_reached follow reached
  have up_to : ∀ start ∈ (before ++ [line]).map Line.start, decide (start ≤ offset) = true :=
    List.forall_mem_map.mpr fun earlier among => decide_eq_true (started earlier among)
  have no_later : ∀ start ∈ (after.map Line.start).head?, decide (start ≤ offset) = false := by
    intro start head
    obtain ⟨later, behind, rfl⟩ := List.mem_map.mp (List.mem_of_mem_head? head)
    exact decide_eq_false (Nat.not_le.mpr (ahead later behind))
  have passed : text.lineMap.starts.takeWhile (fun start => decide (start ≤ offset)) =
      (before ++ [line]).map Line.start := by
    rw [starts_of_lines split, (cut_behind_run up_to no_later).1]
  have number : line.number = 1 + before.length := Line.number_of_split split
  rw [place, passed, List.map_append, List.map_singleton, List.getLastD_concat, List.length_append,
    List.length_map, List.length_singleton, number, Nat.add_comm 1]

theorem positionOf_of_lies (member : line ∈ text.lines) (reached : line.start ≤ offset)
    (inside : offset < line.stop) :
    text.lineMap.positionOf offset = .ok ⟨line.number, offset - line.start + 1⟩ := by
  have bound := (Line.bounds_of_follow (Line.follow_lines text) line member).2.2
  rw [Line.whole_text_lines, Nat.zero_add] at bound
  obtain ⟨before, after, split⟩ := List.append_of_mem member
  have ahead := Line.ahead_of_inside (split ▸ Line.follow_lines text) inside
  rw [positionOf_of_le (Nat.le_of_lt (Nat.lt_of_lt_of_le inside bound)),
    place_of_split split reached ahead]

end LineMap

end ProseLinter
