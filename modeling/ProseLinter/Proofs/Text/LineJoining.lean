import ProseLinter.Proofs.Text.Lines

/-!
# The lines of texts put together

If a text ends in a terminator, and what follows does not make another terminator of it, the lines
of both together are the lines of the first and then those of the second, counted on and moved
behind it.
-/

namespace ProseLinter

/-- The line so many lines and so many offsets further down. -/
def Line.shift (down offset : Nat) (line : Line) : Line :=
  { line with number := down + line.number, start := offset + line.start }

/-- That the last line of a text has a terminator, and that it stays what it is before another
text. -/
structure Text.EndsBefore (first second : Text) : Prop where
  ended : ∀ last ∈ (Line.pieces first).getLast?, last.2 ≠ []
  apart : ¬ (first.getLast? = some '\r' ∧ second.head? = some '\n')

namespace Line

variable {c : Char} {first second rest : Text} {more : List (Text × Text)}

@[simp]
theorem start_shift (down offset : Nat) (line : Line) :
    (line.shift down offset).start = offset + line.start := rfl

@[simp]
theorem content_shift (down offset : Nat) (line : Line) :
    (line.shift down offset).content = line.content := rfl

@[simp]
theorem ending_shift (down offset : Nat) (line : Line) :
    (line.shift down offset).ending = line.ending := rfl

theorem ends_before_rest {part : Text × Text}
    (opened : pieces (first ++ rest) = part :: pieces rest)
    (ends : Text.EndsBefore (first ++ rest) second) : rest.EndsBefore second := by
  constructor
  · intro last found
    apply ends.ended last
    rw [opened, List.getLast?_cons]
    rw [Option.mem_def] at found
    rw [found]
    rfl
  · rintro ⟨returns, feeds⟩
    refine ends.apart ⟨?_, feeds⟩
    rw [List.getLast?_append, returns]
    rfl

theorem ends_before_tail {part : Text × Text} (notReturn : c ≠ '\r') (notFeed : c ≠ '\n')
    (opened : pieces rest = part :: more) (ends : Text.EndsBefore (c :: rest) second) :
    rest.EndsBefore second := by
  have whole : pieces (c :: rest) = (c :: part.1, part.2) :: more := by
    rw [pieces_other notReturn notFeed, opened]
  constructor
  · intro last found
    rw [opened] at found
    cases more with
    | nil =>
        rw [List.getLast?_singleton, Option.mem_some] at found
        rw [← found]
        exact ends.ended (c :: part.1, part.2) (by rw [whole, List.getLast?_singleton]; rfl)
    | cons next others =>
        rw [List.getLast?_cons_cons] at found
        exact ends.ended last (by rw [whole, List.getLast?_cons_cons]; exact found)
  · rintro ⟨returns, feeds⟩
    refine ends.apart ⟨?_, feeds⟩
    rw [List.getLast?_cons, returns]
    rfl

theorem pieces_append (ends : first.EndsBefore second) :
    pieces (first ++ second) = pieces first ++ pieces second := by
  induction first using pieces.induct with
  | case1 => rfl
  | case2 rest induction =>
      have opened : pieces (['\r', '\n'] ++ rest) = ([], ['\r', '\n']) :: pieces rest :=
        pieces_return_feed rest
      have later := induction (ends_before_rest opened ends)
      rw [List.cons_append, List.cons_append, pieces_return_feed, pieces_return_feed, later,
        List.cons_append]
  | case3 rest notFeed induction =>
      have opened : pieces (['\r'] ++ rest) = ([], ['\r']) :: pieces rest := pieces_return notFeed
      have later := induction (ends_before_rest opened ends)
      -- A line feed behind the return would open the second text, and the return end the first.
      have stillNotFeed : ∀ more, rest ++ second = '\n' :: more → False := by
        intro more same
        cases rest with
        | nil => exact ends.apart ⟨rfl, by rw [show second = '\n' :: more from same]; rfl⟩
        | cons d rest =>
            rw [List.cons_append, List.cons.injEq] at same
            exact notFeed rest (by rw [same.1])
      rw [List.cons_append, pieces_return stillNotFeed, pieces_return notFeed, later,
        List.cons_append]
  | case4 rest induction =>
      have opened : pieces (['\n'] ++ rest) = ([], ['\n']) :: pieces rest := pieces_feed rest
      have later := induction (ends_before_rest opened ends)
      rw [List.cons_append, pieces_feed, pieces_feed, later, List.cons_append]
  | case5 c rest _ notReturn notFeed last induction =>
      have whole := pieces_other notReturn notFeed rest
      rw [last] at whole
      exact absurd rfl (ends.ended ([c], []) (by rw [whole]; rfl))
  | case6 c rest _ notReturn notFeed content ending more opened induction =>
      have later := induction (ends_before_tail notReturn notFeed opened ends)
      rw [opened, List.cons_append] at later
      rw [List.cons_append, pieces_other notReturn notFeed, pieces_other notReturn notFeed,
        later, opened]
      rfl

theorem numbered_shift (down offset number start : Nat) (parts : List (Text × Text)) :
    numbered (down + number) (offset + start) parts =
      (numbered number start parts).map (shift down offset) := by
  induction parts generalizing number start with
  | nil => rfl
  | cons part rest induction =>
      rw [numbered, numbered, List.map_cons, ← induction, Nat.add_assoc, Nat.add_assoc offset,
        Nat.add_assoc offset]
      rfl

theorem numbered_append (number start : Nat) (parts others : List (Text × Text)) :
    numbered number start (parts ++ others) = numbered number start parts ++
      numbered (number + parts.length)
      (start + (parts.flatMap fun part => part.1 ++ part.2).length) others := by
  induction parts generalizing number start with
  | nil => rfl
  | cons part rest induction =>
      rw [List.cons_append, numbered, numbered, List.cons_append, induction, List.flatMap_cons]
      simp only [List.length_cons, List.length_append]
      congr 3 <;> omega

theorem length_numbered (number start : Nat) (parts : List (Text × Text)) :
    (numbered number start parts).length = parts.length := by
  induction parts generalizing number start with
  | nil => rfl
  | cons part rest induction => rw [numbered, List.length_cons, List.length_cons, induction]

theorem lines_append (ends : first.EndsBefore second) :
    (first ++ second).lines = first.lines ++
      second.lines.map (shift first.lines.length first.length) := by
  have counted : first.lines.length = (pieces first).length := length_numbered 1 0 _
  rw [Text.lines, pieces_append ends, numbered_append, pieces_joined, counted,
    Text.lines, Text.lines, ← numbered_shift, Nat.add_comm 1, Nat.zero_add]
  rfl

theorem ends_before_of_lines {earlier : List Line} {last : Line}
    (lines : first.lines = earlier ++ [last]) (ended : last.ending ≠ [])
    (apart : ¬ (first.getLast? = some '\r' ∧ second.head? = some '\n')) :
    first.EndsBefore second := by
  refine ⟨?_, apart⟩
  intro part found
  have parts : pieces first = first.lines.map fun line => (line.content, line.ending) :=
    (parts_numbered 1 0 (pieces first)).symm
  rw [parts, lines, List.map_append, List.map_singleton, List.getLast?_concat,
    Option.mem_some] at found
  exact found ▸ ended

end Line

end ProseLinter
