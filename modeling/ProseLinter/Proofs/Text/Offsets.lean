import ProseLinter.Fault
import ProseLinter.Proofs.Text.CountedLines

/-!
# Offsets and positions

Every offset of a text has a position, also the offset behind its last code point, and the position
leads back to the offset. Positions stand in the order of their offsets, and the line of a position
is the one in which the offset lies. A search by halving finds the same line.

Not every position that leads to an offset is the position of one. A column is held against the
whole text and not against its line, so a position may hang over an end of its line; it then leads
into another line. All others that are accepted are positions of the text.
-/

namespace ProseLinter

/-- The order in which positions are read: line by line, and column by column in one line. -/
def Position.Before (a b : Position) : Prop :=
  a.line < b.line ∨ a.line = b.line ∧ a.column < b.column

namespace LineMap

open Line (Has)

variable {text : Text} {line : Line} {position : Position} {offset : Nat}

theorem starts_eq (text : Text) : text.lineMap.starts = text.countedLines.map (·.start) := by
  rw [starts, Text.lineMap, Text.countedLines]
  cases text.lines <;> rfl

theorem start_of_counted {index start : Nat} : text.lineMap.starts[index]? = some start ↔
    ∃ line ∈ text.countedLines, line.number = index + 1 ∧ line.start = start := by
  simp only [starts_eq, List.getElem?_map, Option.map_eq_some_iff, Line.getElem?_counted, and_assoc]

theorem place_of_has (member : line ∈ text.countedLines) (has : Has text line offset) :
    text.lineMap.place offset = ⟨line.number, offset - line.start + 1⟩ := by
  obtain ⟨before, after, split⟩ := List.append_of_mem member
  rcases Line.counted_cases text with ⟨-, empty, one⟩ | ⟨-, same⟩
  · rw [one, List.mem_singleton] at member
    rw [member, empty]
    rfl
  · exact place_of_split (same ▸ split) has.1 (has.ahead split)

theorem positionOf_eq_ok_iff : text.lineMap.positionOf offset = .ok position ↔
    ∃ line ∈ text.countedLines, Has text line offset ∧
      position = ⟨line.number, offset - line.start + 1⟩ := by
  constructor
  · intro placed
    have within : offset ≤ text.length := by
      rcases Nat.lt_or_ge text.length offset with beyond | within
      · rw [positionOf, if_pos (.inr (Int.ofNat_lt.mpr beyond))] at placed
        cases placed
      · exact within
    obtain ⟨line, member, has⟩ := Line.exists_has within
    rw [positionOf_of_le within, place_of_has member has, Except.ok.injEq] at placed
    exact ⟨line, member, has, placed.symm⟩
  · rintro ⟨line, member, has, rfl⟩
    have within : offset ≤ text.length := by
      rcases has.2 with inside | ⟨ends, last⟩
      · exact Nat.le_trans (Nat.le_of_lt inside) (Line.stop_le_of_counted member)
      · omega
    rw [positionOf_of_le within, place_of_has member has]

theorem offsetOf_eq_ok_iff : text.lineMap.offsetOf position = .ok offset ↔
    ∃ line ∈ text.countedLines, position.line = line.number ∧
    (offset : Int) = line.start + position.column - 1 ∧
      offset ≤ text.length := by
  constructor
  · intro accepted
    rw [offsetOf] at accepted
    split at accepted
    next => cases accepted
    next some_line =>
      split at accepted
      next => cases accepted
      next start found =>
        dsimp only at accepted
        split at accepted
        next => cases accepted
        next inside =>
          obtain ⟨line, member, number, starts⟩ := start_of_counted.mp found
          have length : text.lineMap.length = text.length := rfl
          rw [Except.ok.injEq] at accepted
          exact ⟨line, member, by omega, by omega, by omega⟩
  · rintro ⟨line, member, on_line, leads, within⟩
    obtain ⟨before, after, split⟩ := List.append_of_mem member
    have number := Line.number_of_counted split
    have found : text.lineMap.starts[(position.line - 1).toNat]? = some line.start :=
      start_of_counted.mpr ⟨line, member, by omega, rfl⟩
    have inside : ¬ ((line.start : Int) + position.column - 1 < 0 ∨
        ((text.lineMap.length : Nat) : Int) < line.start + position.column - 1) := by
      have length : text.lineMap.length = text.length := rfl
      omega
    rw [offsetOf, if_neg (by omega), found]
    dsimp only
    rw [if_neg inside, ← leads, Int.toNat_natCast]

theorem before_of_lt {other : Line} {later : Nat} (member : line ∈ text.countedLines)
    (has : Has text line offset) (among : other ∈ text.countedLines)
    (other_has : Has text other later) (behind : offset < later) :
    Position.Before ⟨line.number, offset - line.start + 1⟩
    ⟨other.number, later - other.start + 1⟩ := by
  obtain ⟨before, after, split⟩ := List.append_of_mem member
  rw [split] at among
  rcases List.mem_append.mp among with earlier | member
  · -- The line would then lie behind the other one, and its offsets with it.
    obtain ⟨first, between, split_before⟩ := List.append_of_mem earlier
    rw [split_before, List.append_assoc] at split
    have ahead := other_has.ahead split line (List.mem_append_right between List.mem_cons_self)
    have reached := has.1
    omega
  · rcases List.mem_cons.mp member with same | further
    · rw [same]
      exact .inr ⟨rfl, by dsimp only; omega⟩
    · obtain ⟨between, last, split_after⟩ := List.append_of_mem further
      have number := Line.number_of_counted split
      rw [split_after, ← List.cons_append, ← List.append_assoc] at split
      have other_number := Line.number_of_counted split
      rw [List.length_append, List.length_cons] at other_number
      exact .inl (by dsimp only; omega)

/-! ## Searching by halving -/

/-- The number of starts at or before an offset, looked for from `low` up to `high`. -/
def countStarted (starts : List Nat) (offset low high : Nat) : Nat :=
  if low < high then
    let middle := (low + high) / 2
    if offset < starts.getD middle 0 then countStarted starts offset low middle
    else countStarted starts offset (middle + 1) high
  else low
termination_by high - low

theorem countStarted_splits {starts : List Nat} (ascending : starts.Pairwise (· ≤ ·))
    {low high : Nat} (ordered : low ≤ high) (inside : high ≤ starts.length)
    (passed : ∀ start ∈ starts.take low, start ≤ offset)
    (ahead : ∀ start ∈ starts.drop high, offset < start) :
    countStarted starts offset low high ≤ high ∧
      (∀ start ∈ starts.take (countStarted starts offset low high), start ≤ offset) ∧
      ∀ start ∈ starts.drop (countStarted starts offset low high), offset < start := by
  fun_induction countStarted starts offset low high with
  | case1 low high some_left middle behind induction =>
      have bound : middle < starts.length := by omega
      rw [List.getD_eq_getElem?_getD, List.getElem?_eq_getElem bound, Option.getD_some] at behind
      have later : ∀ start ∈ starts.drop middle, offset < start := by
        have sorted := ascending.sublist (List.drop_sublist middle starts)
        rw [List.drop_eq_getElem_cons bound] at sorted ⊢
        intro start member
        rcases List.mem_cons.mp member with rfl | further
        · exact behind
        · exact Nat.lt_of_lt_of_le behind (List.rel_of_pairwise_cons sorted further)
      obtain ⟨below, rest⟩ := induction (by omega) (by omega) passed later
      exact ⟨by omega, rest⟩
  | case2 low high some_left middle reached induction =>
      have bound : middle < starts.length := by omega
      rw [List.getD_eq_getElem?_getD, List.getElem?_eq_getElem bound, Option.getD_some,
        Nat.not_lt] at reached
      have earlier : ∀ start ∈ starts.take (middle + 1), start ≤ offset := by
        have sorted := ascending.sublist (List.take_sublist (middle + 1) starts)
        rw [List.take_succ_eq_append_getElem bound] at sorted ⊢
        rw [List.pairwise_append] at sorted
        intro start member
        rcases List.mem_append.mp member with among | last
        · exact Nat.le_trans (sorted.2.2 start among _ (List.mem_singleton_self _)) reached
        · exact List.mem_singleton.mp last ▸ reached
      exact induction (by omega) inside earlier ahead
  | case3 low high none_left =>
      have same : low = high := by omega
      exact ⟨ordered, passed, same ▸ ahead⟩

theorem starts_ascend (text : Text) : text.lineMap.starts.Pairwise (· ≤ ·) := by
  rw [starts_eq, List.pairwise_map]
  rcases Line.counted_cases text with ⟨-, -, one⟩ | ⟨-, same⟩
  · rw [one]
    exact List.pairwise_singleton _ _
  · rw [same]
    refine (Line.in_turn_of_follow (Line.follow_lines text)).imp fun {earlier later} behind => ?_
    rw [Line.stop_eq] at behind
    omega

theorem countStarted_eq_line (text : Text) (offset : Nat) :
    (countStarted text.lineMap.starts offset 0 text.lineMap.starts.length : Int) =
      (text.lineMap.place offset).line := by
  let starts := text.lineMap.starts
  let found := countStarted starts offset 0 starts.length
  have none_passed : ∀ start ∈ starts.take 0, start ≤ offset := List.forall_mem_nil _
  have none_ahead : ∀ start ∈ starts.drop starts.length, offset < start := by
    rw [List.drop_length]
    exact List.forall_mem_nil _
  obtain ⟨within, passed, ahead⟩ :=
    countStarted_splits (starts_ascend text) (Nat.zero_le _) (Nat.le_refl _) none_passed none_ahead
  have up_to : ∀ start ∈ starts.take found, decide (start ≤ offset) = true :=
    fun start member => decide_eq_true (passed start member)
  have no_later : ∀ start ∈ (starts.drop found).head?, decide (start ≤ offset) = false :=
    fun start head => decide_eq_false (Nat.not_le.mpr (ahead start (List.mem_of_mem_head? head)))
  have taken : starts.takeWhile (fun start => decide (start ≤ offset)) = starts.take found := by
    have cut := (cut_behind_run up_to no_later).1
    rwa [List.take_append_drop] at cut
  have counted : (starts.take found).length = found := List.length_take_of_le within
  rw [place, taken, counted]

theorem refused_of_outside {offset : Int} (outside : offset < 0 ∨ text.length < offset) :
    text.lineMap.positionOf offset = .error (.offsetOutside offset text.length) :=
  if_pos outside

end LineMap

open LineMap (countStarted)

/-- Every offset of a text has a position, with line and column counted from 1, that leads back to
the offset, and a greater offset has a later position. The line is the one line in which the offset
lies, and at the end of the text the last line, or line 1 if there is none; it is also what halving
finds among the starts of the lines. Every other offset is refused. -/
theorem offsets_stand_at_positions (text : Text) :
    (∀ offset : Nat, offset ≤ text.length →
      ∃ position, text.lineMap.positionOf offset = .ok position ∧
      1 ≤ position.line ∧ 1 ≤ position.column ∧ text.lineMap.offsetOf position = .ok offset ∧
      (∀ later : Nat, offset < later → later ≤ text.length →
        ∃ other, text.lineMap.positionOf later = .ok other ∧
        position.Before other) ∧
      (offset < text.length → ∃ line ∈ text.lines, line.start ≤ offset ∧ offset < line.stop ∧
        position.line = line.number ∧
        ∀ other ∈ text.lines, other.start ≤ offset → offset < other.stop → other = line) ∧
      (offset = text.length → position.line =
        text.lines.getLast?.elim (1 : Int) fun last => last.number) ∧
      position.line = countStarted text.lineMap.starts offset 0 text.lineMap.starts.length) ∧
    ∀ offset : Int, offset < 0 ∨ text.length < offset → ∃ fault,
      liftPosition (text.lineMap.positionOf offset) = .error fault ∧ fault.kind = "ValueError" := by
  constructor
  · intro offset within
    obtain ⟨line, member, has⟩ := Line.exists_has within
    have reached := has.1
    have placed := LineMap.place_of_has member has
    obtain ⟨before, after, split⟩ := List.append_of_mem member
    have number := Line.number_of_counted split
    refine ⟨⟨line.number, offset - line.start + 1⟩, ?_, ?_, ?_, ?_, ?_, ?_, ?_, ?_⟩
    · rw [LineMap.positionOf_of_le within, placed]
    · dsimp only
      omega
    · dsimp only
      omega
    · exact LineMap.offsetOf_eq_ok_iff.mpr ⟨line, member, rfl, by dsimp only; omega, within⟩
    · intro later behind later_within
      obtain ⟨other, among, other_has⟩ := Line.exists_has later_within
      refine ⟨_, ?_, LineMap.before_of_lt member has among other_has behind⟩
      rw [LineMap.positionOf_of_le later_within, LineMap.place_of_has among other_has]
    · intro before_end
      have inside := has.inside before_end
      have listed : line ∈ text.lines := by
        rcases Line.counted_cases text with ⟨-, rfl, -⟩ | ⟨-, same⟩
        · cases before_end
        · exact same ▸ member
      refine ⟨line, listed, reached, inside, rfl, ?_⟩
      intro other among other_reached other_inside
      exact (Line.eq_of_shared (Line.follow_lines text) listed among reached inside other_reached
        other_inside).symm
    · intro ends
      rw [ends] at has
      exact (has.last member).symm
    · rw [LineMap.countStarted_eq_line, placed]
  · intro offset outside
    rw [LineMap.refused_of_outside outside]
    exact ⟨_, rfl, rfl⟩

/-- In a text with a terminator of two code points and one at its end: the offset between the two
belongs to the line that they end, and the end of the text to the line before it. -/
theorem offsets_at_terminators_are_placed :
    let text : Text := ['a', '\r', '\n', 'b', '\r']
    text.lineMap.positionOf 2 = .ok ⟨1, 3⟩ ∧ text.lineMap.offsetOf ⟨1, 3⟩ = .ok 2 ∧
      text.lineMap.positionOf 5 = .ok ⟨2, 3⟩ ∧ Position.Before ⟨1, 3⟩ ⟨2, 3⟩ ∧
      ∃ fault, liftPosition (text.lineMap.positionOf 6) = .error fault ∧
      fault.kind = "ValueError" := by
  intro text
  obtain ⟨accepted, refused⟩ := offsets_stand_at_positions text
  have first : text.lineMap.positionOf 2 = .ok ⟨1, 3⟩ := rfl
  have last : text.lineMap.positionOf 5 = .ok ⟨2, 3⟩ := rfl
  obtain ⟨position, placed, -, -, back, behind, -⟩ := accepted 2 (by decide)
  obtain ⟨other, other_placed, order⟩ := behind 5 (by decide) (by decide)
  cases first.symm.trans placed
  cases last.symm.trans other_placed
  exact ⟨first, back, last, order, refused 6 (by decide)⟩

/-! ## Positions that lead to offsets -/

namespace LineMap

variable {text : Text} {position : Position} {offset : Nat}

/-- That a position hangs over an end of its line: its column is below 1 or past the end of the line
and its terminator, and leads to an offset of the text in another line. At the end of the text the
last line has one column more. -/
def Overhangs (text : Text) (position : Position) (offset : Nat) : Prop :=
  ∃ line ∈ text.lines, position.line = line.number ∧
    (offset : Int) = line.start + position.column - 1 ∧
    offset ≤ text.length ∧
    (position.column < 1 ∨ line.whole.length < position.column ∧ line.stop < text.length)

theorem accepted_iff : text.lineMap.offsetOf position = .ok offset ↔
    text.lineMap.positionOf offset = .ok position ∨ Overhangs text position offset := by
  rw [offsetOf_eq_ok_iff, positionOf_eq_ok_iff]
  constructor
  · rintro ⟨line, member, on_line, leads, within⟩
    by_cases has : Line.Has text line offset
    · refine .inl ⟨line, member, has, ?_⟩
      have reached := has.1
      have column : position.column = offset - line.start + 1 := by omega
      rw [← on_line, ← column]
    · right
      rcases Line.counted_cases text with ⟨-, empty, one⟩ | ⟨-, same⟩
      · rw [one, List.mem_singleton] at member
        rw [empty, List.length_nil, Nat.le_zero] at within
        rw [member, empty, within] at has
        exact absurd ⟨Nat.le_refl 0, .inr ⟨rfl, rfl⟩⟩ has
      · have stop := Line.stop_eq line
        have below := Line.stop_le_of_counted member
        rw [Line.Has] at has
        exact ⟨line, same ▸ member, on_line, leads, within, by omega⟩
  · rintro (⟨line, member, has, rfl⟩ | ⟨line, listed, on_line, leads, within, -⟩)
    · have below := Line.stop_le_of_counted member
      obtain ⟨reached, inside⟩ := has
      exact ⟨line, member, rfl, by dsimp only; omega, by omega⟩
    · exact ⟨line, Line.mem_counted listed, on_line, leads, within⟩

theorem Overhangs.no_position (overhangs : Overhangs text position offset) (other : Int) :
    text.lineMap.positionOf other ≠ .ok position := by
  obtain ⟨line, listed, on_line, -, -, outside⟩ := overhangs
  intro placed
  rcases Int.lt_or_le other 0 with negative | reached
  · rw [refused_of_outside (.inl negative)] at placed
    cases placed
  · obtain ⟨own, same⟩ := Int.eq_ofNat_of_zero_le reached
    rw [same, positionOf_eq_ok_iff] at placed
    obtain ⟨found, member, has, rfl⟩ := placed
    have number : found.number = line.number := Int.ofNat.inj on_line
    rw [Line.eq_of_number member (Line.mem_counted listed) number] at has outside
    have stop := Line.stop_eq line
    obtain ⟨started, inside⟩ := has
    dsimp only at outside
    omega

end LineMap

open LineMap (Overhangs)

/-- A position is accepted just if it is the position of the offset to which it leads or hangs over
an end of its line. A position that hangs over is the position of no offset. All others that are the
position of no offset are refused. -/
theorem positions_lead_back_unless_they_hang_over (text : Text) (position : Position) :
    (∀ offset : Nat, text.lineMap.offsetOf position = .ok offset ↔
      text.lineMap.positionOf offset = .ok position ∨ Overhangs text position offset) ∧
    (∀ offset : Nat, Overhangs text position offset →
      ∀ other : Int, text.lineMap.positionOf other ≠ .ok position) ∧
    ((∀ offset : Int, text.lineMap.positionOf offset ≠ .ok position) →
      (∀ offset, ¬ Overhangs text position offset) →
      ∃ fault, liftPosition (text.lineMap.offsetOf position) = .error fault ∧
        fault.kind = "ValueError") := by
  refine ⟨fun offset => LineMap.accepted_iff, fun offset overhangs => overhangs.no_position, ?_⟩
  intro no_position no_overhang
  cases found : text.lineMap.offsetOf position with
  | error fault => exact ⟨_, rfl, rfl⟩
  | ok offset =>
      rcases LineMap.accepted_iff.mp found with placed | overhangs
      · exact absurd placed (no_position offset)
      · exact absurd overhangs (no_overhang offset)

/-- In a text of two lines the column behind a terminator and the column before a line lead into the
other line; a column behind the end of the text is refused. -/
theorem columns_hang_over_or_are_refused :
    let text : Text := ['a', '\n', 'b']
    Overhangs text ⟨1, 3⟩ 2 ∧ text.lineMap.offsetOf ⟨1, 3⟩ = .ok 2 ∧
      text.lineMap.positionOf 2 ≠ .ok ⟨1, 3⟩ ∧
      ∃ fault, liftPosition (text.lineMap.offsetOf ⟨2, 3⟩) = .error fault ∧
      fault.kind = "ValueError" := by
  intro text
  have overhangs : Overhangs text ⟨1, 3⟩ 2 :=
    ⟨⟨1, 0, ['a'], ['\n']⟩, by decide, rfl, rfl, by decide, by decide⟩
  obtain ⟨leads, no_position, -⟩ := positions_lead_back_unless_they_hang_over text ⟨1, 3⟩
  obtain ⟨leads_behind, -, refused⟩ := positions_lead_back_unless_they_hang_over text ⟨2, 3⟩
  have nowhere : ∀ offset, text.lineMap.offsetOf ⟨2, 3⟩ ≠ .ok offset := fun offset => nofun
  have no_offset : ∀ offset : Int, text.lineMap.positionOf offset ≠ .ok ⟨2, 3⟩ := by
    intro offset placed
    rcases Int.lt_or_le offset 0 with negative | reached
    · rw [LineMap.refused_of_outside (.inl negative)] at placed
      cases placed
    · obtain ⟨own, rfl⟩ := Int.eq_ofNat_of_zero_le reached
      exact nowhere own ((leads_behind own).mpr (.inl placed))
  have no_overhang : ∀ offset, ¬ Overhangs text ⟨2, 3⟩ offset :=
    fun offset overhangs => nowhere offset ((leads_behind offset).mpr (.inr overhangs))
  exact ⟨overhangs, (leads 2).mpr (.inr overhangs), no_position 2 overhangs 2,
    refused no_offset no_overhang⟩

/-- A column past the end of its line is accepted and leads into the next line, and so does column 0
into the line before. -/
theorem column_past_its_line_leads_into_the_next :
    let text : Text := ['a', '\n', 'b']
    text.lineMap.offsetOf ⟨1, 3⟩ = .ok 2 ∧ text.lineMap.positionOf 2 = .ok ⟨2, 1⟩ ∧
      text.lineMap.offsetOf ⟨2, 0⟩ = .ok 1 ∧ text.lineMap.positionOf 1 = .ok ⟨1, 2⟩ ∧
      ¬ ∀ (position : Position) (offset : Nat), text.lineMap.offsetOf position = .ok offset →
        text.lineMap.positionOf offset = .ok position := by
  intro text
  have accepted : text.lineMap.offsetOf ⟨1, 3⟩ = .ok 2 := rfl
  have placed : text.lineMap.positionOf 2 = .ok ⟨2, 1⟩ := rfl
  refine ⟨accepted, placed, rfl, rfl, ?_⟩
  intro back
  have other := placed.symm.trans (back ⟨1, 3⟩ 2 accepted)
  cases other

end ProseLinter
