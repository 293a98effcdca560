import ProseLinter.Proofs.Rendering.Tap
import ProseLinter.Rendering.Lines

/-!
# A line for each finding

The compact report tells every finding of a batch in turn, and then how many there are. A finding is
told as it is, so it takes a line for itself exactly if its text holds no line feed; each line feed
in it makes a further line, and what stands on that line is not told apart from the findings.
-/

namespace ProseLinter.Compact

open Tap (linesOf IdsOnOneLine)

/-- The findings of a batch in turn, each with the id of its document. -/
def told (batch : BatchResult) : List (String × Finding) :=
  batch.flatMap fun result => result.findings.map fun finding => (result.documentId, finding)

/-- How a finding is told: where it is, how severe it is, what is wrong, and which rule says so. -/
def written (told : String × Finding) : String :=
  told.1 ++ ":" ++ toString told.2.position.line ++ ":" ++
    toString told.2.position.column ++ ": " ++ told.2.severity.name ++ " " ++ told.2.text ++ " [" ++
    told.2.ruleId ++ "]"

def total (number : Nat) : String :=
  toString number ++ if number = 1 then " problem" else " problems"

/-- That some lines tell a finding: they hold together what is said of it, in one line more than its
text has line feeds. -/
structure Tells (told : String × Finding) (block : List String) : Prop where
  joined : "\n".intercalate block = written told
  on_lines : ∀ line ∈ block, '\n' ∉ line.toList
  counted : block.length = told.2.text.toList.count '\n' + 1

variable {batch : BatchResult}

/-! ## The lines of a report -/

theorem findingLines_eq (batch : BatchResult) : findingLines batch = (told batch).map written := by
  rw [findingLines, told, List.map_flatMap]
  refine List.flatMap_congr fun result _ => ?_
  rw [List.map_map]
  refine List.map_congr_left fun finding _ => ?_
  simp only [Function.comp_apply, line, written, Position.written, String.append_assoc]

theorem findingCount_eq_length (batch : BatchResult) :
    batch.findingCount = (told batch).length := by
  induction batch with
  | nil => rfl
  | cons result batch induction =>
      rw [BatchResult.findingCount, BatchResult.total, told, List.flatMap_cons, List.length_append,
        List.length_map]
      exact congrArg _ induction

theorem plural_eq_total (number : Nat) : Phrase.plural number "problem" none = total number := by
  rw [Phrase.plural, total, String.append_assoc]
  by_cases one : number = 1
  · rw [if_pos one, if_pos (by omega)]
    rfl
  · rw [if_neg one, if_neg (by omega)]
    rfl

theorem lines_eq (batch : BatchResult) :
    lines batch = if told batch = [] then []
      else (told batch).map written ++ ["", total (told batch).length] := by
  rw [lines, findingLines_eq, findingCount_eq_length, plural_eq_total]
  cases told batch with
  | nil => rfl
  | cons first rest => rfl

variable {finding : String × Finding}

theorem ids_of_told (ids : ∀ result ∈ batch, IdsOnOneLine result) (member : finding ∈ told batch) :
    '\n' ∉ finding.1.toList ∧ '\n' ∉ finding.2.ruleId.toList := by
  obtain ⟨result, inside, among⟩ := List.mem_flatMap.mp member
  obtain ⟨own, found, rfl⟩ := List.mem_map.mp among
  exact ⟨(ids result inside).1, (ids result inside).2 own found⟩

theorem feed_not_mem_linesOf {report line : String} (member : line ∈ linesOf report) :
    '\n' ∉ line.toList := by
  obtain ⟨piece, cut, rfl⟩ := List.mem_map.mp member
  rw [String.toList_ofList]
  exact fun inside => (Text.mem_of_cutAt cut inside).2 rfl

theorem count_written (document : '\n' ∉ finding.1.toList) (rule : '\n' ∉ finding.2.ruleId.toList) :
    (written finding).toList.count '\n' = finding.2.text.toList.count '\n' := by
  have line := Tap.feed_not_mem_int finding.2.position.line
  have column := Tap.feed_not_mem_int finding.2.position.column
  have severity := Tap.feed_not_mem_severity finding.2.severity
  simp [written, List.count_append, List.count_eq_zero_of_not_mem, document, rule, line,
    column, severity]

theorem feed_mem_written (document : '\n' ∉ finding.1.toList)
    (rule : '\n' ∉ finding.2.ruleId.toList) :
    '\n' ∈ (written finding).toList ↔ '\n' ∈ finding.2.text.toList := by
  rw [← List.count_pos_iff, ← List.count_pos_iff, count_written document rule]

theorem tells_written (document : '\n' ∉ finding.1.toList) (rule : '\n' ∉ finding.2.ruleId.toList) :
    Tells finding (linesOf (written finding)) where
  joined := by
    have as_texts : (linesOf (written finding)).map String.toList =
        Text.cutAt '\n' (written finding).toList := by
      rw [linesOf, List.map_map]
      exact List.map_id'' (fun _ => String.toList_ofList) _
    rw [← String.toList_inj, String.toList_intercalate, as_texts]
    exact Text.intercalate_cutAt '\n' (written finding).toList
  on_lines := fun _ => feed_not_mem_linesOf
  counted := by rw [linesOf, List.length_map, Text.length_cutAt, count_written document rule]

theorem linesOf_total (number : Nat) : linesOf (total number) = [total number] := by
  apply Tap.linesOf_of_free
  rw [total]
  split <;> simp [Tap.feed_not_mem_digits]

theorem linesOf_render (some_found : told batch ≠ []) : linesOf (render batch) =
    ((told batch).map fun finding => linesOf (written finding)).flatten ++
      ["", total (told batch).length] := by
  rw [render, lines_eq, if_neg some_found, Tap.linesOf_intercalate (by simp), List.flatMap_append,
    List.flatMap_map, List.flatMap_def, List.flatMap_cons, List.flatMap_singleton, linesOf_total]
  rfl

theorem render_eq_empty_iff : render batch = "" ↔ told batch = [] := by
  constructor
  · intro empty
    by_contra some_found
    have lines := linesOf_render some_found
    rw [empty] at lines
    have counted := congrArg List.length lines
    simp [linesOf, Text.cutAt] at counted
  · intro none_found
    rw [render, lines_eq, if_pos none_found]
    rfl

/-- Every finding is told, in turn, and then how many there are. Each has a line for itself exactly
if none of the texts goes over the end of a line. -/
theorem findings_are_told_in_turn (batch : BatchResult)
    (ids : ∀ result ∈ batch, IdsOnOneLine result) :
    (render batch = "" ↔ told batch = []) ∧
      (told batch ≠ [] →
        (∃ blocks, List.Forall₂ Tells (told batch) blocks ∧
          linesOf (render batch) = blocks.flatten ++ ["", total (told batch).length]) ∧
        (linesOf (render batch) = (told batch).map written ++ ["", total (told batch).length] ↔
          ∀ finding ∈ told batch, '\n' ∉ finding.2.text.toList)) := by
  have tells : ∀ finding ∈ told batch, Tells finding (linesOf (written finding)) :=
    fun finding member =>
    tells_written (ids_of_told ids member).1 (ids_of_told ids member).2
  have feed : ∀ finding ∈ told batch,
      ('\n' ∈ (written finding).toList ↔ '\n' ∈ finding.2.text.toList) :=
    fun finding member => feed_mem_written (ids_of_told ids member).1 (ids_of_told ids member).2
  refine ⟨render_eq_empty_iff, fun some_found => ⟨⟨_, ?_, linesOf_render some_found⟩, ?_⟩⟩
  · rw [List.forall₂_map_right_iff, List.forall₂_same]
    exact tells
  · constructor
    · intro alone finding member inside
      have line : written finding ∈ linesOf (render batch) := by
        rw [alone]
        exact List.mem_append_left _ (List.mem_map_of_mem member)
      exact feed_not_mem_linesOf line ((feed finding member).mpr inside)
    · intro on_one_line
      have alone : ∀ finding ∈ told batch, linesOf (written finding) = [written finding] :=
        fun finding member =>
        Tap.linesOf_of_free fun inside =>
          on_one_line finding member ((feed finding member).mp inside)
      rw [linesOf_render some_found, List.map_congr_left alone, ← List.flatMap_def,
        ← List.map_eq_flatMap]

/-- A document in which a marker and an emoji were found. -/
def marked : DocumentResult where
  documentId := "notes.md"
  findings :=
    [⟨"no-todo", .error, Span.ofLength 0 4, "Found a marker.", none, some ⟨⟨1, 1⟩, ⟨1, 5⟩⟩⟩,
      ⟨"no-emoji", .warning, Span.ofLength 10 1, "Found emoji.",
        some (.delete (Span.ofLength 10 1)), some ⟨⟨2, 5⟩, ⟨2, 6⟩⟩⟩]

theorem marked_takes_two_lines :
    (∀ result ∈ [{ documentId := "clean.md" }, marked], IdsOnOneLine result) ∧
      linesOf (render [{ documentId := "clean.md" }, marked]) =
        ["notes.md:1:1: error Found a marker. [no-todo]",
          "notes.md:2:5: warning Found emoji. [no-emoji]", "", "2 problems"] := by
  have ids : ∀ result ∈ [{ documentId := "clean.md" }, marked], IdsOnOneLine result := by
    simp [IdsOnOneLine, marked]
  obtain ⟨-, told_in_turn⟩ := findings_are_told_in_turn _ ids
  have on_one_line : ∀ finding ∈ told [{ documentId := "clean.md" }, marked],
    '\n' ∉ finding.2.text.toList := by
    simp [told, marked]
  refine ⟨ids, ?_⟩
  rw [(told_in_turn (List.cons_ne_nil _ _)).2.mpr on_one_line]
  decide

/-- What is reported of a document when a rule fails with a message of two lines. -/
def failed : DocumentResult where
  documentId := "d"
  findings :=
    [⟨"r", .error, Span.point 0, "Rule 'r' failed: ValueError: one\ntwo", none,
      some ⟨⟨1, 1⟩, ⟨1, 1⟩⟩⟩]

/-- A finding whose text goes over the end of a line takes two lines. -/
theorem text_of_two_lines_takes_two : (∀ result ∈ [failed], IdsOnOneLine result) ∧
    linesOf (render [failed]) =
      ["d:1:1: error Rule 'r' failed: ValueError: one", "two [r]", "", "1 problem"] ∧
    linesOf (render [failed]) ≠ (told [failed]).map written ++ ["", total 1] := by
  refine ⟨by simp [IdsOnOneLine, failed], ?_, ?_⟩
  · decide
  · decide

end ProseLinter.Compact
