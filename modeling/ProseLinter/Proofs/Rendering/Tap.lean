import Mathlib.Data.List.Forall2
import ProseLinter.Proofs.Json.Quoting
import ProseLinter.Proofs.Text.Cutting
import ProseLinter.Rendering.Lines

/-!
# Test points

A report is read line by line, and a line is taken as a test point by how it starts. Whatever the
texts of the findings are, the points found in this way are those of the documents, in turn, and the
lines between them are the blocks for what was found: no text opens a point or closes a block, and
each is read back as it was.
-/

namespace ProseLinter.Tap

/-! ## Reading a report -/

def linesOf (report : String) : List String := (Text.cutAt '\n' report.toList).map String.ofList

def startsPoint (line : String) : Bool :=
  Text.beginsWith line.toList "ok ".toList || Text.beginsWith line.toList "not ok ".toList

/-- The lines that start a point, each with the lines from it to the next. -/
def pointsIn : List String → List (String × List String)
  | [] => []
  | line :: rest =>
      if startsPoint line then
        (line, rest.takeWhile fun other => !startsPoint other) :: pointsIn rest
      else pointsIn rest

/-- The entry of a finding: its text can be read from what is quoted on the first line. -/
def TellsFinding (finding : Finding) (entry : List String) : Prop :=
  ∃ quoted : String, Json.read quoted.toList = .ok (.string finding.text) ∧
    entry = ["    - message: " ++ quoted,
      "      severity: " ++ finding.severity.name,
      "      ruleId: " ++ finding.ruleId,
      "      line: " ++ toString finding.position.line,
      "      column: " ++ toString finding.position.column]

/-- The point of a document. It is passed, with no lines after it, if nothing was found; else a
block has an entry for each finding in turn. -/
def TellsResult (result : DocumentResult) (number : Nat) (line : String)
    (block : List String) : Prop :=
  (result.findings = [] ∧ line = "ok " ++ toString number ++ " - " ++ result.documentId ∧
    block = []) ∨
    (result.findings ≠ [] ∧ line = "not ok " ++ toString number ++ " - " ++ result.documentId ∧
      ∃ entries, List.Forall₂ TellsFinding result.findings entries ∧
        block = ["  ---", "  messages:"] ++ entries.flatten ++ ["  ..."])

/-- Nothing that a report says as it is goes over the end of a line. -/
def IdsOnOneLine (result : DocumentResult) : Prop :=
  '\n' ∉ result.documentId.toList ∧ ∀ finding ∈ result.findings, '\n' ∉ finding.ruleId.toList

variable {line : String} {between rest : List String}

theorem not_startsPoint_of_head {c : Char} (head : line.toList.head? = some c) (not_ok : c ≠ 'o')
    (not_not : c ≠ 'n') :
    startsPoint line = false := by
  obtain ⟨behind, same⟩ := List.head?_eq_some_iff.mp head
  rw [startsPoint, same]
  simp [Text.beginsWith, List.isPrefixOf, not_ok.symm, not_not.symm]

theorem pointsIn_append (plain : ∀ line ∈ between, startsPoint line = false) :
    pointsIn (between ++ rest) = pointsIn rest := by
  induction between with
  | nil => rfl
  | cons line between induction =>
      obtain ⟨own, others⟩ := List.forall_mem_cons.mp plain
      rw [List.cons_append, pointsIn, if_neg (by simp [own]), induction others]

theorem pointsIn_point (starts : startsPoint line = true)
    (plain : ∀ line ∈ between, startsPoint line = false)
    (next : ∀ line ∈ rest.head?, startsPoint line = true) :
    pointsIn (line :: between ++ rest) = (line, between) :: pointsIn rest := by
  have goes_on : ∀ line ∈ between, (!startsPoint line) = true :=
    fun line inside => by rw [plain line inside]; rfl
  have stops : ∀ line ∈ rest.head?, (!startsPoint line) = false :=
    fun line head => by rw [next line head]; rfl
  rw [List.cons_append, pointsIn, if_pos starts, (cut_behind_run goes_on stops).1,
    pointsIn_append plain]

/-! ## Lines -/

theorem feed_not_mem_digits (n : Nat) : '\n' ∉ Nat.toDigits 10 n := by
  intro inside
  exact absurd (Nat.isDigit_of_mem_toDigits (by decide) (by decide) inside) (by decide)

theorem feed_not_mem_int (n : Int) : '\n' ∉ n.repr.toList := by
  cases n with
  | ofNat n => simp [Int.repr, feed_not_mem_digits]
  | negSucc n => simp [Int.repr, feed_not_mem_digits]

theorem feed_not_mem_severity (severity : Severity) : '\n' ∉ severity.name.toList := by
  cases severity <;> decide

variable {result : DocumentResult} {batch : BatchResult} {number : Nat}

theorem feed_not_mem_entry {finding : Finding} (own : '\n' ∉ finding.ruleId.toList) :
    ∀ line ∈ entry finding, '\n' ∉ line.toList := by
  simp [entry, Json.feed_not_mem_quotePlain, feed_not_mem_int, own, feed_not_mem_severity]

theorem feed_not_mem_pointLine (number : Nat) (own : '\n' ∉ result.documentId.toList) :
    '\n' ∉ (pointLine number result).toList := by
  rw [pointLine]
  split <;> simp [feed_not_mem_digits, own]

theorem feed_not_mem_point (number : Nat) (ids : IdsOnOneLine result) :
    ∀ line ∈ point number result, '\n' ∉ line.toList := by
  have entries : ∀ line ∈ result.findings.flatMap entry, '\n' ∉ line.toList := by
    intro line inside
    obtain ⟨finding, found, told⟩ := List.mem_flatMap.mp inside
    exact feed_not_mem_entry (ids.2 finding found) line told
  rw [point]
  refine List.forall_mem_cons.mpr ⟨feed_not_mem_pointLine number ids.1, ?_⟩
  split
  · simp
  · simpa [or_imp, forall_and] using entries

theorem feed_not_mem_points (number : Nat) (ids : ∀ result ∈ batch, IdsOnOneLine result) :
    ∀ line ∈ points number batch, '\n' ∉ line.toList := by
  induction batch generalizing number with
  | nil => simp [points]
  | cons result batch induction =>
      obtain ⟨own, others⟩ := List.forall_mem_cons.mp ids
      rw [points, List.forall_mem_append]
      exact ⟨feed_not_mem_point number own, induction (number + 1) others⟩

theorem feed_not_mem_lines (ids : ∀ result ∈ batch, IdsOnOneLine result) :
    ∀ line ∈ lines batch, '\n' ∉ line.toList := by
  rw [lines, List.forall_mem_cons, List.forall_mem_cons]
  exact ⟨by decide, by simp [feed_not_mem_digits], feed_not_mem_points 1 ids⟩

theorem linesOf_intercalate {texts : List String} (some_text : texts ≠ []) :
    linesOf ("\n".intercalate texts) = texts.flatMap linesOf := by
  rw [linesOf, String.toList_intercalate]
  change (Text.cutAt '\n' (['\n'].intercalate _)).map String.ofList = texts.flatMap linesOf
  rw [Text.cutAt_intercalate_flatMap (by simpa using some_text), List.flatMap_map, List.map_flatMap]
  rfl

theorem linesOf_of_free (free : '\n' ∉ line.toList) : linesOf line = [line] := by
  rw [linesOf, Text.cutAt_of_not_mem free, List.map_singleton, String.ofList_toList]

theorem linesOf_render (ids : ∀ result ∈ batch, IdsOnOneLine result) :
    linesOf (render batch) = lines batch := by
  have some_line : lines batch ≠ [] := by simp [lines]
  rw [render, linesOf_intercalate some_line,
    List.flatMap_congr fun line member => linesOf_of_free (feed_not_mem_lines ids line member),
    List.flatMap_singleton']

/-! ## The points of a batch -/

def block (result : DocumentResult) : List String := (point 0 result).tail

theorem point_eq (number : Nat) (result : DocumentResult) :
    point number result = pointLine number result :: block result :=
  rfl

theorem startsPoint_pointLine (number : Nat) (result : DocumentResult) :
    startsPoint (pointLine number result) = true := by
  rw [pointLine]
  split
  · simp [startsPoint, Text.beginsWith]
  · simp [startsPoint, Text.beginsWith]

theorem indented_entry (finding : Finding) :
    ∀ line ∈ entry finding, line.toList.head? = some ' ' := by
  simp [entry]

theorem indented_block : ∀ line ∈ block result, line.toList.head? = some ' ' := by
  have entries : ∀ line ∈ result.findings.flatMap entry, line.toList.head? = some ' ' := by
    intro line inside
    obtain ⟨finding, -, told⟩ := List.mem_flatMap.mp inside
    exact indented_entry finding line told
  rw [block, point, List.tail_cons]
  split
  · simp
  · simp only [List.cons_append, List.forall_mem_cons, List.forall_mem_append]
    exact ⟨by decide, by decide, entries, by decide, by simp⟩

theorem not_startsPoint_block : ∀ line ∈ block result, startsPoint line = false :=
  fun line inside =>
  not_startsPoint_of_head (indented_block line inside) (by decide) (by decide)

theorem startsPoint_head_points (number : Nat) (batch : BatchResult) :
    ∀ line ∈ (points number batch).head?, startsPoint line = true := by
  cases batch with
  | nil => simp [points]
  | cons result batch =>
      rintro line ⟨⟩
      exact startsPoint_pointLine number result

theorem pointsIn_points (number : Nat) (batch : BatchResult) :
    pointsIn (points number batch) =
      (batch.zipIdx number).map fun told => (pointLine told.2 told.1, block told.1) := by
  induction batch generalizing number with
  | nil => rfl
  | cons result batch induction =>
      rw [points, point_eq, List.zipIdx_cons, List.map_cons, ← induction (number + 1)]
      exact pointsIn_point (startsPoint_pointLine number result) not_startsPoint_block
        (startsPoint_head_points (number + 1) batch)

theorem flatten_points (number : Nat) (batch : BatchResult) :
    (pointsIn (points number batch)).flatMap (fun told => told.1 :: told.2) =
      points number batch := by
  rw [pointsIn_points, List.flatMap_map]
  induction batch generalizing number with
  | nil => rfl
  | cons result batch induction =>
      rw [List.zipIdx_cons, List.flatMap_cons, induction (number + 1), points]
      rfl

/-! ## What the points tell -/

theorem tellsFinding_entry (finding : Finding) : TellsFinding finding (entry finding) :=
  ⟨Json.quotePlain finding.text, Json.read_quotePlain finding.text, rfl⟩

theorem tellsResult_point (number : Nat) (result : DocumentResult) :
    TellsResult result number (pointLine number result) (block result) := by
  by_cases none_found : result.findings = []
  · refine .inl ⟨none_found, ?_, ?_⟩
    · rw [pointLine, none_found]
      rfl
    · rw [block, point, none_found]
      rfl
  · have some_found : ¬ result.findings.isEmpty = true := by simpa using none_found
    refine .inr ⟨none_found, ?_, result.findings.map entry, ?_, ?_⟩
    · rw [pointLine, if_neg some_found]
    · exact List.forall₂_map_right_iff.mpr
        (List.forall₂_same.mpr fun finding _ => tellsFinding_entry finding)
    · rw [block, point, if_neg some_found, ← List.flatMap_def]
      rfl

/-- Whatever is found in the documents of a batch, the report reads as the version, the plan and a
test point for each document in turn. -/
theorem test_points_cannot_be_forged (batch : BatchResult)
    (ids : ∀ result ∈ batch, IdsOnOneLine result) :
    linesOf (render batch) = ["TAP version 13", "1.." ++ toString batch.length] ++
        (pointsIn (linesOf (render batch))).flatMap (fun point => point.1 :: point.2) ∧
      List.Forall₂ (fun told point => TellsResult told.1 told.2 point.1 point.2)
        (batch.zipIdx 1) (pointsIn (linesOf (render batch))) := by
  have version : startsPoint "TAP version 13" = false := by decide
  have plan : startsPoint ("1.." ++ toString batch.length) = false := by
    exact not_startsPoint_of_head (c := '1') (by simp) (by decide) (by decide)
  have found : pointsIn (lines batch) = pointsIn (points 1 batch) := by
    rw [lines, pointsIn, if_neg (Bool.eq_false_iff.mp version), pointsIn,
      if_neg (Bool.eq_false_iff.mp plan)]
  rw [linesOf_render ids, found]
  constructor
  · rw [flatten_points]
    rfl
  · rw [pointsIn_points, List.forall₂_map_right_iff]
    exact List.forall₂_same.mpr fun told _ => tellsResult_point told.2 told.1

/-- A finding whose text goes on with what reads as a point for the next document. -/
def forgery : DocumentResult where
  documentId := "draft.md"
  findings := [⟨"no-todo", .error, Span.point 0, "TODO\n  ...\nok 2 - \"notes\".md", none, none⟩]

theorem forged_point_stays_quoted :
    (∀ result ∈ [forgery, { documentId := "notes.md" }], IdsOnOneLine result) ∧
      (pointsIn (linesOf (render [forgery, { documentId := "notes.md" }]))).map Prod.fst =
        ["not ok 1 - draft.md", "ok 2 - notes.md"] := by
  have ids : ∀ result ∈ [forgery, { documentId := "notes.md" }], IdsOnOneLine result := by
    simp [IdsOnOneLine, forgery]
  obtain ⟨-, told⟩ := test_points_cannot_be_forged _ ids
  refine ⟨ids, ?_⟩
  generalize pointsIn (linesOf (render [forgery, { documentId := "notes.md" }])) = points at told
  match points, told with
  | [draft, notes], .cons first (.cons second .nil) =>
      obtain ⟨none_found, -⟩ | ⟨-, failed, -⟩ := first
      · cases none_found
      obtain ⟨-, passed, -⟩ | ⟨some_found, -⟩ := second
      · exact congrArg₂ (fun a b => [a, b]) failed passed
      · exact absurd rfl some_found

end ProseLinter.Tap
