import ProseLinter.Proofs.Fix.LineStructure
import ProseLinter.Proofs.Format.Code
import ProseLinter.Proofs.PlainText.Prose
import ProseLinter.Proofs.Rule.Trimming

/-!
# Spaces at the ends of lines go in one pass

Whichever built-in format reads a text, it reads what is left of the text when the lines outside of
code were trimmed, and the same lines are in code then. So where the rule about spaces at the ends
of lines is the only one and has no regard for hard breaks, one pass is enough.
-/

namespace ProseLinter

namespace TrailingSpace

open Line (pieces)

variable {skip : Bool} {text : Text} {tree : Node} {line : Line}

def liesInCode (tree : Node) (line : Line) : Bool :=
  (tree.select Node.isCode).any fun node => decide (node.span.start ≤ line.start) &&
    decide (line.stop ≤ node.span.stop)

/-- What remains of a line with its terminator: a line of code is left as it is, and so is a line of
spaces and tabs if such lines are passed over; any other line loses the spaces and tabs at its
end. -/
def remains (skip : Bool) (tree : Node) (line : Line) : Text :=
  (if liesInCode tree line || (skip && line.content.all isSpaceOrTab) then line.content
    else stripped line) ++ line.ending

theorem remains_eq_kept (same : startsIn line (codeSpans tree) = liesInCode tree line) :
    remains skip tree line = kept skip (codeSpans tree) line ++ line.ending := by
  rw [remains, kept, trim, same]
  cases liesInCode tree line <;> rfl

end TrailingSpace

namespace PlainText

open TrailingSpace (kept trimmed trim codeSpans)

variable {skip : Bool} {text : Text} {tree : Node}

theorem kept_of_parse (skip : Bool) (parsed : parse text = .ok tree) (line : Line) :
    kept skip (codeSpans tree) line = trim skip line.content := by
  rw [code_spans_nil parsed]
  rfl

theorem trimmed_settles (skip : Bool) (parsed : parse text = .ok tree) :
    ∃ next, parse (trimmed skip (codeSpans tree) text) = .ok next ∧
      ∀ line ∈ (trimmed skip (codeSpans tree) text).lines,
        kept skip (codeSpans next) line = line.content := by
  have textual : '\x00' ∉ trimmed skip (codeSpans tree) text :=
    fun nul => textual_of_parse parsed ((TrailingSpace.trimmed_sublist skip _ text).mem nul)
  refine ⟨_, parse_of_textual textual, fun line member => ?_⟩
  have joined :=
    Line.joined_of_edited text fun line _ => TrailingSpace.kept_sublist skip (codeSpans tree) line
  have part : (line.content, line.ending) ∈ Line.pieces (trimmed skip (codeSpans tree) text) := by
    rw [← Line.lineParts_eq_pieces]
    exact List.mem_map.mpr ⟨line, member, rfl⟩
  obtain ⟨given, known, same⟩ := joined.contents _ part
  obtain ⟨source, -, made⟩ := List.mem_map.mp known
  have content : line.content = trim skip source.content := calc
    line.content = given.1 := same.symm
    _ = kept skip (codeSpans tree) source := (congrArg Prod.fst made).symm
    _ = trim skip source.content := kept_of_parse skip parsed source
  rw [kept_of_parse skip (parse_of_textual textual), content, TrailingSpace.trim_idem]

end PlainText

namespace Format

open TrailingSpace (kept trimmed codeSpans startsIn liesInCode remains)

variable {format : Format} {text : Text} {tree : Node}

theorem IsBuiltIn.settles (builtIn : format.IsBuiltIn) (skip : Bool)
    (parsed : format.parse text = .ok (.proper tree)) :
    ∃ next, format.parse (trimmed skip (codeSpans tree) text) = .ok (.proper next) ∧
      ∀ line ∈ (trimmed skip (codeSpans tree) text).lines,
        kept skip (codeSpans next) line = line.content := by
  cases builtIn with
  | markdown strict =>
      obtain ⟨other, read, same⟩ := tree_of_reader parsed
      cases same
      obtain ⟨next, again, settled⟩ := Markdown.trimmed_settles skip read
      exact ⟨next, by simp only [Format.markdown, reader, again], settled⟩
  | plainText =>
      obtain ⟨other, read, same⟩ := tree_of_reader parsed
      cases same
      obtain ⟨next, again, settled⟩ := PlainText.trimmed_settles skip read
      exact ⟨next, by simp only [Format.plainText, reader, again], settled⟩

theorem IsBuiltIn.starts_iff_lies (builtIn : format.IsBuiltIn)
    (parsed : format.parse text = .ok (.proper tree)) :
    ∀ line ∈ text.lines, startsIn line (codeSpans tree) = liesInCode tree line := by
  intro line member
  have around := fun node known => builtIn.lines_around_code parsed node known line member
  have holds := (Line.bounds_of_follow (Line.follow_lines text) line member).2.1
  rw [startsIn, codeSpans, List.any_map, liesInCode]
  apply Bool.eq_iff_iff.mpr
  rw [List.any_eq_true, List.any_eq_true]
  refine exists_congr fun node => and_congr_right fun known => ?_
  have places := around node known
  simp only [Function.comp_apply, Bool.and_eq_true, decide_eq_true_eq]
  omega

theorem IsBuiltIn.trimmed_eq (builtIn : format.IsBuiltIn) (skip : Bool)
    (parsed : format.parse text = .ok (.proper tree)) :
    trimmed skip (codeSpans tree) text = text.lines.flatMap (remains skip tree) :=
  List.flatMap_congr fun line member =>
    (TrailingSpace.remains_eq_kept (builtIn.starts_iff_lies parsed line member)).symm

end Format

namespace Profile

variable {profile : Profile} {pluginId : String} {format : Format} {rule : EnabledRule}
  {skip : Bool}

section OnlyRule

variable {document : Document} (only : profile.rules = [rule])
  (made : rule.check = .document (Options.documentCheck (TrailingSpace.Settings.value ⟨skip, false⟩)
    (TrailingSpace.find ⟨skip, false⟩)))

include only made

theorem rewritten_trimmed (document : Document) :
    profile.rewritten document =
      ⟨document.id, TrailingSpace.trimmed skip
        (TrailingSpace.codeSpans document.tree) document.text, document.kind⟩ := by
  have clears :=
    clears_of_find only made (TrailingSpace.find_clearing ⟨skip, false⟩ rule.context document)
  have text := clears.rewritten_text
  rw [TrailingSpace.outside_found] at text
  rw [← text]
  rfl

theorem rewritten_settles (bound : profile.bindingFor document.kind = .ok ⟨pluginId, format⟩)
    (builtIn : format.IsBuiltIn) (read : format.parse document.text = .ok (.proper document.tree)) :
    ∃ next, profile.parse (profile.rewritten document) = .ok next ∧ profile.evaluate next = [] := by
  obtain ⟨tree, parsed, settled⟩ := builtIn.settles skip read
  let next : Document :=
    ⟨document.id, TrailingSpace.trimmed skip (TrailingSpace.codeSpans document.tree) document.text,
      tree, document.kind⟩
  have source_bound : profile.bindingFor next.source.kind = .ok ⟨pluginId, format⟩ := bound
  have reads : profile.parse next.source = .ok next := parse_of_built_in source_bound builtIn parsed
  have nothing : TrailingSpace.find ⟨skip, false⟩ rule.context next = [] :=
    TrailingSpace.find_trimmed settled
  have silent :=
    (clears_of_find only made
      (TrailingSpace.find_clearing ⟨skip, false⟩ rule.context next)).evaluate_eq
  rw [nothing, List.map_nil] at silent
  refine ⟨next, ?_, silent⟩
  rw [rewritten_trimmed only made document]
  exact reads

end OnlyRule

end Profile

/-- Spaces and tabs at the ends of lines go in one pass. If the rule about them is the only one and
has no regard for hard breaks, then a source that a built-in format reads is fixed in one pass at
most, at any limit: nothing is found in what is left, and what is left is the lines of the source,
each as it is if it lies in a block of code, or if it holds nothing but spaces and tabs and such
lines are passed over, and without the spaces and tabs at its end otherwise, with its terminator in
each case. -/
theorem trailing_space_goes_in_one_pass (entry : RuleEntry) (formats : List FormatEntry)
    (configuration : Entries) (profile : Profile) (skip : Bool) (source : Source)
    (pluginId : String) (format : Format) (document : Document) (limit : Nat)
    (accepted : Profile.build [entry] formats configuration = .ok profile)
    (asked : entry.rule = .proper (.document TrailingSpace.rule))
    (known : TrailingSpace.Settings.read entry.options = .ok ⟨skip, false⟩)
    (bound : profile.bindingFor source.kind = .ok ⟨pluginId, format⟩) (builtIn : format.IsBuiltIn)
    (parsed : profile.parse source = .ok document) (allowed : 1 ≤ limit) :
    ∃ fixed, profile.process limit .fix source = .ok fixed ∧ fixed.result.passes ≤ 1 ∧
    fixed.result.findings = [] ∧
      (source.fixedBy fixed.result).text =
        source.text.lines.flatMap (TrailingSpace.remains skip document.tree) := by
  obtain ⟨rule, check, only, -, prepared, made⟩ := Profile.rule_of_build accepted asked
  have prepared_of_read : TrailingSpace.rule.prepare entry.options = _ :=
    Options.prepare_of_read known _ _
  rw [prepared_of_read, Except.ok.injEq] at prepared
  subst prepared
  obtain ⟨binding, also_bound, read⟩ := Profile.bound_of_parse parsed
  rw [bound, Except.ok.injEq] at also_bound
  subst also_bound
  have same := Profile.source_of_parse parsed
  subst same
  have read_as : format.parse document.text = .ok (.proper document.tree) :=
    Binding.parsed_of_read read
  obtain ⟨next, next_parsed, silent⟩ := Profile.rewritten_settles only made bound builtIn read_as
  obtain ⟨fixed, runs, passes, nothing, left⟩ :=
    Profile.fix_in_one_pass allowed parsed next_parsed silent
  refine ⟨fixed, runs, passes, nothing, ?_⟩
  rw [left, Profile.rewritten_trimmed only made document]
  exact builtIn.trimmed_eq skip read_as

/-- A profile that reads markdown strictly and looks for spaces at the ends of lines alone. -/
def Profile.trimmingMarkdown : Profile :=
  { Profile.trimming with bindings := [⟨"markdown", Format.markdown true⟩] }

/-- The second line is emptied, so its line feed joins the carriage return of the first; the fenced
lines stay as they are, and the last line is gone. -/
theorem trimmed_line_joins_and_code_stays :
    let source : Source := ⟨"d", "a \r \n~~~\n b \n~~~ \n\t".toList, "md"⟩
    ∃ document fixed, Profile.build [.trimming] [⟨"markdown", .proper (Format.markdown true)⟩] [] =
      .ok .trimmingMarkdown ∧
      TrailingSpace.Settings.read .null = .ok ⟨false, false⟩ ∧
      Profile.trimmingMarkdown.parse source = .ok document ∧
      Profile.trimmingMarkdown.process 1 .fix source = .ok fixed ∧ fixed.result.passes ≤ 1 ∧
      fixed.result.findings = [] ∧
      (source.fixedBy fixed.result).text = "a\r\n~~~\n b \n~~~ \n".toList := by
  intro source
  have accepted : Profile.build [.trimming] [⟨"markdown", .proper (Format.markdown true)⟩] [] =
      .ok .trimmingMarkdown := by
    rfl
  have known : TrailingSpace.Settings.read .null = .ok ⟨false, false⟩ := by cbv
  have bound : Profile.trimmingMarkdown.bindingFor source.kind =
      .ok ⟨"markdown", Format.markdown true⟩ := by cbv
  have read : ∃ document, Profile.trimmingMarkdown.parse source = .ok document ∧
      source.text.lines.flatMap (TrailingSpace.remains false document.tree) =
        "a\r\n~~~\n b \n~~~ \n".toList :=
    ⟨_, by cbv, by cbv⟩
  obtain ⟨document, parsed, remains⟩ := read
  obtain ⟨fixed, runs, passes, nothing, left⟩ :=
    trailing_space_goes_in_one_pass .trimming _ [] .trimmingMarkdown false source
    "markdown" (Format.markdown true) document 1 accepted rfl known bound (.markdown true) parsed
      (Nat.le_refl 1)
  exact ⟨document, fixed, accepted, known, parsed, runs, passes, nothing, left.trans remains⟩

end ProseLinter
