import ProseLinter.Proofs.Fix.Weeding
import ProseLinter.Proofs.Format.Code
import ProseLinter.Proofs.Rule.BuiltIn
import ProseLinter.Proofs.Rule.Trimming

/-!
# The fixes of the built-in rules spare code

One rule works from the tree and the other from lines. An emoji lies in a leaf of prose, which lies
apart from all code. The spaces and tabs at the end of a line stand in no block of code, as the line
would be in it, nor in code in a line: that ends in a tick, so it would have to reach past the end
of the content, where a terminator stands or nothing.
-/

namespace ProseLinter

/-- That a patch changes nothing at a place that lies in code. -/
def Patch.SparesCode (tree : Node) (patch : Patch) : Prop :=
  ∀ node ∈ tree.select Node.isVerbatim, ∀ place, patch.span.covers place = true →
    node.span.covers place = false

/-- That the patch of a finding, if it has one, spares the code of a tree. -/
def Finding.SparesCode (tree : Node) (finding : Finding) : Prop :=
  ∀ patch, finding.fix = some patch → patch.SparesCode tree

theorem Finding.sparesCode_of_unfixed {tree : Node} {finding : Finding}
    (unfixed : finding.fix = none) :
    finding.SparesCode tree := by
  intro patch carried
  rw [unfixed] at carried
  cases carried

section Rules

variable {format : Format} {text raw : Text} {tree node : Node} {line : Line}
  {context : RuleContext} {id kind : String}

theorem Emoji.found_in_prose {settings : Emoji.Settings} {document : Document} {finding : Finding}
    {patch : Patch} (member : finding ∈ Emoji.find settings context document)
    (carried : finding.fix = some patch) :
    ∃ leaf ∈ document.select Node.isProse, leaf.span.start ≤ patch.span.start ∧
      patch.span.stop ≤ leaf.span.stop := by
  obtain ⟨emoji, known, made⟩ := List.mem_map.mp member
  obtain ⟨leaf, selected, found⟩ := List.mem_flatMap.mp (List.mem_filter.mp known).1
  have bounds := Emoji.leaf_bounds selected emoji found
  rw [← made] at carried
  cases carried
  exact ⟨leaf, selected, bounds.1, bounds.2.2⟩

theorem Emoji.find_sparesCode (settings : Emoji.Settings) (context : RuleContext)
    (builtIn : format.IsBuiltIn) (parsed : format.parse text = .ok (.proper tree))
    (id kind : String) :
    ∀ finding ∈ Emoji.find settings context ⟨id, text, tree, kind⟩, finding.SparesCode tree := by
  intro finding member patch carried node code place covered
  obtain ⟨leaf, selected, begins, ends⟩ := Emoji.found_in_prose member carried
  apply builtIn.code_apart_from_prose parsed selected code
  rw [Span.covers_iff] at covered ⊢
  omega

theorem TrailingSpace.apart_from_block (builtIn : format.IsBuiltIn)
    (parsed : format.parse text = .ok (.proper tree)) (member : line ∈ text.lines)
    (outside : startsIn line (codeSpans tree) = false) (code : node ∈ tree.select Node.isCode)
    {place : Nat} (covered : (trailing line).covers place = true) :
    node.span.covers place = false := by
  have holds := (Line.bounds_of_follow (Line.follow_lines text) line member).2.1
  have bounds := trailing_bounds line
  have not_in : node.span.covers line.start = false := by
    rw [startsIn, codeSpans, List.any_map, List.any_eq_false] at outside
    exact Bool.eq_false_iff.mpr (outside node code)
  rw [Bool.eq_false_iff, ne_eq, Span.covers_iff] at not_in ⊢
  rw [Span.covers_iff] at covered
  have around := builtIn.lines_around_code parsed node code line member
  omega

theorem TrailingSpace.apart_from_leaf (member : line ∈ text.lines) {start place : Nat}
    (holds : raw <+: text.drop start) (unbroken : Line.Unbroken raw)
    (last : raw.getLast? = some Markdown.tick) (covered : (trailing line).covers place = true) :
    (Span.ofLength start raw.length).covers place = false := by
  rw [Bool.eq_false_iff]
  intro also_covered
  rw [Span.covers_iff] at covered also_covered
  change start ≤ place ∧ place < start + raw.length at also_covered
  have ends : (trailing line).stop = line.contentEnd := rfl
  rcases Nat.lt_or_ge (start + raw.length - 1) line.contentEnd with inside | past
  · -- The tick at the end of the code would be one of the spaces and tabs.
    have stands := ending_stands member
    have span := trailing_eq line
    have starts : (ending line).start = (trailing line).start := (congrArg Span.start span).symm
    have stops : (ending line).start + (ending line).text.length = (trailing line).stop :=
      (congrArg Span.stop span).symm
    have tick_there : text[start + raw.length - 1]? = some Markdown.tick := by
      rw [Text.getElem?_of_holds holds (by omega) (by omega), ← last, List.getLast?_eq_getElem?]
      congr 1
      omega
    rw [Text.getElem?_of_holds stands.holds (by omega) (by omega)] at tick_there
    have white : isSpaceOrTab Markdown.tick = true :=
      List.all_eq_true.mp List.all_takeWhile
        _ (List.mem_reverse.mp (List.mem_of_getElem? tick_there))
    revert white
    decide
  · -- The code would hold what stands behind the content of the line.
    have there : text[line.contentEnd]? = raw[line.contentEnd - start]? :=
      Text.getElem?_of_holds holds (by omega) (by omega)
    have some_char : line.contentEnd - start < raw.length := by omega
    rw [List.getElem?_eq_getElem some_char] at there
    have free := unbroken _ (List.getElem_mem some_char)
    rcases Line.breaks_behind_content line member _ there with returns | feeds
    · exact free.1 returns
    · exact free.2 feeds

theorem TrailingSpace.find_sparesCode (settings : TrailingSpace.Settings) (context : RuleContext)
    (builtIn : format.IsBuiltIn) (parsed : format.parse text = .ok (.proper tree))
    (id kind : String) :
    ∀ finding ∈ TrailingSpace.find settings context ⟨id, text, tree, kind⟩,
      finding.SparesCode tree := by
  intro finding member patch carried node code place covered
  obtain ⟨line, known, made⟩ := List.mem_map.mp member
  obtain ⟨line_member, reported⟩ := List.mem_filter.mp known
  rw [← made] at carried
  cases carried
  obtain ⟨node_member, is_code⟩ := List.mem_filter.mp code
  rcases Node.verbatim_cases is_code with ⟨start, raw, same⟩ | block
  · subst same
    obtain ⟨unbroken, last⟩ := builtIn.code_leaf parsed node_member
    have read : Document.IsRead ⟨id, text, tree, kind⟩ := builtIn.reads id kind parsed
    have lies := read.select_lies (fun _ _ => rfl) code
    exact TrailingSpace.apart_from_leaf line_member lies.holds unbroken last covered
  · have selected : node ∈ tree.select Node.isCode := List.mem_filter.mpr ⟨node_member, block⟩
    exact TrailingSpace.apart_from_block builtIn parsed line_member
      (TrailingSpace.of_reported reported).2 selected covered

theorem Marker.find_sparesCode (settings : Marker.Settings) (context : RuleContext)
    (document : Document) :
    ∀ finding ∈ Marker.find settings context document, finding.SparesCode tree :=
  List.forall_mem_map.mpr fun _ _ => Finding.sparesCode_of_unfixed rfl

theorem SentenceLength.findIn_unfixed {maximum : Int} {block : Node} {found : List Finding}
    (finds : SentenceLength.findIn maximum context block = .ok found) :
    ∀ finding ∈ found, finding.fix = none := by
  unfold SentenceLength.findIn at finds
  cases placed : (SentenceLength.sentences block).mapM
      (fun sentence => do return (← sentence.span, sentence.length) : _ →
        Except Fault (Span × Nat)) with
  | error fault =>
      rw [placed] at finds
      cases finds
  | ok entries =>
      rw [placed] at finds
      cases finds
      exact List.forall_mem_map.mpr fun _ _ => rfl

theorem SentenceLength.find_unfixed (maximum : Int) (context : RuleContext) {document : Document}
    (read : document.IsRead) :
    ∃ found, SentenceLength.find maximum context document = .ok found ∧
      ∀ finding ∈ found, finding.fix = none := by
  have each : ∀ block ∈ document.select (Node.isBranch BranchKind.holdsSentences), ∃ found,
      SentenceLength.findIn maximum context block = .ok found ∧ ∀ finding ∈ found,
      finding.fix = none := by
    intro block selected
    obtain ⟨found, finds, -⟩ :=
      SentenceLength.find_in_safe maximum context (read.select_lies (fun _ _ => rfl) selected)
    exact ⟨found, finds, SentenceLength.findIn_unfixed finds⟩
  obtain ⟨parts, mapped, unfixed⟩ := mapM_of_each each
  refine ⟨parts.flatten, by rw [SentenceLength.find, mapped]; rfl, ?_⟩
  intro finding member
  obtain ⟨part, known, inside⟩ := List.mem_flatten.mp member
  exact unfixed part known finding inside

end Rules

/-- That a check hands over findings about a document and nothing else, all of which spare its
code. -/
def DocumentCheck.SparesCode (check : DocumentCheck) (context : RuleContext)
    (document : Document) : Prop :=
  ∃ found : List Finding, check.evaluate context document = .ok (found.map .proper) ∧
    ∀ finding ∈ found, finding.SparesCode document.tree

theorem Registry.document_rule_sparesCode {rule : DocumentRule} {options : Value}
    {check : DocumentCheck} {format : Format} {text : Text} {tree : Node}
    (listed : Rule.document rule ∈ builtinRules) (prepared : rule.prepare options = .ok check)
    (builtIn : format.IsBuiltIn) (parsed : format.parse text = .ok (.proper tree))
    (context : RuleContext) (id kind : String) :
    check.SparesCode context ⟨id, text, tree, kind⟩ := by
  simp only [builtinRules, List.mem_cons, Rule.document.injEq, reduceCtorEq, List.not_mem_nil,
    or_false] at listed
  rcases listed with rfl | rfl | rfl | rfl
  · obtain ⟨settings, -, rfl⟩ := Options.prepare_eq_ok prepared
    exact ⟨_, rfl, Emoji.find_sparesCode settings context builtIn parsed id kind⟩
  · obtain ⟨settings, -, rfl⟩ := Options.prepare_eq_ok prepared
    exact ⟨_, rfl, TrailingSpace.find_sparesCode settings context builtIn parsed id kind⟩
  · obtain ⟨maximum, -, rfl⟩ := Options.prepare_eq_ok prepared
    obtain ⟨found, finds, unfixed⟩ :=
      SentenceLength.find_unfixed maximum context (builtIn.reads id kind parsed)
    refine ⟨found, ?_, fun finding member => Finding.sparesCode_of_unfixed (unfixed finding member)⟩
    change (SentenceLength.find maximum context _).map (fun found => found.map Supplied.proper) = _
    rw [finds]
    rfl
  · obtain ⟨settings, -, rfl⟩ := Options.prepare_eq_ok prepared
    exact ⟨_, rfl, Marker.find_sparesCode settings context _⟩

namespace Profile

variable {profile : Profile} {source : Source} {document : Document}

theorem ReadsBuiltIn.evaluate_sparesCode (builtIn : profile.ReadsBuiltIn)
    (parsed : profile.parse source = .ok document) :
    ∀ finding ∈ profile.evaluate document, finding.SparesCode document.tree := by
  intro finding member
  obtain ⟨rule, there, check, given, made, said, located⟩ := said_of_evaluate member
  obtain ⟨format, format_own, read⟩ := builtIn.format_of_parse parsed
  obtain ⟨listed, prepared⟩ := builtIn.rules rule there check made
  rw [made] at prepared
  obtain ⟨about, same, checked⟩ := Rule.prepare_document prepared
  rw [same] at listed
  obtain ⟨found, handed, spare⟩ :=
    Registry.document_rule_sparesCode listed checked format_own read rule.context document.id
    document.kind
  have safe := Registry.document_rule_safe listed checked rule.context (builtIn.parse_reads parsed)
  obtain ⟨produced, delivers⟩ := safe.delivers
  obtain ⟨own, own_member, attributed⟩ := DocumentCheck.handed_of_findings delivers handed said
  rw [← located, ← attributed]
  exact spare own own_member

end Profile

end ProseLinter
