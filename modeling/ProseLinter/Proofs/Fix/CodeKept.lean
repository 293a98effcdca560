import ProseLinter.Proofs.Fix.Replacement
import ProseLinter.Proofs.Fix.Thinning
import ProseLinter.Proofs.Rule.CodeSpared

/-!
# Fixing keeps code

Patches that delete what they cover leave what lies outside of them. So where all patches that a
pass takes spare the code of its document, the code stands in the text that the pass makes as it
stood before, whole and in its order. That text may be read otherwise, and the next pass spares what
is code in it then.
-/

namespace ProseLinter

namespace Text

/-- That texts stand in a text, whole and one behind the other in their order. -/
inductive HoldsInTurn : List Text → Text → Prop
  | nil (text : Text) : HoldsInTurn [] text
  | cons (before part : Text) {parts : List Text} {rest : Text} (later : HoldsInTurn parts rest) :
      HoldsInTurn (part :: parts) (before ++ (part ++ rest))

variable {text : Text} {spans parts : List Span} {offset : Nat}

theorem outside_holds (in_turn : parts.Pairwise fun earlier later => earlier.stop ≤ later.start)
    (behind : ∀ part ∈ parts, offset ≤ part.start)
    (within : ∀ part ∈ parts, part.stop ≤ text.length)
    (free : ∀ part ∈ parts, ∀ span ∈ spans, ∀ place, span.covers place = true →
      part.covers place = false) :
    HoldsInTurn (parts.map (·.read text)) (outside spans offset (text.drop offset)) := by
  induction parts generalizing offset with
  | nil => exact .nil _
  | cons part rest induction =>
      rw [List.forall_mem_cons] at behind within free
      rw [List.pairwise_cons] at in_turn
      have ordered := part.ordered
      have before_length : (text.slice offset part.start).length = part.start - offset :=
        length_slice (by omega)
      have part_length : (part.read text).length = part.stop - part.start := length_slice within.1
      have parts_of_text : text.drop offset =
          text.slice offset part.start ++ (part.read text ++ text.drop part.stop) := by
        rw [Span.read, slice_append_drop ordered, slice_append_drop behind.1]
      have kept : outside spans part.start (part.read text) = part.read text := by
        apply outside_of_free
        intro span member place above below
        rw [Bool.eq_false_iff]
        intro covered
        have not_in := free.1 span member place covered
        rw [Bool.eq_false_iff, ne_eq, Span.covers_iff] at not_in
        omega
      have starts : offset + (text.slice offset part.start).length = part.start := by omega
      have stops : part.start + (part.read text).length = part.stop := by omega
      rw [parts_of_text, outside_append, outside_append, starts, kept, stops, List.map_cons]
      exact .cons _ _ (induction in_turn.2 in_turn.1 within.2 free.2)

end Text

namespace Profile

variable {profile : Profile} {source : Source} {document current given : Document}
  {passed : List Document}

theorem ReadsBuiltIn.rewritten_outside (builtIn : profile.ReadsBuiltIn) (read : document.IsRead) :
    (profile.rewritten document).text =
      Text.outside ((profile.takenIn document).map (·.patch.span)) 0 document.text := by
  have clears : ∀ patch ∈ (profile.takenIn document).map (·.patch), patch.Clears document.text := by
    intro patch member
    obtain ⟨proposal, taken, same⟩ := List.mem_map.mp member
    obtain ⟨found, carried⟩ := proposed_of_taken taken
    exact same ▸ (builtIn.evaluate_suits read proposal.finding found).clears proposal.patch carried
  have left := Patching.apply_deletions (Patching.select_ascends document.text _)
    (fun patch member => (clears patch member).within) fun patch member =>
      (clears patch member).deletes
  rw [List.map_map] at left
  exact left

theorem ReadsBuiltIn.rewritten_holds_code (builtIn : profile.ReadsBuiltIn)
    (parsed : profile.parse source = .ok document) :
    Text.HoldsInTurn ((document.select Node.isVerbatim).map fun node =>
      node.span.read document.text)
      (profile.rewritten document).text := by
  obtain ⟨format, own, read_as⟩ := builtIn.format_of_parse parsed
  have read := builtIn.parse_reads parsed
  have code := own.code_in_turn read_as
  have holds :
      Text.HoldsInTurn (((document.select Node.isVerbatim).map (·.span)).map (·.read document.text))
      (Text.outside ((profile.takenIn document).map (·.patch.span)) 0 (document.text.drop 0)) := by
    apply Text.outside_holds
    · exact List.pairwise_map.mpr code
    · exact fun _ _ => Nat.zero_le _
    · exact List.forall_mem_map.mpr fun node member =>
        (read.select_lies (fun _ _ => rfl) member).stop_le
    · refine List.forall_mem_map.mpr fun node member =>
        List.forall_mem_map.mpr fun proposal taken => ?_
      obtain ⟨found, carried⟩ := proposed_of_taken taken
      exact builtIn.evaluate_sparesCode parsed proposal.finding found proposal.patch
        carried node member
  rw [List.map_map] at holds
  rw [builtIn.rewritten_outside read]
  exact holds

theorem Trail.reads (readable : profile.parse given.source = .ok given)
    (trail : profile.Trail given passed current) :
    ∀ version ∈ passed ++ [current], profile.parse version.source = .ok version := by
  induction trail with
  | start => exact List.forall_mem_singleton.mpr readable
  | adopt trail adopts induction =>
      refine List.forall_mem_append.mpr ⟨induction, List.forall_mem_singleton.mpr ?_⟩
      rw [adopts.source_next]
      exact adopts.reads

theorem Trail.chain (trail : profile.Trail given passed current) :
    (passed ++ [current]).IsChain fun earlier later => later.text =
      (profile.rewritten earlier).text := by
  induction trail with
  | start => exact .singleton _
  | @adopt passed current next trail adopts induction =>
      rw [List.isChain_append]
      refine ⟨induction, .singleton _, ?_⟩
      intro last at_end first head
      rw [List.getLast?_concat, Option.mem_some] at at_end
      rw [List.head?_cons, Option.mem_some] at head
      subst at_end head
      exact adopts.text_next

end Profile

/-- The built-in fixes never edit code. In every document that a built-in format reads, and with
whatever options, no patch that a built-in rule about documents proposes covers a place that a block
of code or code in a line covers, and what is proposed about emoji lies in a leaf of prose. So if
the rules about documents and the formats are built in, then at whatever limit every pass of a fix
run leaves the code of its document in the text that it makes, whole and in its order; and that text
is the one of the next version, if the pass is adopted. -/
theorem built_in_fixes_never_edit_code :
    (∀ (format : Format) (text : Text) (tree : Node) (rule : DocumentRule) (options : Value)
        (check : DocumentCheck) (context : RuleContext) (id kind : String),
      format.IsBuiltIn → format.parse text = .ok (.proper tree) →
      .document rule ∈ Registry.builtinRules →
        rule.prepare options = .ok check →
        ∃ found : List Finding, check.evaluate context ⟨id, text, tree, kind⟩ =
          .ok (found.map .proper) ∧
          ∀ finding ∈ found, ∀ patch, finding.fix = some patch →
            (∀ node ∈ tree.select Node.isVerbatim, ∀ place,
              patch.span.covers place = true → node.span.covers place = false) ∧
            (rule = Emoji.rule → ∃ leaf ∈ tree.select Node.isProse,
              leaf.span.start ≤ patch.span.start ∧ patch.span.stop ≤ leaf.span.stop)) ∧
    ∀ (entries : List RuleEntry) (formats : List FormatEntry) (configuration : Entries)
        (profile : Profile) (source : Source) (document : Document),
      Profile.build entries formats configuration = .ok profile →
        (∀ entry ∈ entries, ∀ rule, entry.rule = .proper (.document rule) →
          .document rule ∈ Registry.builtinRules) →
        (∀ entry ∈ formats, ∀ format, entry.format = .proper format → format.IsBuiltIn) →
        profile.parse source = .ok document →
        ∃ binding, profile.bindingFor source.kind = .ok binding ∧ ∀ limit,
          (∀ version ∈ (profile.fixFrom binding document limit).versions,
            Text.HoldsInTurn
              ((version.document.select Node.isVerbatim).map fun node =>
                node.span.read version.document.text)
              (profile.rewritten version.document).text) ∧
          (profile.fixFrom binding document limit).versions.IsChain fun earlier later =>
            later.document.text = (profile.rewritten earlier.document).text := by
  constructor
  · intro format text tree rule options check context id kind builtIn parsed listed prepared
    obtain ⟨found, handed, spare⟩ :=
      Registry.document_rule_sparesCode listed prepared builtIn parsed context id kind
    refine ⟨found, handed, fun finding member patch carried =>
      ⟨spare finding member patch carried, ?_⟩⟩
    intro about_emoji
    subst about_emoji
    obtain ⟨settings, -, made⟩ := Options.prepare_eq_ok prepared
    subst made
    have same : Emoji.find settings context ⟨id, text, tree, kind⟩ = found :=
      List.map_injective_iff.mpr (fun _ _ => Supplied.proper.inj) (Except.ok.inj handed)
    exact Emoji.found_in_prose (same ▸ member) carried
  · intro entries formats configuration profile source document accepted rules_asked
      formats_asked parsed
    have builtIn := Profile.reads_built_in accepted rules_asked formats_asked
    obtain ⟨binding, bound, -⟩ := Profile.bound_of_parse parsed
    have same := Profile.source_of_parse parsed
    subst same
    refine ⟨binding, bound, fun limit => ?_⟩
    obtain ⟨count, applied, current, ending, passes, within, ends⟩ :=
      Profile.exists_end bound .start (Nat.zero_add limit)
    obtain ⟨passed, trail, counted, -⟩ := passes.trail
    rw [Profile.versions_of_ends bound trail (counted ▸ ends) (counted ▸ within)]
    refine ⟨List.forall_mem_map.mpr fun version member => ?_, (List.isChain_map _).mpr trail.chain⟩
    exact builtIn.rewritten_holds_code (trail.reads parsed version member)

/-- A profile that reads markdown and looks for emoji and for spaces at the ends of lines. -/
def Profile.sparingMarkdown : Profile :=
  { Profile.sparing with bindings := [⟨"markdown", Format.markdown true⟩] }

/-- The first pass deletes the emoji and the space behind it, and the second pass the space that
then ends the line. The space and the emoji in the code stay, as does the space at the end of a line
in the block. -/
theorem code_stands_where_emoji_go :
    let source : Source := ⟨"d", "`\u2600 ` \u2600 \n~~~\nb \n~~~\n".toList, "md"⟩
    ∃ (document : Document) (check : DocumentCheck) (found : List Finding) (run : FixRun),
      Profile.sparingMarkdown.parse source = .ok document ∧
      (document.select Node.isVerbatim).map (fun node => node.span.read document.text) =
        ["`\u2600 `".toList, "~~~\nb \n~~~\n".toList] ∧
      TrailingSpace.rule.prepare .null = .ok check ∧
      check.evaluate ⟨TrailingSpace.ruleId, .warning⟩ document = .ok (found.map .proper) ∧
      found.map (·.span) = [Span.ofLength 6 1] ∧
      (∀ finding ∈ found, ∀ patch, finding.fix = some patch →
        ∀ node ∈ document.select Node.isVerbatim, ∀ place,
        patch.span.covers place = true → node.span.covers place = false) ∧
      Profile.sparingMarkdown.fixFrom ⟨"markdown", Format.markdown true⟩ document 10 = run ∧
      run.versions.map (·.document.text) =
        [source.text, "`\u2600 ` \n~~~\nb \n~~~\n".toList, "`\u2600 `\n~~~\nb \n~~~\n".toList] ∧
      ∀ version ∈ run.versions,
        Text.HoldsInTurn ((version.document.select Node.isVerbatim).map fun node =>
          node.span.read version.document.text)
          (Profile.sparingMarkdown.rewritten version.document).text := by
  intro source
  let formats : List FormatEntry := [⟨"markdown", .proper (Format.markdown true)⟩]
  have accepted : Profile.build RuleEntry.sparing formats [] = .ok .sparingMarkdown := rfl
  have listed : .document TrailingSpace.rule ∈ Registry.builtinRules := by
    simp [Registry.builtinRules]
  let context : RuleContext := ⟨TrailingSpace.ruleId, .warning⟩
  have prepared : ∃ check, TrailingSpace.rule.prepare .null = .ok check ∧ ∀ document,
      check.evaluate context document =
        .ok ((TrailingSpace.find ⟨false, false⟩ context document).map .proper) :=
    ⟨_, by cbv, fun _ => rfl⟩
  have outcome : ∃ (tree : Node) (run : FixRun),
      (Format.markdown true).parse source.text = .ok (.proper tree) ∧
      Profile.sparingMarkdown.parse source = .ok ⟨"d", source.text, tree, "md"⟩ ∧
      (tree.select Node.isVerbatim).map (fun node => node.span.read source.text) =
        ["`\u2600 `".toList, "~~~\nb \n~~~\n".toList] ∧
      (TrailingSpace.find ⟨false, false⟩ context ⟨"d", source.text, tree, "md"⟩).map (·.span) =
        [Span.ofLength 6 1] ∧
      Profile.sparingMarkdown.fixFrom ⟨"markdown", Format.markdown true⟩
        ⟨"d", source.text, tree, "md"⟩ 10 = run ∧
      run.versions.map (·.document.text) =
        [source.text, "`\u2600 ` \n~~~\nb \n~~~\n".toList, "`\u2600 `\n~~~\nb \n~~~\n".toList] :=
    ⟨_, _, by cbv, by cbv, by cbv, by cbv, rfl, by cbv⟩
  obtain ⟨about_findings, about_runs⟩ := built_in_fixes_never_edit_code
  obtain ⟨check, prepared, checks⟩ := prepared
  obtain ⟨tree, run, parsed, read, code, spans, runs, versions⟩ := outcome
  obtain ⟨found, handed, spare⟩ := about_findings _ source.text tree _ _ check context "d" "md"
    (.markdown true) parsed listed prepared
  have reported : TrailingSpace.find ⟨false, false⟩ context
      ⟨"d", source.text, tree, "md"⟩ = found :=
    List.map_injective_iff.mpr (fun _ _ => Supplied.proper.inj)
      (Except.ok.inj ((checks _).symm.trans handed))
  obtain ⟨binding, bound, holds⟩ :=
    about_runs RuleEntry.sparing formats [] .sparingMarkdown source _ accepted
      RuleEntry.sparing_built_in FormatEntry.markdown_built_in read
  have same : binding = ⟨"markdown", Format.markdown true⟩ := by
    have found : Profile.sparingMarkdown.bindingFor source.kind =
        .ok ⟨"markdown", Format.markdown true⟩ := by cbv
    rw [found, Except.ok.injEq] at bound
    exact bound.symm
  subst same
  exact ⟨_, check, found, run, read, code, prepared, handed, reported ▸ spans,
    fun finding member patch carried =>
    (spare finding member patch carried).1, runs, versions, runs ▸ (holds 10).1⟩

end ProseLinter
