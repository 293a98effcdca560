import ProseLinter.Proofs.Fix.OnePass
import ProseLinter.Proofs.Format.Code
import ProseLinter.Proofs.PlainText.Prose

/-!
# Emoji are found and taken out

The rule about emoji looks at each leaf of prose by itself, and reports of it what the scan for the
pattern finds, but for what is allowed. What it reports comes in the order of the text, each part
with the emoji that stands there. In plain text, one pass that takes all of it out leaves a text
with nothing to report: no emoji comes about where one was taken out.
-/

namespace ProseLinter

namespace Emoji

variable {document : Document} {settings : Settings} {context : RuleContext} {leaf : Node}
  {text : Text} {offset : Nat}

theorem leaf_bounds (selected : leaf ∈ document.select Node.isProse) :
    ∀ emoji ∈ occurrences leaf.span.start leaf.raw,
      leaf.span.start ≤ emoji.span.start ∧ emoji.span.start < emoji.span.stop ∧
        emoji.span.stop ≤ leaf.span.stop := by
  obtain ⟨start, raw, same⟩ := Node.isProse_iff.mp (List.mem_filter.mp selected).2
  subst same
  exact occurrences_bounds start raw

theorem inProse_in_turn (read : document.IsRead) :
    (inProse document.tree).Pairwise fun earlier later => earlier.span.stop ≤ later.span.start := by
  rw [inProse, List.pairwise_flatMap]
  refine ⟨fun leaf _ => occurrences_in_turn _ _, ?_⟩
  refine read.prose_in_turn.imp_of_mem ?_
  intro earlier later earlier_member later_member before first first_found second second_found
  have early := leaf_bounds earlier_member first first_found
  have late := leaf_bounds later_member second second_found
  omega

theorem find_clearing (settings : Settings) (context : RuleContext) (read : document.IsRead) :
    Finding.Clearing context.ruleId document.text (find settings context document) where
  own := List.forall_mem_map.mpr fun _ _ => rfl
  deletes := List.forall_mem_map.mpr fun _ _ => rfl
  some_text := by
    refine List.forall_mem_map.mpr ?_
    intro emoji member
    obtain ⟨leaf, selected, found⟩ := List.mem_flatMap.mp (List.mem_filter.mp member).1
    exact (leaf_bounds selected emoji found).2.1
  within := by
    refine List.forall_mem_map.mpr ?_
    intro emoji member
    exact (found_of_read read emoji (List.mem_filter.mp member).1).1.within
  in_turn := List.pairwise_map.mpr ((inProse_in_turn read).filter _)

def Settings.keeps (settings : Settings) (emoji : Text) : Bool :=
  settings.allow.contains (String.ofList emoji)

theorem find_spans {tree : Node} {text : Text} (parsed : PlainText.parse text = .ok tree)
    (id kind : String) :
    (find settings context ⟨id, text, tree, kind⟩).map (·.span) = weeds settings.keeps 0 text := by
  rw [find, PlainText.emoji_in_text parsed, List.map_map]
  rfl

theorem find_weeded {tree : Node} {text : Text}
    (parsed : PlainText.parse (weeded settings.keeps text) = .ok tree) (id kind : String) :
    find settings context ⟨id, weeded settings.keeps text, tree, kind⟩ = [] := by
  rw [find, PlainText.emoji_in_text parsed, List.map_eq_nil_iff, List.filter_eq_nil_iff]
  intro emoji member
  have kept : settings.allow.contains (String.ofList emoji.text) = true :=
    occurrences_weeded settings.keeps 0 text emoji member
  rw [kept]
  exact Bool.false_ne_true

/-- What the check reports of one leaf of prose. Each base in it lies in exactly one match of the
pattern, and a match is reported exactly if it is not allowed. -/
theorem leaf_reported (read : document.IsRead) (selected : leaf ∈ document.select Node.isProse)
    {found : List Excerpt} (scan : Scan leaf.span.start leaf.raw found) :
    (∀ place c, leaf.raw[place]? = some c → isBase c = true →
      ∃! emoji, emoji ∈ found ∧ emoji.span.covers (leaf.span.start + place) = true) ∧
    ∀ emoji ∈ found, (∃ finding ∈ find settings context document, finding.span = emoji.span) ↔
      String.ofList emoji.text ∉ settings.allow := by
  have same := scan.eq_occurrences
  subst same
  have listed : ∀ emoji ∈ occurrences leaf.span.start leaf.raw, emoji ∈ inProse document.tree :=
    fun emoji member => List.mem_flatMap.mpr ⟨leaf, selected, member⟩
  constructor
  · intro place c there bases
    obtain ⟨emoji, member, covered⟩ := base_covered leaf.span.start leaf.raw place c there bases
    refine ⟨emoji, ⟨member, covered⟩, ?_⟩
    rintro other ⟨other_member, other_covered⟩
    exact Span.covered_once (occurrences_in_turn _ _) other_member member other_covered covered
  · intro emoji member
    constructor
    · rintro ⟨finding, reported, same⟩
      obtain ⟨other, known, made⟩ := List.mem_map.mp reported
      obtain ⟨other_listed, not_allowed⟩ := List.mem_filter.mp known
      -- No other emoji has the same span, since each holds some of the text.
      have bounds := leaf_bounds selected emoji member
      have spans : other.span = emoji.span := by
        rw [← same, ← made]
        rfl
      have covered : emoji.span.covers emoji.span.start = true :=
        Span.covers_iff.mpr ⟨Nat.le_refl _, bounds.2.1⟩
      have one : other = emoji :=
        Span.covered_once (inProse_in_turn read) other_listed (listed emoji member)
          (spans ▸ covered) covered
      rw [one] at not_allowed
      simpa using not_allowed
    · intro not_allowed
      refine ⟨report context emoji,
        List.mem_map.mpr ⟨emoji, List.mem_filter.mpr ⟨listed emoji member, ?_⟩, rfl⟩, rfl⟩
      simpa using not_allowed

theorem found_in_leaf {finding : Finding} (member : finding ∈ find settings context document) :
    ∃ leaf ∈ document.select Node.isProse, ∃ found, Scan leaf.span.start leaf.raw found ∧
      ∃ emoji ∈ found, finding.span = emoji.span := by
  obtain ⟨emoji, known, made⟩ := List.mem_map.mp member
  obtain ⟨leaf, selected, found⟩ := List.mem_flatMap.mp (List.mem_filter.mp known).1
  exact ⟨leaf, selected, _, occurrences_scan _ _, emoji, found, by rw [← made]; rfl⟩

theorem found_quotes (read : document.IsRead) {finding : Finding}
    (member : finding ∈ find settings context document) :
    finding.text = "Found emoji '" ++ String.ofList (finding.span.read document.text) ++ "'." ∧
      finding.fix = some (.delete finding.span) := by
  obtain ⟨emoji, known, made⟩ := List.mem_map.mp member
  have stands := (found_of_read read emoji (List.mem_filter.mp known).1).1
  subst made
  refine ⟨?_, rfl⟩
  change _ = "Found emoji '" ++ String.ofList (emoji.span.read document.text) ++ "'."
  rw [stands.read]
  rfl

end Emoji

namespace Profile

variable {profile : Profile} {source : Source} {pluginId : String} {rule : EnabledRule}
  {settings : Emoji.Settings}

theorem parse_textual (bound : profile.bindingFor source.kind = .ok ⟨pluginId, Format.plainText⟩)
    (textual : '\x00' ∉ source.text) :
    ∃ tree, PlainText.parse source.text = .ok tree ∧
    Document.IsRead ⟨source.id, source.text, tree, source.kind⟩ ∧
      profile.parse source = .ok ⟨source.id, source.text, tree, source.kind⟩ := by
  have parsed := PlainText.parse_of_textual textual
  have made : Format.plainText.parse source.text =
      .ok (.proper (Node.spanning .document 0 (PlainText.blocks source.text.lines))) := by
    simp only [Format.plainText, Format.reader, parsed]
  exact ⟨_, parsed, Format.IsBuiltIn.plainText.reads source.id source.kind made,
    parse_of_built_in bound .plainText made⟩

theorem rewritten_weeded (only : profile.rules = [rule])
    (made : rule.check = .document (Options.documentCheck settings.value (Emoji.find settings)))
    {tree : Node} (parsed : PlainText.parse source.text = .ok tree)
    (read : Document.IsRead ⟨source.id, source.text, tree, source.kind⟩) :
    profile.rewritten ⟨source.id, source.text, tree, source.kind⟩ =
      { source with text := Emoji.weeded settings.keeps source.text } := by
  have clears := clears_of_find only made (Emoji.find_clearing settings rule.context read)
  have text := clears.rewritten_text
  rw [Emoji.find_spans parsed, Emoji.outside_weeds] at text
  rw [← text]
  rfl

end Profile

/-- Emoji are found and taken out. In every document that a built-in format reads, and whatever is
allowed, the check reports parts of the text that hold some of it, come one behind the other and are
quoted as they stand. In each leaf of prose every base lies in exactly one match of the pattern of
an emoji, a match is reported exactly if it is not allowed, and nothing else is. And if the rule is
the only one, and the kind of the source is read as plain text, then a text without a NUL is fixed
in one pass at most, at any limit: nothing is found in what is left, and what is left is the text
without the parts that were reported. -/
theorem emoji_are_found_and_taken_out :
    (∀ (format : Format) (text : Text) (tree : Node) (options : Value) (settings : Emoji.Settings)
        (context : RuleContext) (id kind : String),
      format.IsBuiltIn → format.parse text = .ok (.proper tree) →
      Emoji.Settings.read options = .ok settings →
        ∃ (check : DocumentCheck) (found : List Finding), Emoji.rule.prepare options = .ok check ∧
          check.evaluate context ⟨id, text, tree, kind⟩ = .ok (found.map .proper) ∧
          found.Pairwise (fun earlier later => earlier.span.stop ≤ later.span.start) ∧
          (∀ finding ∈ found, finding.span.start < finding.span.stop ∧
            finding.span.stop ≤ text.length ∧
            finding.text = "Found emoji '" ++ String.ofList (finding.span.read text) ++ "'." ∧
            finding.fix = some (.delete finding.span)) ∧
          (∀ finding ∈ found, ∃ leaf ∈ tree.select Node.isProse, ∃ matched,
            Emoji.Scan leaf.span.start leaf.raw matched ∧
            ∃ emoji ∈ matched, finding.span = emoji.span) ∧
          ∀ leaf ∈ tree.select Node.isProse,
            (∃! matched, Emoji.Scan leaf.span.start leaf.raw matched) ∧
            ∀ matched, Emoji.Scan leaf.span.start leaf.raw matched →
              (∀ place c, leaf.raw[place]? = some c → Emoji.isBase c = true →
                ∃! emoji, emoji ∈ matched ∧ emoji.span.covers (leaf.span.start + place) = true) ∧
              ∀ emoji ∈ matched,
                (∃ finding ∈ found, finding.span = emoji.span) ↔
                  String.ofList emoji.text ∉ settings.allow) ∧
    ∀ (entry : RuleEntry) (formats : List FormatEntry) (configuration : Entries) (profile : Profile)
        (settings : Emoji.Settings) (source : Source) (pluginId : String) (limit : Nat),
      Profile.build [entry] formats configuration = .ok profile →
      entry.rule = .proper (.document Emoji.rule) →
        Emoji.Settings.read entry.options = .ok settings →
        profile.bindingFor source.kind = .ok ⟨pluginId, Format.plainText⟩ → '\x00' ∉ source.text →
        1 ≤ limit →
        ∃ linted fixed, profile.process limit .lint source = .ok linted ∧
        profile.process limit .fix source = .ok fixed ∧
          fixed.result.passes ≤ 1 ∧ fixed.result.findings = [] ∧
          (source.fixedBy fixed.result).text =
            Text.outside (linted.result.findings.map (·.span)) 0 source.text := by
  constructor
  · intro format text tree options settings context id kind builtIn parsed known
    have read : Document.IsRead ⟨id, text, tree, kind⟩ := builtIn.reads id kind parsed
    have clearing := Emoji.find_clearing settings context read
    refine ⟨_, Emoji.find settings context ⟨id, text, tree, kind⟩,
      Options.prepare_of_read known _ _, rfl, clearing.in_turn, ?_,
      fun finding => Emoji.found_in_leaf, ?_⟩
    · intro finding member
      exact ⟨clearing.some_text finding member, clearing.within finding member,
        Emoji.found_quotes read member⟩
    · intro leaf selected
      refine ⟨⟨_, Emoji.occurrences_scan _ _, fun other scan => scan.eq_occurrences⟩, ?_⟩
      intro matched scan
      exact Emoji.leaf_reported read selected scan
  · intro entry formats configuration profile settings source pluginId limit accepted asked known
      bound textual allowed
    obtain ⟨rule, check, only, -, prepared, made⟩ := Profile.rule_of_build accepted asked
    have prepared_of_read : Emoji.rule.prepare entry.options = _ :=
      Options.prepare_of_read known _ _
    rw [prepared_of_read, Except.ok.injEq] at prepared
    subst prepared
    obtain ⟨tree, plain, read, parsed⟩ := Profile.parse_textual bound textual
    have rewritten := Profile.rewritten_weeded only made plain read
    -- What is left holds no NUL either, so it is read again, and nothing is found in it.
    let left : Source := { source with text := Emoji.weeded settings.keeps source.text }
    have left_textual : '\x00' ∉ left.text :=
      fun nul => textual ((Emoji.weeded_sublist settings.keeps source.text).mem nul)
    have left_bound : profile.bindingFor left.kind = .ok ⟨pluginId, Format.plainText⟩ := bound
    obtain ⟨next_tree, next_plain, next_read, next_parsed⟩ :=
      Profile.parse_textual left_bound left_textual
    have next_clears :=
      Profile.clears_of_find only made (Emoji.find_clearing settings rule.context next_read)
    have silent := next_clears.evaluate_eq
    rw [Emoji.find_weeded next_plain, List.map_nil] at silent
    obtain ⟨fixed, runs, passes, nothing, text⟩ :=
      Profile.fix_in_one_pass allowed parsed (rewritten ▸ next_parsed) silent
    have clears := Profile.clears_of_find only made (Emoji.find_clearing settings rule.context read)
    refine ⟨_, fixed, Profile.process_lint limit parsed, runs, passes, nothing, ?_⟩
    rw [text, clears.rewritten_text, Profile.lint, clears.evaluate_eq, List.map_map]
    rfl

/-- A profile that reads plain text and looks for emoji other than the sun. -/
def Profile.cloudless : Profile where
  rules :=
    [⟨Emoji.ruleId, .document Emoji.rule, .table [(.text "allow", .list [.string "\u2600"])], none,
    .document (Options.documentCheck (Emoji.Settings.value ⟨["\u2600"]⟩)
      (Emoji.find ⟨["\u2600"]⟩))⟩]
  bindings := [⟨"text", Format.plainText⟩]

/-- The cloud between a sun and a joiner is taken out with its modifier. The joiner comes to stand
behind the sun, which is allowed and stays one emoji as it was, as no base follows. -/
theorem cloud_is_taken_from_behind_the_sun :
    let source : Source := ⟨"d", ['a', '\u2600', '\u2601', '\uFE0F', '\u200D', 'b', '\n'], "txt"⟩
    let options : Value := .table [(.text "allow", .list [.string "\u2600"])]
    ∃ (tree : Node) (check : DocumentCheck) (found : List Finding) (linted fixed : Processed),
      Format.plainText.parse source.text = .ok (.proper tree) ∧
      Emoji.rule.prepare options = .ok check ∧
      check.evaluate ⟨Emoji.ruleId, .warning⟩ ⟨"d", source.text, tree, "txt"⟩ =
        .ok (found.map .proper) ∧
      (∀ finding ∈ found, finding.text =
        "Found emoji '" ++ String.ofList (finding.span.read source.text) ++ "'.") ∧
      Profile.cloudless.process 1 .lint source = .ok linted ∧
      linted.result.findings.map (·.span) = [Span.ofLength 2 2] ∧
      Profile.cloudless.process 1 .fix source = .ok fixed ∧ fixed.result.passes ≤ 1 ∧
      fixed.result.findings = [] ∧
      (source.fixedBy fixed.result).text = ['a', '\u2600', '\u200D', 'b', '\n'] := by
  intro source options
  have read : ∃ tree, Format.plainText.parse source.text = .ok (.proper tree) := ⟨_, by cbv⟩
  have known : Emoji.Settings.read options = .ok ⟨["\u2600"]⟩ := by cbv
  have accepted : Profile.build [⟨Emoji.ruleId, .proper (.document Emoji.rule), options, none⟩]
      [⟨"text", .proper Format.plainText⟩] [] = .ok .cloudless := by rfl
  have bound : Profile.cloudless.bindingFor source.kind = .ok ⟨"text", Format.plainText⟩ := by cbv
  have spans : ∃ linted, Profile.cloudless.process 1 .lint source = .ok linted ∧
      linted.result.findings.map (·.span) = [Span.ofLength 2 2] := ⟨_, by cbv, by cbv⟩
  obtain ⟨tree, parsed⟩ := read
  obtain ⟨about_prose, in_one_pass⟩ := emoji_are_found_and_taken_out
  obtain ⟨check, found, prepared, handed, -, quoted, -⟩ :=
    about_prose _ source.text tree options _ ⟨Emoji.ruleId, .warning⟩ "d" "txt" .plainText parsed
      known
  obtain ⟨linted, fixed, lints, runs, passes, nothing, left⟩ :=
    in_one_pass _ _ [] .cloudless _ source "text" 1 accepted rfl known bound (by decide)
      (Nat.le_refl 1)
  obtain ⟨other, other_lints, cloud⟩ := spans
  rw [lints, Except.ok.injEq] at other_lints
  subst other_lints
  rw [cloud] at left
  exact ⟨tree, check, found, linted, fixed, parsed, prepared, handed,
    fun finding member => (quoted finding member).2.2.1, lints, cloud, runs, passes, nothing, left⟩

end ProseLinter
