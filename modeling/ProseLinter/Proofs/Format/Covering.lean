import Mathlib
import ProseLinter.Profile
import ProseLinter.Proofs.Markdown.Tiling
import ProseLinter.Proofs.PlainText.Tiling
import ProseLinter.Proofs.Tree.Reading

/-!
# The built-in formats lose nothing

A tree that a built-in format reads from a text covers the text, so writing the tree gives the text
back. A profile holds every tree against the length of its text; with a built-in format that check
never fails.
-/

namespace ProseLinter

/-- The formats that come with the linter. -/
inductive Format.IsBuiltIn : Format → Prop
  | markdown (strict : Bool) : IsBuiltIn (Format.markdown strict)
  | plainText : IsBuiltIn Format.plainText

theorem FormatEntry.plain_text_built_in {id : String} :
    ∀ entry ∈ [FormatEntry.mk id (.proper Format.plainText)],
    ∀ format, entry.format = .proper format → format.IsBuiltIn := by
  intro entry member format asked
  rw [List.mem_singleton.mp member] at asked
  cases asked
  exact .plainText

theorem FormatEntry.markdown_built_in {id : String} {strict : Bool} :
    ∀ entry ∈ [FormatEntry.mk id (.proper (Format.markdown strict))],
      ∀ format, entry.format = .proper format → format.IsBuiltIn := by
  intro entry member format asked
  rw [List.mem_singleton.mp member] at asked
  cases asked
  exact .markdown strict

theorem Markdown.parse_tiles {strict : Bool} {text : Text} {tree : Node}
    (read : parse strict text = .ok tree) :
    ∃ nodes, tree = Node.spanning .document 0 nodes ∧ Node.Tile 0 nodes text := by
  obtain ⟨nodes, readBlocks, root⟩ := parse_eq_ok.mp read
  have tile := blocks_tile readBlocks 0 (Line.follow_lines text)
  rw [Line.whole_text_lines] at tile
  exact ⟨nodes, root.symm, tile⟩

theorem Markdown.cause_of_parse {strict : Bool} {text : Text} {fault : ParseFault}
    (refused : parse strict text = .error fault) : fault.cause = .unclosedFence := by
  obtain ⟨opening, fence, rfl⟩ := fault_of_blocks (parse_eq_error.mp refused)
  rfl

theorem PlainText.parse_tiles {text : Text} {tree : Node} (read : parse text = .ok tree) :
    ∃ nodes, tree = Node.spanning .document 0 nodes ∧ Node.Tile 0 nodes text := by
  unfold parse at read
  split at read
  · simp at read
  · rw [Except.ok.injEq] at read
    have tile := blocks_tile (Line.follow_lines text)
    rw [Line.whole_text_lines] at tile
    exact ⟨_, read.symm, tile⟩

theorem PlainText.cause_of_parse {text : Text} {fault : ParseFault}
    (refused : parse text = .error fault) :
    fault.cause = .binaryContent := by
  unfold parse at refused
  split at refused
  · rw [Except.error.injEq] at refused
    rw [← refused, binary]
  · simp at refused

namespace Format

theorem tree_of_reader {parse : Text → Except ParseFault Node} {text : Text}
    {supplied : Supplied Node} (read : reader parse text = .ok supplied) :
    ∃ tree, parse text = .ok tree ∧ supplied = .proper tree := by
  unfold reader at read
  split at read
  next tree parsed =>
    rw [Except.ok.injEq] at read
    exact ⟨tree, parsed, read.symm⟩
  next => simp at read

theorem fault_of_reader {parse : Text → Except ParseFault Node} {text : Text} {fault : Fault}
    (refused : reader parse text = .error fault) :
    ∃ cause, parse text = .error cause ∧ fault = .parse cause := by
  unfold reader at refused
  split at refused
  next => simp at refused
  next cause parsed =>
    rw [Except.error.injEq] at refused
    exact ⟨cause, parsed, refused.symm⟩

theorem IsBuiltIn.tiles {format : Format} (builtIn : format.IsBuiltIn) {text : Text}
    {supplied : Supplied Node} (read : format.parse text = .ok supplied) :
    ∃ nodes, supplied = .proper (Node.spanning .document 0 nodes) ∧ Node.Tile 0 nodes text ∧
      format.serialize = Node.text := by
  cases builtIn with
  | markdown strict =>
      obtain ⟨tree, parsed, same⟩ := tree_of_reader read
      obtain ⟨nodes, root, tile⟩ := Markdown.parse_tiles parsed
      exact ⟨nodes, root ▸ same, tile, rfl⟩
  | plainText =>
      obtain ⟨tree, parsed, same⟩ := tree_of_reader read
      obtain ⟨nodes, root, tile⟩ := PlainText.parse_tiles parsed
      exact ⟨nodes, root ▸ same, tile, rfl⟩

theorem IsBuiltIn.covers {format : Format} (builtIn : format.IsBuiltIn) {text : Text}
    {supplied : Supplied Node} (read : format.parse text = .ok supplied) :
    ∃ tree, supplied = .proper tree ∧ tree.Covers text ∧ format.serialize tree = text := by
  obtain ⟨nodes, same, tile, writes⟩ := builtIn.tiles read
  have covers := Node.root_covers tile
  exact ⟨_, same, covers, writes ▸ covers.text_whole⟩

theorem IsBuiltIn.reads {format : Format} (builtIn : format.IsBuiltIn) (id : String) {text : Text}
    {tree : Node} (kind : String) (read : format.parse text = .ok (.proper tree)) :
    Document.IsRead ⟨id, text, tree, kind⟩ := by
  obtain ⟨nodes, same, tile, -⟩ := builtIn.tiles read
  rw [Supplied.proper.injEq] at same
  exact ⟨nodes, same, tile⟩

/-- A built-in format refuses a text for what stands in it, never for a tree of its own. -/
theorem IsBuiltIn.refuses {format : Format} (builtIn : format.IsBuiltIn) {text : Text}
    {fault : Fault} (refused : format.parse text = .error fault) :
    ∃ cause, fault = .parse cause ∧
      (cause.cause = .unclosedFence ∨ cause.cause = .binaryContent) := by
  cases builtIn with
  | markdown strict =>
      obtain ⟨cause, parsed, same⟩ := fault_of_reader refused
      exact ⟨cause, same, .inl (Markdown.cause_of_parse parsed)⟩
  | plainText =>
      obtain ⟨cause, parsed, same⟩ := fault_of_reader refused
      exact ⟨cause, same, .inr (PlainText.cause_of_parse parsed)⟩

theorem IsBuiltIn.answers {format : Format} (builtIn : format.IsBuiltIn) (kind : String) :
    ∃ fits, format.accepts kind = .ok fits := by
  cases builtIn with
  | markdown strict => exact ⟨_, rfl⟩
  | plainText => exact ⟨_, rfl⟩

end Format

theorem Binding.parsed_of_read {binding : Binding} {id kind : String} {text : Text}
    {document : Document} (read : binding.read id text kind = .ok document) :
    binding.format.parse text = .ok (.proper document.tree) := by
  unfold Binding.read at read
  split at read
  next tree parsed =>
    split at read
    · rw [Except.ok.injEq] at read
      rw [← read]
      exact parsed
    · cases read
  · cases read
  · cases read
  · cases read

theorem Binding.read_of_parsed {binding : Binding} (builtIn : binding.format.IsBuiltIn)
    {text : Text} {tree : Node} (parsed : binding.format.parse text = .ok (.proper tree))
    (id kind : String) :
    binding.read id text kind = .ok ⟨id, text, tree, kind⟩ := by
  obtain ⟨other, same, covers, -⟩ := builtIn.covers parsed
  rw [Supplied.proper.injEq] at same
  subst same
  simp only [read, parsed, covers.span_whole, if_true]

theorem Binding.read_spans {binding : Binding} (builtIn : binding.format.IsBuiltIn) (id : String)
    (text : Text) (kind pluginId : String) (position : Option Position) :
    binding.read id text kind ≠ .error ⟨.notSpanning pluginId, position⟩ := by
  unfold read
  intro refused
  cases parsed : binding.format.parse text with
  | ok supplied =>
      obtain ⟨tree, rfl, covers, -⟩ := builtIn.covers parsed
      simp [parsed, covers.span_whole] at refused
  | error fault =>
      obtain ⟨cause, rfl, reason⟩ := builtIn.refuses parsed
      simp only [parsed, Except.error.injEq] at refused
      simp [refused] at reason

namespace Profile

theorem parse_of_bound {profile : Profile} {source : Source} {binding : Binding}
    (bound : profile.bindingFor source.kind = .ok binding) :
    profile.parse source = (binding.read source.id source.text source.kind).mapError .parse := by
  rw [parse, bound]
  rfl

theorem parse_of_built_in {profile : Profile} {source : Source} {pluginId : String}
    {format : Format} {tree : Node}
    (bound : profile.bindingFor source.kind = .ok ⟨pluginId, format⟩) (builtIn : format.IsBuiltIn)
    (parsed : format.parse source.text = .ok (.proper tree)) :
    profile.parse source = .ok ⟨source.id, source.text, tree, source.kind⟩ := by
  rw [parse_of_bound bound, Binding.read_of_parsed builtIn parsed]
  rfl

theorem parse_spans {profile : Profile} {source : Source} {binding : Binding}
    (bound : profile.bindingFor source.kind = .ok binding) (builtIn : binding.format.IsBuiltIn)
    (pluginId : String) (position : Option Position) :
    profile.parse source ≠ .error (.parse ⟨.notSpanning pluginId, position⟩) := by
  rw [parse_of_bound bound]
  intro refused
  have spans := Binding.read_spans builtIn source.id source.text source.kind pluginId position
  cases read : binding.read source.id source.text source.kind with
  | ok document => simp [read, Except.mapError] at refused
  | error fault =>
      simp only [read, Except.mapError, Except.error.injEq, Fault.parse.injEq] at refused
      exact spans (refused ▸ read)

theorem first_accepting_built_in (kind : String) {bindings : List Binding}
    (builtIn : ∀ binding ∈ bindings, binding.format.IsBuiltIn) :
    (∃ binding ∈ bindings, firstAccepting kind bindings = .ok binding) ∨
      firstAccepting kind bindings = .error (.unsupportedKind kind) := by
  induction bindings with
  | nil => exact .inr rfl
  | cons binding rest induction =>
      rw [List.forall_mem_cons] at builtIn
      obtain ⟨fits, answered⟩ := builtIn.1.answers kind
      simp only [firstAccepting, answered]
      cases fits with
      | true => exact .inl ⟨binding, List.mem_cons_self, rfl⟩
      | false =>
          rcases induction builtIn.2 with ⟨found, member, first⟩ | unsupported
          · exact .inl ⟨found, List.mem_cons_of_mem binding member, first⟩
          · exact .inr unsupported

end Profile

/-- A tree that a built-in format reads covers its text and is written as that text, and a profile
never finds a text left out of such a tree: neither where the kind of a document is bound to a
built-in format, nor, whatever the kind, in a profile that holds no other formats. -/
theorem built_in_formats_cover :
    (∀ (format : Format) (text : Text) (supplied : Supplied Node), format.IsBuiltIn →
      format.parse text = .ok supplied →
        ∃ tree, supplied = .proper tree ∧ tree.Covers text ∧ format.serialize tree = text) ∧
    (∀ (profile : Profile) (source : Source) (binding : Binding),
      profile.bindingFor source.kind = .ok binding →
      binding.format.IsBuiltIn → ∀ (pluginId : String) (position : Option Position),
        profile.parse source ≠ .error (.parse ⟨.notSpanning pluginId, position⟩)) ∧
    ∀ profile : Profile, (∀ binding ∈ profile.bindings, binding.format.IsBuiltIn) →
      ∀ (source : Source) (pluginId : String) (position : Option Position),
        profile.parse source ≠ .error (.parse ⟨.notSpanning pluginId, position⟩) := by
  refine ⟨?_, ?_, ?_⟩
  · intro format text supplied builtIn read
    exact builtIn.covers read
  · intro profile source binding bound builtIn
    exact Profile.parse_spans bound builtIn
  · intro profile builtIn source pluginId position
    rcases Profile.first_accepting_built_in source.kind
      builtIn with ⟨binding, member, bound⟩ | unsupported
    · exact Profile.parse_spans bound (builtIn binding member) pluginId position
    · rw [Profile.parse, Profile.bindingFor, unsupported]
      intro refused
      cases refused

/-- An empty header, a bare item, an image without a label and all three terminators in one text. -/
theorem odd_lines_are_covered :
    (∃ tree, (Format.markdown true).parse "# \r\n- \r![](u)\n> q".toList = .ok (.proper tree) ∧
        tree.Covers "# \r\n- \r![](u)\n> q".toList) ∧
      ∃ profile : Profile, profile.bindingFor "md" = .ok ⟨"markdown", Format.markdown true⟩ ∧
        (∀ binding ∈ profile.bindings, binding.format.IsBuiltIn) ∧
        (∀ text, profile.parse ⟨"a", text, "md"⟩ ≠
          .error (.parse ⟨.notSpanning "markdown", none⟩)) ∧
        ∀ text, profile.parse ⟨"a", text, "txt"⟩ ≠ .error (.parse ⟨.notSpanning "text", none⟩) := by
  obtain ⟨covered, bound_spans, all_span⟩ := built_in_formats_cover
  constructor
  · have read : ∃ tree, (Format.markdown true).parse "# \r\n- \r![](u)\n> q".toList =
      .ok (.proper tree) :=
      ⟨_, by cbv⟩
    obtain ⟨tree, read⟩ := read
    obtain ⟨other, same, covers, -⟩ := covered _ _ _ (.markdown true) read
    cases same
    exact ⟨tree, read, covers⟩
  · have builtIn : ∀ binding ∈
      [Binding.mk "markdown" (Format.markdown true), ⟨"text", Format.plainText⟩],
        binding.format.IsBuiltIn := by
      intro binding member
      simp only [List.mem_cons, List.not_mem_nil, or_false] at member
      rcases member with rfl | rfl
      · exact .markdown true
      · exact .plainText
    have bound :
        (Profile.mk [] [⟨"markdown", Format.markdown true⟩, ⟨"text", Format.plainText⟩]
          []).bindingFor "md" = .ok ⟨"markdown", Format.markdown true⟩ := by cbv
    exact ⟨⟨[], _, []⟩, bound, builtIn,
      fun text => bound_spans _ ⟨"a", text, "md"⟩ _ bound (.markdown true) _ _,
      fun text => all_span _ builtIn ⟨"a", text, "txt"⟩ _ _⟩

end ProseLinter
