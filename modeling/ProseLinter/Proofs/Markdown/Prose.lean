import ProseLinter.Proofs.Markdown.FencedCode
import ProseLinter.Proofs.Markdown.InlineMarks
import ProseLinter.Rule.Marker

/-!
# No markup is left in prose

A prose leaf is a gap between pieces of markup, and no piece of markup stands in it: not in a line,
nor in the label of a link at any depth. Only the label of an image is taken over as it is, so code
between grave accents may stand in it. Blocks of code hold no prose at all.
-/

namespace ProseLinter

def BranchKind.isImage : BranchKind → Bool
  | image _ => true
  | _ => false

def Node.isImage (node : Node) : Bool := node.isBranch BranchKind.isImage

namespace Markdown

open Node (preorder preorderAll isCode)

/-- That no whole piece of inline markup stands anywhere in a text. -/
def Plain (text : Text) : Prop := ∀ mark : InlineMark, mark.Complete → ¬mark.raw <:+: text

/-- That whatever whole piece of inline markup stands in a text is code. -/
def OnlyCode (text : Text) : Prop :=
  ∀ mark : InlineMark, mark.Complete → mark.raw <:+: text → ∃ raw, mark = .code raw

/-- What a node may hold, if it is prose, below its parent: the label of an image may hold code, any
other prose no markup. -/
def MayStand (entry : Node × Option Node) : Prop :=
  entry.1.isProse = true → (entry.2.any Node.isImage = false → Plain entry.1.raw) ∧
    OnlyCode entry.1.raw

/-- That the prose in some trees, at any depth, holds no markup it may not hold, where the trees do
not stand in an image. -/
def Tidy (nodes : List Node) : Prop :=
  ∀ parent, parent.any Node.isImage = false → ∀ entry ∈ preorderAll parent nodes, MayStand entry

section Texts

variable {c : Char} {raw rest text : Text}

theorem Plain.onlyCode (plain : Plain text) : OnlyCode text := fun mark complete stands =>
  absurd stands (plain mark complete)

theorem plain_nil : Plain [] :=
  fun _ complete stands => complete.raw_ne_nil (List.infix_nil.1 stands)

theorem Plain.cons (plain : Plain raw) (front : raw <+: rest) (nothing : mark? (c :: rest) = none) :
    Plain (c :: raw) := by
  intro mark complete stands
  rcases List.infix_cons_iff.1 stands with begins | later
  · exact mark_eq_none_iff.1 nothing mark complete
      (begins.trans (List.cons_prefix_cons.2 ⟨rfl, front⟩))
  · exact plain mark complete later

/-- The label of an image has no closing bracket, which every image and every link has. -/
theorem only_code_of_bare (bare : ']' ∉ text) : OnlyCode text := by
  intro mark complete stands
  cases complete with
  | code count body some_ticks some_body => exact ⟨_, rfl⟩
  | image alt destination _ target => exact absurd (stands.subset (by simp [InlineMark.raw])) bare
  | link label destination some_label _ target =>
      exact absurd (stands.subset (by simp [InlineMark.raw])) bare

end Texts

/-! ## Trees side by side and below each other -/

section Trees

variable {kind : BranchKind} {below rest : List Node} {taken after : List Line} {block : Node}
  {strict : Bool}

theorem spanning_not_prose (kind : BranchKind) (start : Nat) (below : List Node) :
    (Node.spanning kind start below).isProse = false := by
  cases below <;> rfl

theorem may_stand_of_not_prose {node : Node} {parent : Option Node} (other : node.isProse = false) :
    MayStand (node, parent) := fun prose => absurd prose (by simp [other])

@[simp]
theorem tidy_nil : Tidy [] := fun _ _ _ member => absurd member List.not_mem_nil

@[simp]
theorem tidy_append {first second : List Node} :
    Tidy (first ++ second) ↔ Tidy first ∧ Tidy second := by
  simp only [Tidy, Node.preorder_all_eq_flatMap, List.flatMap_append, List.forall_mem_append]
  constructor
  · intro tidy
    exact ⟨fun parent outside => (tidy parent outside).1,
      fun parent outside => (tidy parent outside).2⟩
  · rintro ⟨left, right⟩ parent outside
    exact ⟨left parent outside, right parent outside⟩

theorem tidy_prose {start : Nat} {raw : Text} :
    Tidy (.leaf .prose start raw :: rest) ↔ Plain raw ∧ Tidy rest := by
  constructor
  · intro tidy
    obtain ⟨single, tidyRest⟩ :=
      tidy_append.1 (show Tidy ([.leaf .prose start raw] ++ rest) from tidy)
    exact ⟨(single none rfl (.leaf .prose start raw, none) (List.mem_singleton_self _) rfl).1
      rfl, tidyRest⟩
  · rintro ⟨plain, tidy⟩ parent outside entry member
    rw [preorderAll, preorder, List.singleton_append, List.mem_cons] at member
    rcases member with rfl | later
    · exact fun _ => ⟨fun _ => plain, plain.onlyCode⟩
    · exact tidy parent outside entry later

theorem tidy_spanning (noImage : kind.isImage = false) (start : Nat) (inside : Tidy below)
    (tidy : Tidy rest) :
    Tidy (Node.spanning kind start below :: rest) := by
  intro parent outside entry member
  rw [preorderAll, Node.preorder_eq, Node.children_spanning, List.cons_append, List.mem_cons,
    List.mem_append] at member
  rcases member with rfl | (deeper | later)
  · exact may_stand_of_not_prose (spanning_not_prose kind start below)
  · refine inside _ ?_ entry deeper
    rw [Option.any_some, Node.isImage, Node.isBranch_spanning, noImage]
  · exact tidy parent outside entry later

theorem may_stand_in_image {start : Nat} {alt : Text} {image : Node}
    (isImage : image.isImage = true) (bare : ']' ∉ alt) :
    MayStand (.leaf .prose start alt, some image) := by
  intro _
  refine ⟨fun outside => ?_, only_code_of_bare bare⟩
  rw [Option.any_some, isImage] at outside
  exact absurd outside Bool.true_eq_false.mp

theorem tidy_image {source alt : Text} (bare : ']' ∉ alt) (start labelStart : Nat)
    (destination : Destination) (tidy : Tidy rest) :
    Tidy (labelledNode (.image source) start ['!', '['] alt
      (if alt.isEmpty then [] else [.leaf .prose labelStart alt]) destination :: rest) := by
  intro parent outside entry member
  rw [labelledNode, preorderAll, Node.preorder_eq, Node.children_spanning, List.cons_append,
    List.mem_cons, List.mem_append] at member
  rcases member with rfl | (deeper | later)
  · exact may_stand_of_not_prose rfl
  · split at deeper
    · simp only [List.cons_append, List.nil_append, preorderAll, preorder, List.mem_cons,
        List.not_mem_nil, or_false] at deeper
      rcases deeper with rfl | rfl <;> exact may_stand_of_not_prose rfl
    · simp only [List.cons_append, List.nil_append, preorderAll, preorder, List.mem_cons,
        List.not_mem_nil, or_false] at deeper
      rcases deeper with rfl | rfl | rfl
      · exact may_stand_of_not_prose rfl
      · exact may_stand_in_image (Node.isBranch_spanning _ _ _ _) bare
      · exact may_stand_of_not_prose rfl
  · exact tidy parent outside entry later

theorem leaf_not_prose {leafKind : LeafKind} (noProse : leafKind ≠ .prose) (start : Nat)
    (raw : Text) :
    (Node.leaf leafKind start raw).isProse = false := by
  cases leafKind with
  | prose => exact absurd rfl noProse
  | _ => rfl

theorem tidy_leaf {leafKind : LeafKind} (noProse : leafKind ≠ .prose) {start : Nat} {raw : Text}
    (tidy : Tidy rest) :
    Tidy (.leaf leafKind start raw :: rest) := by
  intro parent outside entry member
  rw [preorderAll, preorder, List.singleton_append, List.mem_cons] at member
  rcases member with rfl | later
  · exact may_stand_of_not_prose (leaf_not_prose noProse start raw)
  · exact tidy parent outside entry later

theorem tidy_optional_leaf {leafKind : LeafKind} (noProse : leafKind ≠ .prose) (start : Nat)
    (raw : Text) :
    Tidy (if raw.isEmpty then [] else [.leaf leafKind start raw]) := by
  split
  · exact tidy_nil
  · exact tidy_leaf noProse tidy_nil

end Trees

/-! ## Inline text -/

theorem inline_opens {offset start : Nat} {text raw : Text} {kind : LeafKind} {rest : List Node}
    (same : inline offset text = .leaf kind start raw :: rest) : raw <+: text := by
  have spelt := (inline_tile offset text).spelt
  rw [same, Node.spellingAll, Node.spelling] at spelt
  exact ⟨_, spelt⟩

theorem tidy_prepend {offset : Nat} {c : Char} {rest : Text} (nothing : mark? (c :: rest) = none)
    (tidy : Tidy (inline (offset + 1) rest)) :
    Tidy (prependProse offset c (inline (offset + 1) rest)) := by
  generalize same : inline (offset + 1) rest = nodes at tidy ⊢
  unfold prependProse
  split
  next start raw more =>
    obtain ⟨plain, tidyMore⟩ := tidy_prose.1 tidy
    exact tidy_prose.2 ⟨plain.cons (inline_opens same) nothing, tidyMore⟩
  next => exact tidy_prose.2 ⟨plain_nil.cons List.nil_prefix nothing, tidy⟩

/-- The nodes of inline text are tidy. A prose leaf grows from its end to its start, and where it
does no mark begins. -/
theorem tidy_inline (offset : Nat) (text : Text) : Tidy (inline offset text) := by
  induction offset, text using inline.induct with
  | case1 offset =>
      rw [inline_nil]
      exact tidy_nil
  | case2 offset c rest raw after found induction =>
      rw [inline_code found]
      exact tidy_leaf (by decide) induction
  | case3 offset c rest alt destination after found induction =>
      have complete := complete_of_mark found
      rw [inline_image found]
      cases complete with
      | image _ _ bare target => exact tidy_image bare offset (offset + 2) destination induction
  | case4 offset c rest label destination after found labelInduction induction =>
      rw [inline_link found]
      apply tidy_spanning rfl
      · apply tidy_leaf (by decide)
        exact tidy_append.2 ⟨labelInduction, tidy_leaf (by decide) tidy_nil⟩
      · exact induction
  | case5 offset c rest found induction =>
      rw [inline_prose found]
      exact tidy_prepend found induction

/-! ## Lines and blocks -/

section Blocks

variable {strict : Bool} {taken after lines : List Line} {block : Node} {nodes : List Node}

theorem tidy_ending (line : Line) : Tidy line.endingLeaves :=
  tidy_optional_leaf (by decide) line.contentEnd line.ending

theorem tidy_textLine (line : Line) : Tidy (textLine line) :=
  tidy_append.2 ⟨tidy_append.2 ⟨tidy_optional_leaf (by decide) line.start _, tidy_inline _ _⟩,
    tidy_ending line⟩

theorem tidy_fenceLine (line : Line) : Tidy (fenceLine line) :=
  tidy_leaf (by decide) (tidy_ending line)

theorem tidy_codeLine (line : Line) : Tidy (codeLine line) :=
  tidy_append.2 ⟨tidy_optional_leaf (by decide) line.start line.content, tidy_ending line⟩

theorem tidy_quoteLine (line : Line) : Tidy (quoteLine line) := by
  unfold quoteLine
  split
  · exact tidy_leaf (by decide) (tidy_append.2 ⟨tidy_inline _ _, tidy_ending line⟩)
  · exact tidy_nil

theorem tidy_itemLine (line : Line) (mark : ItemMark) : Tidy (itemLine line mark) := by
  have indent :=
    tidy_optional_leaf (show LeafKind.whiteSpace ≠ .prose by decide) line.start mark.indent
  exact tidy_append.2
    ⟨tidy_append.2 ⟨indent, tidy_leaf (by decide) (tidy_inline _ mark.text)⟩, tidy_ending line⟩

theorem tidy_flatMap {nodesOf : Line → List Node} (each : ∀ line, Tidy (nodesOf line))
    (lines : List Line) :
    Tidy (lines.flatMap nodesOf) := by
  induction lines with
  | nil => exact tidy_nil
  | cons line rest induction =>
      rw [List.flatMap_cons]
      exact tidy_append.2 ⟨each line, induction⟩

theorem tidy_gatherItems (lines : List Line) :
    Tidy (gatherItems lines).1 ∧ Tidy (gatherItems lines).2 := by
  induction lines with
  | nil => exact ⟨tidy_nil, tidy_nil⟩
  | cons line rest induction =>
      obtain ⟨pending, items⟩ := induction
      rw [gatherItems]
      cases item? line.content with
      | none => exact ⟨tidy_append.2 ⟨tidy_textLine line, pending⟩, items⟩
      | some mark =>
          exact ⟨tidy_nil, tidy_spanning rfl
            _ (tidy_append.2 ⟨tidy_itemLine line mark, pending⟩) items⟩

theorem tidy_codeBlock (opening : Line) (fence : Fence) (inside : List Line)
    (closing : Option Line) :
    Tidy [codeBlock opening fence inside closing] := by
  have last : Tidy (closing.elim [] fenceLine) := by
    cases closing with
    | none => exact tidy_nil
    | some line => exact tidy_fenceLine line
  have front := tidy_append.2 ⟨tidy_fenceLine opening, tidy_flatMap tidy_codeLine inside⟩
  exact tidy_spanning rfl _ (tidy_append.2 ⟨front, last⟩) tidy_nil

theorem tidy_of_next (next : NextBlock strict taken after block) : Tidy [block] := by
  cases next with
  | blank line =>
      have content : Tidy (line.contentLeaves .whiteSpace) :=
        tidy_optional_leaf (by decide) line.start line.content
      exact tidy_spanning rfl _ (tidy_append.2 ⟨content, tidy_ending line⟩) tidy_nil
  | closedCode line inside _ closing notBlank fence =>
      exact tidy_codeBlock line fence inside (some closing)
  | openCode line inside notBlank fence => exact tidy_codeBlock line fence inside none
  | header line _ notBlank notFence mark =>
      have title :=
        tidy_append.2 ⟨tidy_inline (line.start + mark.opening.length) mark.title, tidy_ending line⟩
      exact tidy_spanning rfl _ (tidy_leaf (by decide) title) tidy_nil
  | rule line => exact tidy_spanning rfl _ (tidy_fenceLine line) tidy_nil
  | quote line more =>
      exact tidy_spanning rfl _ (tidy_flatMap tidy_quoteLine (line :: more)) tidy_nil
  | list line more => exact tidy_spanning rfl _ (tidy_gatherItems (line :: more)).2 tidy_nil
  | paragraph line more =>
      exact tidy_spanning rfl _ (tidy_flatMap tidy_textLine (line :: more)) tidy_nil

/-! ## Blocks of code -/

theorem prose_of_spanning (kind : BranchKind) (start : Nat) (below : List Node) :
    (Node.spanning kind start below).select Node.isProse =
      below.flatMap (Node.select Node.isProse) := by
  cases below <;> exact Node.select_branch Node.isProse kind _ _

theorem no_prose_in_leaf {leafKind : LeafKind} (noProse : leafKind ≠ .prose) (start : Nat)
    (raw : Text) :
    (Node.leaf leafKind start raw).select Node.isProse = [] := by
  rw [Node.select_leaf, leaf_not_prose noProse]
  rfl

theorem no_prose_in_optional_leaf {leafKind : LeafKind} (noProse : leafKind ≠ .prose) {start : Nat}
    {raw : Text} :
    ∀ node ∈ (if raw.isEmpty then [] else [Node.leaf leafKind start raw]),
      node.select Node.isProse = [] := by
  split
  · exact fun node member => absurd member List.not_mem_nil
  · exact List.forall_mem_singleton.2 (no_prose_in_leaf noProse start raw)

theorem no_prose_in_fenceLine (line : Line) :
    ∀ node ∈ fenceLine line, node.select Node.isProse = [] :=
  List.forall_mem_cons.2 ⟨no_prose_in_leaf (by decide) _ _, no_prose_in_optional_leaf (by decide)⟩

theorem no_prose_in_codeLine (line : Line) :
    ∀ node ∈ codeLine line, node.select Node.isProse = [] :=
  List.forall_mem_append.2
    ⟨no_prose_in_optional_leaf (by decide), no_prose_in_optional_leaf (by decide)⟩

theorem no_prose_in_code (opening : Line) (fence : Fence) (inside : List Line)
    (closing : Option Line) :
    (codeBlock opening fence inside closing).select Node.isProse = [] := by
  have lines : ∀ node ∈ fenceLine opening ++ inside.flatMap codeLine ++ closing.elim [] fenceLine,
      node.select Node.isProse = [] := by
    refine List.forall_mem_append.2
      ⟨List.forall_mem_append.2 ⟨no_prose_in_fenceLine opening, ?_⟩, ?_⟩
    · intro node member
      obtain ⟨line, -, stands⟩ := List.mem_flatMap.1 member
      exact no_prose_in_codeLine line node stands
    · cases closing with
      | none => exact fun node member => absurd member List.not_mem_nil
      | some line => exact no_prose_in_fenceLine line
  rw [codeBlock, prose_of_spanning]
  exact List.flatMap_eq_nil_iff.2 lines

theorem no_prose_of_next (next : NextBlock strict taken after block) (code : block.isCode = true) :
    block.select Node.isProse = [] := by
  have noCode : ∀ (kind : BranchKind) (start : Nat) (below : List Node), kind.isCodeBlock = false →
      ¬(Node.spanning kind start below).isCode = true := by
    intro kind start below other isCode
    rw [Node.isCode, Node.isBranch_spanning, other] at isCode
    exact Bool.false_ne_true isCode
  cases next with
  | closedCode line inside _ closing notBlank fence =>
      exact no_prose_in_code line fence inside (some closing)
  | openCode line inside notBlank fence => exact no_prose_in_code line fence inside none
  | blank => exact absurd code (noCode _ _ _ rfl)
  | header => exact absurd code (noCode _ _ _ rfl)
  | rule => exact absurd code (noCode _ _ _ rfl)
  | quote => exact absurd code (noCode _ _ _ rfl)
  | list => exact absurd code (noCode _ _ _ rfl)
  | paragraph => exact absurd code (noCode _ _ _ rfl)

theorem blocks_tidy (read : blocks strict lines = .ok nodes) :
    Tidy nodes ∧ ∀ node ∈ nodes, node.isCode = true → node.select Node.isProse = [] := by
  refine blocks_induction (motive := fun _ nodes =>
    Tidy nodes ∧ ∀ node ∈ nodes, node.isCode = true → node.select Node.isProse = [])
      ?finish ?step read
  case finish => exact ⟨tidy_nil, fun node member => absurd member List.not_mem_nil⟩
  case step =>
    rintro taken after block more next ⟨tidy, noProse⟩
    exact ⟨tidy_append.2 ⟨tidy_of_next next, tidy⟩,
      List.forall_mem_cons.2 ⟨no_prose_of_next next, noProse⟩⟩

end Blocks

/-- Except for code in the label of an image, no piece of inline markup is left in the prose of a
text: no code between grave accents, no image and no link, wherever the prose stands. No prose at
all stands in a block of code. -/
theorem prose_holds_no_markup {strict : Bool} {text : Text} {tree : Node}
    (read : parse strict text = .ok tree) :
    (∀ entry ∈ tree.walk, entry.1.isProse = true →
      (entry.2.any Node.isImage = false → Plain entry.1.raw) ∧ OnlyCode entry.1.raw) ∧
    ∀ block ∈ tree.select isCode, block.select Node.isProse = [] := by
  obtain ⟨nodes, readNodes, rfl⟩ := parse_eq_ok.1 read
  obtain ⟨tidy, noProse⟩ := blocks_tidy readNodes
  constructor
  · intro entry member
    rw [Node.walk_eq_preorder, Node.preorder_eq, Node.children_spanning, List.mem_cons] at member
    rcases member with rfl | below
    · exact may_stand_of_not_prose (spanning_not_prose _ _ nodes)
    · refine tidy _ ?_ entry below
      rw [Option.any_some, Node.isImage, Node.isBranch_spanning]
      rfl
  · intro block member
    rw [select_code_of_read readNodes, List.mem_filter] at member
    exact noProse block member.1 member.2

/-- Code that is not closed is prose, in a header as in the label of a link; code that is closed is
not. -/
theorem open_code_is_prose :
    ∃ tree, parse true "# a `b\n> [`c` ``d](u) `e``\n```\n`f`\n```".toList = .ok tree ∧
      (tree.select Node.isProse).map Node.raw =
        ["a `b".toList, " ``d".toList, " ".toList, "`".toList] ∧
      (∀ entry ∈ tree.walk, entry.1.isProse = true →
        (entry.2.any Node.isImage = false → Plain entry.1.raw) ∧ OnlyCode entry.1.raw) ∧
      ∀ block ∈ tree.select isCode, block.select Node.isProse = [] := by
  have readText : ∃ tree, parse true
      "# a `b\n> [`c` ``d](u) `e``\n```\n`f`\n```".toList = .ok tree ∧
      (tree.select Node.isProse).map Node.raw =
        ["a `b".toList, " ``d".toList, " ".toList, "`".toList] :=
    ⟨_, by cbv, by cbv⟩
  obtain ⟨tree, read, raws⟩ := readText
  exact ⟨tree, read, raws, prose_holds_no_markup read⟩

/-- The label of an image is one prose leaf, whatever it holds, so a rule about prose finds a marker
in the code there. -/
theorem code_stands_in_the_label_of_an_image :
    ∃ tree, parse true "![`TODO`](u)".toList = .ok tree ∧
      (∃ leaf ∈ tree.select Node.isProse, ∃ mark : InlineMark, mark.Complete ∧
        mark.raw = leaf.raw) ∧
      Marker.inProse ⟨Marker.Settings.defaultTerms, false⟩ tree = [⟨3, "TODO".toList⟩] := by
  have readText : ∃ tree, parse true "![`TODO`](u)".toList = .ok tree ∧
      tree.select Node.isProse = [.leaf .prose 2 "`TODO`".toList] ∧
      Marker.inProse ⟨Marker.Settings.defaultTerms, false⟩ tree = [⟨3, "TODO".toList⟩] :=
        ⟨_, by cbv, by cbv, by cbv⟩
  obtain ⟨tree, read, selected, found⟩ := readText
  refine ⟨tree, read,
    ⟨_, selected ▸ List.mem_singleton_self _, .code "`TODO`".toList, ?_, rfl⟩, found⟩
  exact .code 1 "TODO".toList Nat.one_pos (by decide)

end Markdown

end ProseLinter
