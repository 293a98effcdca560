import ProseLinter.Proofs.Rule.Safety
import ProseLinter.Proofs.Tree.Reading
import ProseLinter.Rule.SentenceLength

/-!
# Sentences lie in their block

The prose of a block is spread over the block: its code points, and the spaces that stand for gaps,
have offsets that rise from one to the next and stay in the block. Cutting and trimming keep the
order, so the first offset of a sentence is never behind its last one.
-/

namespace ProseLinter.SentenceLength

/-- That offsets rise strictly, from one bound on and below another. -/
structure Spread (low high : Nat) (placed : List Placed) : Prop where
  rising : placed.Pairwise fun earlier later => earlier.offset < later.offset
  inside : ∀ entry ∈ placed, low ≤ entry.offset ∧ entry.offset < high

section

variable {low middle high : Nat} {placed first second : List Placed}

theorem Spread.nil (low high : Nat) : Spread low high [] :=
  ⟨.nil, fun _ member => absurd member List.not_mem_nil⟩

theorem Spread.sublist (spread : Spread low high placed) (kept : first.Sublist placed) :
    Spread low high first :=
  ⟨spread.rising.sublist kept, fun entry member => spread.inside entry (kept.mem member)⟩

theorem Spread.append (left : Spread low middle first) (right : Spread middle high second)
    (below : low ≤ middle) (above : middle ≤ high) : Spread low high (first ++ second) := by
  constructor
  · refine List.pairwise_append.mpr ⟨left.rising, right.rising, ?_⟩
    intro earlier early later late
    exact Nat.lt_of_lt_of_le (left.inside earlier early).2 (right.inside later late).1
  · intro entry member
    rcases List.mem_append.mp member with early | late
    · have inside := left.inside entry early
      omega
    · have inside := right.inside entry late
      omega

theorem place_spread (offset : Nat) (text : Text) :
    Spread offset (offset + text.length) (place offset text) := by
  induction text generalizing offset with
  | nil => exact .nil _ _
  | cons c rest induction =>
      have later := induction (offset + 1)
      rw [place, List.length_cons]
      constructor
      · refine .cons ?_ later.rising
        intro entry member
        exact Nat.lt_of_succ_le (later.inside entry member).1
      · refine List.forall_mem_cons.mpr
          ⟨⟨Nat.le_refl _, Nat.lt_add_of_pos_right (Nat.succ_pos _)⟩, ?_⟩
        intro entry member
        have inside := later.inside entry member
        omega

def gapBefore (reached : Option Nat) (leaf : Node) : List Placed :=
  match reached with
  | some reached => if leaf.span.start == reached then [] else [⟨' ', reached⟩]
  | none => []

theorem proseAfter_cons (reached : Option Nat) (leaf : Node) (rest : List Node) :
    proseAfter reached (leaf :: rest) =
      gapBefore reached leaf ++
        (place leaf.span.start leaf.raw ++ proseAfter (some leaf.span.stop) rest) := by
  cases reached with
  | none => rfl
  | some before => exact List.append_assoc _ _ _

theorem gap_spread {reached : Option Nat} {leaf : Node}
    (from_low : ∀ before ∈ reached, low ≤ before)
    (behind : ∀ before ∈ reached, before ≤ leaf.span.start) :
    Spread low leaf.span.start (gapBefore reached leaf) := by
  cases reached with
  | none => exact .nil _ _
  | some before =>
      rw [gapBefore]
      split
      · exact .nil _ _
      · rename_i apart
        have ends_before := behind before rfl
        have other : leaf.span.start ≠ before := by simpa using apart
        refine ⟨List.pairwise_singleton _ _,
          List.forall_mem_singleton.mpr ⟨from_low before rfl, ?_⟩⟩
        change before < leaf.span.start
        omega

/-- The prose of leaves in the order of the text, each of them behind what was reached. -/
theorem prose_after_spread {reached : Option Nat} {leaves : List Node}
    (whole : ∀ leaf ∈ leaves, leaf.span.stop = leaf.span.start + leaf.raw.length)
    (in_turn : leaves.Pairwise fun earlier later => earlier.span.stop ≤ later.span.start)
    (within : ∀ leaf ∈ leaves, low ≤ leaf.span.start ∧ leaf.span.stop ≤ high)
    (from_low : ∀ before ∈ reached, low ≤ before)
    (behind : ∀ before ∈ reached, ∀ leaf ∈ leaves, before ≤ leaf.span.start) :
    Spread low high (proseAfter reached leaves) := by
  induction leaves generalizing reached low with
  | nil => exact .nil _ _
  | cons leaf rest induction =>
      obtain ⟨before_rest, rest_in_turn⟩ := List.pairwise_cons.mp in_turn
      obtain ⟨whole_leaf, whole_rest⟩ := List.forall_mem_cons.mp whole
      obtain ⟨within_leaf, within_rest⟩ := List.forall_mem_cons.mp within
      have ordered := leaf.span.ordered
      have gap :=
        gap_spread from_low fun before known => behind before known leaf List.mem_cons_self
      have own : Spread leaf.span.start leaf.span.stop (place leaf.span.start leaf.raw) :=
        whole_leaf ▸ place_spread leaf.span.start leaf.raw
      have others : Spread leaf.span.stop high (proseAfter (some leaf.span.stop) rest) := by
        apply induction whole_rest rest_in_turn
        · intro later member
          exact ⟨before_rest later member, (within_rest later member).2⟩
        · intro before known
          cases known
          exact Nat.le_refl _
        · intro before known
          cases known
          exact before_rest
      rw [proseAfter_cons]
      exact gap.append (own.append others ordered within_leaf.2) within_leaf.1
        (Nat.le_trans ordered within_leaf.2)

end

theorem prose_spread {text : Text} {block : Node} (lies : block.LiesIn text) :
    Spread block.span.start block.span.stop (prose block) := by
  have known : ∀ leaf ∈ block.select Node.isProse,
      leaf.span.stop = leaf.span.start + leaf.raw.length := by
    intro leaf selected
    obtain ⟨member, prose⟩ := List.mem_filter.mp selected
    exact ((lies.below leaf member).prose prose).2.2
  exact prose_after_spread known lies.prose_in_turn lies.prose_within
    (fun before known => nomatch known) (fun before known => nomatch known)

/-! ## Cutting prose into sentences -/

theorem cut_flatten (placed : List Placed) : (cut placed).flatten = placed := by
  induction placed with
  | nil => rfl
  | cons first rest induction =>
      rw [cut]
      cases parts : cut rest with
      | nil =>
          rw [parts] at induction
          rw [← induction]
          rfl
      | cons segment more =>
          rw [parts, List.flatten_cons] at induction
          change (if isEnder first.char && isBreak rest then [first] :: segment :: more
            else (first :: segment) :: more).flatten = first :: rest
          split
          · rw [List.flatten_cons, List.flatten_cons, induction, List.singleton_append]
          · rw [List.flatten_cons, List.cons_append, induction]

theorem trim_sublist (placed : List Placed) : (trim placed).Sublist placed := by
  have stripped := (List.dropWhile_sublist (isBlank ·.char)
    (l := (placed.dropWhile (isBlank ·.char)).reverse)).reverse
  rw [List.reverse_reverse] at stripped
  exact stripped.trans (List.dropWhile_sublist _)

/-- That a sentence lies between two bounds. -/
structure Sentence.Lies (low high : Nat) (sentence : Sentence) : Prop where
  from_low : low ≤ sentence.first
  ordered : sentence.first ≤ sentence.last
  below_high : sentence.last < high

theorem Sentence.lies_of {low high : Nat} {placed : List Placed} {sentence : Sentence}
    (spread : Spread low high placed) (made : Sentence.of? placed = some sentence) :
    sentence.Lies low high := by
  cases placed with
  | nil => cases made
  | cons first rest =>
      cases made
      have start := spread.inside first List.mem_cons_self
      cases rest with
      | nil => exact ⟨start.1, Nat.le_refl _, start.2⟩
      | cons second more =>
          have final : (second :: more).getLastD first ∈ second :: more := by
            rw [List.getLastD_eq_getLast?, List.getLast?_cons]
            exact List.mem_of_getLast? (by rw [List.getLast?_cons]; rfl)
          have rises := (List.pairwise_cons.mp spread.rising).1 _ final
          have stop := spread.inside _ (List.mem_cons_of_mem first final)
          exact ⟨start.1, Nat.le_of_lt rises, stop.2⟩

theorem sentences_lie {text : Text} {block : Node} (lies : block.LiesIn text) :
    ∀ sentence ∈ sentences block, sentence.Lies block.span.start block.span.stop := by
  intro sentence member
  obtain ⟨segment, cut_out, made⟩ := List.mem_filterMap.mp member
  have kept : (trim segment).Sublist (prose block) := by
    rw [← cut_flatten (prose block)]
    exact (trim_sublist segment).trans (List.sublist_flatten_of_mem cut_out)
  exact Sentence.lies_of ((prose_spread lies).sublist kept) made

theorem Sentence.span_of_ordered {sentence : Sentence} (ordered : sentence.first ≤ sentence.last) :
    ∃ span : Span, sentence.span = .ok span ∧ span.start = sentence.first ∧
      span.stop = sentence.last + 1 := by
  have bounds : (0 : Int) ≤ sentence.first ∧ (sentence.first : Int) ≤ sentence.last + 1 := by omega
  refine ⟨⟨sentence.first, sentence.last + 1, by omega⟩, ?_, rfl, rfl⟩
  rw [Sentence.span, Fault.spanOf, Span.ofBounds?, dif_pos bounds]
  rfl

/-! ## The check -/

/-- Every sentence of a block has a span, and what is reported of it suits the text. -/
theorem find_in_safe (maximum : Int) (context : RuleContext) {text : Text} {block : Node}
    (lies : block.LiesIn text) :
    ∃ found, findIn maximum context block = .ok found ∧ ∀ finding ∈ found, finding.Suits text := by
  have each : ∀ sentence ∈ sentences block, ∃ entry : Span × Nat,
      (do return (← sentence.span, sentence.length) : Except Fault (Span × Nat)) = .ok entry ∧
        entry.1.stop ≤ text.length := by
    intro sentence member
    have inside := sentences_lie lies sentence member
    obtain ⟨span, spans, -, stop⟩ := Sentence.span_of_ordered inside.ordered
    refine ⟨(span, sentence.length), by rw [spans]; rfl, ?_⟩
    have below := inside.below_high
    have block_within := lies.stop_le
    change span.stop ≤ text.length
    omega
  obtain ⟨placed, mapped, within⟩ := mapM_of_each each
  refine ⟨_, by rw [findIn, mapped]; rfl, ?_⟩
  intro finding member
  obtain ⟨entry, known, same⟩ := List.mem_map.mp member
  rw [← same]
  apply Finding.suits_unfixed (within entry (List.mem_filter.mp known).1) rfl
  apply Finding.not_failure_of_head (c := 'S')
  · simp [RuleContext.report]
  · decide

theorem find_safe (maximum : Int) (context : RuleContext) {document : Document}
    (read : document.IsRead) :
    ∃ found, find maximum context document = .ok found ∧
      ∀ finding ∈ found, finding.Suits document.text := by
  have each : ∀ block ∈ document.select (Node.isBranch BranchKind.holdsSentences), ∃ found,
      findIn maximum context block = .ok found ∧ ∀ finding ∈ found, finding.Suits document.text :=
    fun block selected => find_in_safe maximum context (read.select_lies (fun _ _ => rfl) selected)
  obtain ⟨found, mapped, suit⟩ := mapM_of_each each
  refine ⟨found.flatten, by rw [find, mapped]; rfl, ?_⟩
  intro finding member
  obtain ⟨part, known, inside⟩ := List.mem_flatten.mp member
  exact suit part known finding inside

theorem check_safe {options : Value} {check : DocumentCheck}
    (prepared : rule.prepare options = .ok check) (context : RuleContext) {document : Document}
    (read : document.IsRead) : check.IsSafe context document := by
  obtain ⟨maximum, -, made⟩ := Options.prepare_eq_ok prepared
  obtain ⟨found, finds, suit⟩ := find_safe maximum context read
  rw [made]
  refine ⟨found, ?_, suit⟩
  change (find maximum context document).map (fun found => found.map Supplied.proper) = _
  rw [finds]
  rfl

end ProseLinter.SentenceLength
