import ProseLinter.Proofs.Attempt
import ProseLinter.Proofs.Format.Blocks
import ProseLinter.Proofs.Rule.SentenceLength
import ProseLinter.Proofs.Text.Outside

/-!
# The sentences of a block

The prose of a block is cut into segments, and what is left of a segment without the white space at
its ends is a sentence. The segments hold all of the prose in its order, so the sentences come one
behind the other and leave out nothing but white space. What a sentence counts is the prose between
its first and its last code point, with one for each gap that it goes over: a gap is written with
white space, so no sentence begins or ends with one.
-/

namespace ProseLinter.SentenceLength

def Sentence.covers (sentence : Sentence) (offset : Nat) : Bool :=
  decide (sentence.first ≤ offset) && decide (offset ≤ sentence.last)

@[simp]
theorem Sentence.covers_iff {sentence : Sentence} {offset : Nat} :
    sentence.covers offset = true ↔ sentence.first ≤ offset ∧ offset ≤ sentence.last := by
  rw [covers, Bool.and_eq_true, decide_eq_true_eq, decide_eq_true_eq]

def Sentence.range (sentence : Sentence) : Span :=
  Span.ofLength sentence.first (sentence.last + 1 - sentence.first)

theorem Sentence.range_covers {sentence : Sentence} {offset : Nat} :
    sentence.range.covers offset = true ↔ sentence.covers offset = true := by
  rw [Span.covers_iff, covers_iff]
  change sentence.first ≤ offset ∧
    offset < sentence.first + (sentence.last + 1 - sentence.first) ↔ _
  omega

/-- That a code point of the prose of a block that is not white space stands at an offset. -/
def HoldsAt (block : Node) (offset : Nat) : Prop :=
  ∃ leaf ∈ block.select Node.isProse, ∃ place c, leaf.raw[place]? = some c ∧ isBlank c = false ∧
    offset = leaf.span.start + place

/-- The offsets of the code points of the prose of a block. -/
def proseOffsets (block : Node) : List Nat :=
  (block.select Node.isProse).flatMap fun leaf => List.range' leaf.span.start leaf.raw.length

/-- The gaps between consecutive leaves: where the one before the gap ends, and where the one behind
it starts. -/
def gapsBetween : List Node → List (Nat × Nat)
  | earlier :: later :: rest =>
      (if later.span.start = earlier.span.stop then []
        else [(earlier.span.stop, later.span.start)]) ++
        gapsBetween (later :: rest)
  | _ => []

def gaps (block : Node) : List (Nat × Nat) := gapsBetween (block.select Node.isProse)

/-! ## What is left of a segment -/

section Segments

variable {placed segment front kept back : List Placed} {sentence : Sentence} {entry : Placed}

theorem trim_parts (segment : List Placed) : ∃ front back, segment = front ++ trim segment ++ back ∧
    (∀ entry ∈ front, isBlank entry.char = true) ∧ ∀ entry ∈ back, isBlank entry.char = true := by
  let rest := segment.dropWhile (isBlank ·.char)
  have cut : rest = trim segment ++ (rest.reverse.takeWhile (isBlank ·.char)).reverse := by
    rw [trim, ← List.reverse_append, List.takeWhile_append_dropWhile, List.reverse_reverse]
  refine ⟨segment.takeWhile (isBlank ·.char),
    (rest.reverse.takeWhile (isBlank ·.char)).reverse, ?_, ?_, ?_⟩
  · rw [List.append_assoc, ← cut, List.takeWhile_append_dropWhile]
  · exact fun entry member => List.all_eq_true.mp List.all_takeWhile entry member
  · exact fun entry member => List.all_eq_true.mp List.all_takeWhile entry
      (List.mem_reverse.mp member)

theorem last_of_trim (last : (trim segment).getLast? = some entry) :
    isBlank entry.char = false := by
  rw [trim, List.getLast?_reverse] at last
  have stops :=
    List.head?_dropWhile_not (isBlank ·.char) (segment.dropWhile (isBlank ·.char)).reverse
  rw [last] at stops
  exact stops

theorem head_of_trim (head : (trim segment).head? = some entry) : isBlank entry.char = false := by
  have begins : trim segment <+: segment.dropWhile (isBlank ·.char) := by
    have ends :=
      (List.dropWhile_suffix (isBlank ·.char) (l := (segment.dropWhile (isBlank ·.char)).reverse))
    rw [← List.reverse_prefix, List.reverse_reverse] at ends
    exact ends
  obtain ⟨after, whole⟩ := begins
  have stops := List.head?_dropWhile_not (isBlank ·.char) segment
  rw [← whole, List.head?_append, head] at stops
  exact stops

theorem Sentence.of_eq_some : of? kept = some sentence ↔ ∃ first last, kept.head? = some first ∧
    kept.getLast? = some last ∧ sentence = ⟨first.offset, last.offset, kept.length⟩ := by
  cases kept with
  | nil => simp [of?]
  | cons first rest =>
      have last : (first :: rest).getLast? = some ((first :: rest).getLastD first) := by
        rw [List.getLastD_cons, List.getLast?_cons, List.getLastD_eq_getLast?]
      rw [of?, last, List.head?_cons, Option.some.injEq]
      constructor
      · exact fun same => ⟨_, _, rfl, rfl, same.symm⟩
      · rintro ⟨_, _, ⟨⟩, ⟨⟩, same⟩
        exact same.symm

theorem Sentence.exists_of (some_left : kept ≠ []) : ∃ sentence, of? kept = some sentence := by
  cases kept with
  | nil => exact absurd rfl some_left
  | cons first rest => exact ⟨_, rfl⟩

theorem offset_bounds (rising : kept.Pairwise fun earlier later => earlier.offset < later.offset)
    {first last : Placed} (head : kept.head? = some first) (final : kept.getLast? = some last) :
    ∀ entry ∈ kept, first.offset ≤ entry.offset ∧ entry.offset ≤ last.offset := by
  intro entry member
  obtain ⟨rest, parts⟩ := List.head?_eq_some_iff.mp head
  obtain ⟨front, whole⟩ := List.getLast?_eq_some_iff.mp final
  constructor
  · rw [parts] at rising member
    rcases List.mem_cons.mp member with rfl | later
    · exact Nat.le_refl _
    · exact Nat.le_of_lt ((List.pairwise_cons.mp rising).1 entry later)
  · rw [whole] at rising member
    rcases List.mem_append.mp member with earlier | own
    · exact Nat.le_of_lt
        ((List.pairwise_append.mp rising).2.2 entry earlier last (List.mem_singleton_self last))
    · exact Nat.le_of_eq (congrArg Placed.offset (List.mem_singleton.mp own))

/-- Of what stands around a part the range of the part holds nothing. -/
theorem countP_covers
    (rising : (front ++ kept ++ back).Pairwise fun earlier later => earlier.offset < later.offset)
    (made : Sentence.of? kept = some sentence) :
    (front ++ kept ++ back).countP (sentence.covers ·.offset) = kept.length := by
  obtain ⟨first, last, head, final, rfl⟩ := Sentence.of_eq_some.mp made
  have first_member := List.mem_of_head? head
  have last_member := List.mem_of_getLast? final
  obtain ⟨rising, -, before_back⟩ := List.pairwise_append.mp rising
  obtain ⟨-, own_rising, before_kept⟩ := List.pairwise_append.mp rising
  have none_front :
      front.countP (Sentence.covers ⟨first.offset, last.offset, kept.length⟩ ·.offset) = 0 := by
    rw [List.countP_eq_zero]
    intro entry member covered
    have below := before_kept entry member first first_member
    rw [Sentence.covers_iff] at covered
    exact absurd covered.1 (Nat.not_le_of_lt below)
  have none_back :
      back.countP (Sentence.covers ⟨first.offset, last.offset, kept.length⟩ ·.offset) = 0 := by
    rw [List.countP_eq_zero]
    intro entry member covered
    have above := before_back last (List.mem_append_right front last_member) entry member
    rw [Sentence.covers_iff] at covered
    exact absurd covered.2 (Nat.not_le_of_lt above)
  have all_kept : kept.countP (Sentence.covers ⟨first.offset, last.offset, kept.length⟩ ·.offset) =
      kept.length := by
    rw [List.countP_eq_length]
    exact fun entry member => Sentence.covers_iff.mpr
      (offset_bounds own_rising head final entry member)
  rw [List.countP_append, List.countP_append, none_front, none_back, all_kept, Nat.zero_add,
    Nat.add_zero]

end Segments

/-! ## The sentences of prose -/

section Cut

variable {placed segment : List Placed} {sentence : Sentence} {entry : Placed}

def sentencesOf (placed : List Placed) : List Sentence :=
  (cut placed).filterMap fun segment => Sentence.of? (trim segment)

theorem sentences_eq (block : Node) : sentences block = sentencesOf (prose block) := rfl

theorem parts_of_sentence (member : sentence ∈ sentencesOf placed) :
    ∃ front kept back, placed = front ++ kept ++ back ∧
    Sentence.of? kept = some sentence ∧ (∀ entry ∈ kept.head?, isBlank entry.char = false) ∧
      ∀ entry ∈ kept.getLast?, isBlank entry.char = false := by
  obtain ⟨segment, cut_out, made⟩ := List.mem_filterMap.mp member
  obtain ⟨before, after, around⟩ := List.append_of_mem cut_out
  obtain ⟨front, back, parts, -, -⟩ := trim_parts segment
  refine ⟨before.flatten ++ front, trim segment, back ++ after.flatten, ?_, made, ?_, ?_⟩
  · rw [← cut_flatten placed, around, List.flatten_append, List.flatten_cons]
    nth_rewrite 1 [parts]
    simp only [List.append_assoc]
  · exact fun entry head => head_of_trim head
  · exact fun entry last => last_of_trim last

theorem sentences_in_turn
    (rising : placed.Pairwise fun earlier later => earlier.offset < later.offset) :
    (sentencesOf placed).Pairwise fun earlier later => earlier.last < later.first := by
  rw [← cut_flatten placed, List.pairwise_flatten] at rising
  rw [sentencesOf, List.pairwise_filterMap]
  refine rising.2.imp ?_
  intro segment other apart earlier made later made_later
  obtain ⟨-, last, -, final, rfl⟩ := Sentence.of_eq_some.mp made
  obtain ⟨first, -, head, -, rfl⟩ := Sentence.of_eq_some.mp made_later
  exact apart last ((trim_sublist segment).mem (List.mem_of_getLast? final)) first
    ((trim_sublist other).mem (List.mem_of_head? head))

theorem exists_covers (rising : placed.Pairwise fun earlier later => earlier.offset < later.offset)
    (member : entry ∈ placed) (some_char : isBlank entry.char = false) :
    ∃ sentence ∈ sentencesOf placed, sentence.covers entry.offset = true := by
  have inside : entry ∈ (cut placed).flatten := (cut_flatten placed).symm ▸ member
  obtain ⟨segment, cut_out, among⟩ := List.mem_flatten.mp inside
  obtain ⟨front, back, parts, blank_front, blank_back⟩ := trim_parts segment
  have left : entry ∈ trim segment := by
    rw [parts, List.mem_append, List.mem_append] at among
    rcases among with (before | own) | after
    · rw [blank_front entry before] at some_char
      cases some_char
    · exact own
    · rw [blank_back entry after] at some_char
      cases some_char
  obtain ⟨sentence, made⟩ := Sentence.exists_of (List.ne_nil_of_mem left)
  have own_rising : (trim segment).Pairwise fun earlier later => earlier.offset < later.offset := by
    rw [← cut_flatten placed] at rising
    exact rising.sublist ((trim_sublist segment).trans (List.sublist_flatten_of_mem cut_out))
  refine ⟨sentence, List.mem_filterMap.mpr ⟨segment, cut_out, made⟩, ?_⟩
  obtain ⟨first, last, head, final, rfl⟩ := Sentence.of_eq_some.mp made
  exact Sentence.covers_iff.mpr (offset_bounds own_rising head final entry left)

theorem length_of_sentence
    (rising : placed.Pairwise fun earlier later => earlier.offset < later.offset)
    (member : sentence ∈ sentencesOf placed) :
    sentence.length = placed.countP (sentence.covers ·.offset) := by
  obtain ⟨front, kept, back, parts, made, -, -⟩ := parts_of_sentence member
  subst parts
  rw [countP_covers rising made]
  obtain ⟨first, last, -, -, rfl⟩ := Sentence.of_eq_some.mp made
  rfl

end Cut

/-! ## The prose of leaves -/

section Leaves

variable {leaves : List Node} {entry : Placed} {gap : Nat × Nat} {offset : Nat} {text : Text}

theorem mem_place : entry ∈ place offset text ↔
    ∃ place, text[place]? = some entry.char ∧ entry.offset = offset + place := by
  induction text generalizing offset with
  | nil => simp [place]
  | cons c rest induction =>
      rw [place, List.mem_cons, induction]
      constructor
      · rintro (rfl | ⟨place, stands, same⟩)
        · exact ⟨0, rfl, rfl⟩
        · exact ⟨place + 1, stands, by omega⟩
      · rintro ⟨place, stands, same⟩
        cases place with
        | zero =>
            obtain ⟨char, own⟩ := entry
            exact .inl (congrArg₂ Placed.mk (Option.some.inj stands).symm same)
        | succ place => exact .inr ⟨place, stands, by omega⟩

theorem offsets_place (offset : Nat) (text : Text) :
    (place offset text).map (·.offset) = List.range' offset text.length := by
  induction text generalizing offset with
  | nil => rfl
  | cons c rest induction =>
      rw [place, List.map_cons, induction, List.length_cons, List.range'_succ]

def placedIn (leaves : List Node) : List Placed :=
  leaves.flatMap fun leaf => place leaf.span.start leaf.raw

/-- The spaces that stand for the gaps between leaves, each where its gap begins. -/
def spacesIn (leaves : List Node) : List Placed := (gapsBetween leaves).map fun gap => ⟨' ', gap.1⟩

theorem spacesIn_cons (earlier leaf : Node) (rest : List Node) :
    spacesIn (earlier :: leaf :: rest) =
      gapBefore (some earlier.span.stop) leaf ++ spacesIn (leaf :: rest) := by
  rw [spacesIn, gapsBetween, List.map_append, gapBefore]
  by_cases adjoining : leaf.span.start = earlier.span.stop
  · rw [if_pos adjoining, if_pos (beq_iff_eq.mpr adjoining)]
    rfl
  · rw [if_neg adjoining, if_neg (mt beq_iff_eq.mp adjoining)]
    rfl

theorem prose_after_perm (earlier : Node) (leaves : List Node) :
    (proseAfter (some earlier.span.stop) leaves).Perm
      (spacesIn (earlier :: leaves) ++ placedIn leaves) := by
  induction leaves generalizing earlier with
  | nil => exact .refl []
  | cons leaf rest induction =>
      rw [proseAfter_cons, spacesIn_cons, List.append_assoc, placedIn, List.flatMap_cons]
      refine .append_left _ ?_
      exact ((induction leaf).append_left _).trans (List.perm_append_comm_assoc _ _ _)

theorem prose_perm (block : Node) :
    (prose block).Perm
      (spacesIn (block.select Node.isProse) ++ placedIn (block.select Node.isProse)) := by
  rw [prose]
  cases block.select Node.isProse with
  | nil => exact .refl []
  | cons leaf rest =>
      rw [proseAfter_cons, placedIn, List.flatMap_cons]
      exact ((prose_after_perm leaf rest).append_left _).trans (List.perm_append_comm_assoc _ _ _)

theorem holdsAt_of_prose {block : Node} (member : entry ∈ prose block)
    (some_char : isBlank entry.char = false) :
    HoldsAt block entry.offset := by
  rcases List.mem_append.mp ((prose_perm block).mem_iff.mp member) with space | own
  · obtain ⟨gap, -, rfl⟩ := List.mem_map.mp space
    have white : isBlank ' ' = false := some_char
    cases white
  · obtain ⟨leaf, selected, stands⟩ := List.mem_flatMap.mp own
    obtain ⟨place, char, same⟩ := mem_place.mp stands
    exact ⟨leaf, selected, place, entry.char, char, some_char, same⟩

theorem prose_of_holdsAt {block : Node} (holds : HoldsAt block offset) :
    ∃ entry ∈ prose block, isBlank entry.char = false ∧ entry.offset = offset := by
  obtain ⟨leaf, selected, place, c, char, some_char, rfl⟩ := holds
  refine ⟨⟨c, leaf.span.start + place⟩, (prose_perm block).mem_iff.mpr (List.mem_append_right _ ?_),
    some_char, rfl⟩
  exact List.mem_flatMap.mpr ⟨leaf, selected, mem_place.mpr ⟨place, char, rfl⟩⟩

theorem offsets_placedIn (leaves : List Node) : (placedIn leaves).map (·.offset) =
    leaves.flatMap fun leaf => List.range' leaf.span.start leaf.raw.length := by
  rw [placedIn, List.map_flatMap]
  exact List.flatMap_congr fun leaf _ => offsets_place leaf.span.start leaf.raw

theorem countP_prose (block : Node) (covers : Nat → Bool) : (prose block).countP (covers ·.offset) =
    (proseOffsets block).countP covers + (gaps block).countP (covers ·.1) := by
  have placed : (placedIn (block.select Node.isProse)).countP (covers ·.offset) =
      (proseOffsets block).countP covers := by
    rw [proseOffsets, ← offsets_placedIn, List.countP_map]
    rfl
  have spaces : (spacesIn (block.select Node.isProse)).countP (covers ·.offset) =
      (gaps block).countP (covers ·.1) := by
    rw [spacesIn, List.countP_map]
    rfl
  rw [(prose_perm block).countP_eq, List.countP_append, placed, spaces, Nat.add_comm]

/-! ## Gaps -/

theorem parts_of_gap (member : gap ∈ gapsBetween leaves) : ∃ before earlier later after,
    leaves = before ++ earlier :: later :: after ∧ gap = (earlier.span.stop, later.span.start) := by
  induction leaves with
  | nil => cases member
  | cons earlier rest induction =>
      cases rest with
      | nil => cases member
      | cons later after =>
          rw [gapsBetween] at member
          rcases List.mem_append.mp member with own | further
          · split at own
            · cases own
            · exact ⟨[], earlier, later, after, rfl, List.mem_singleton.mp own⟩
          · obtain ⟨before, first, second, others, parts, same⟩ := induction further
            exact ⟨earlier :: before, first, second, others, by rw [parts, List.cons_append], same⟩

theorem gap_apart
    (in_turn : leaves.Pairwise fun earlier later => earlier.span.stop ≤ later.span.start)
    (member : gap ∈ gapsBetween leaves) :
    gap.1 ≤ gap.2 ∧ ∀ leaf ∈ leaves, leaf.span.stop ≤ gap.1 ∨ gap.2 ≤ leaf.span.start := by
  obtain ⟨before, earlier, later, after, rfl, rfl⟩ := parts_of_gap member
  obtain ⟨-, pair, before_pair⟩ := List.pairwise_append.mp in_turn
  obtain ⟨earlier_first, rest⟩ := List.pairwise_cons.mp pair
  refine ⟨earlier_first later List.mem_cons_self, fun leaf among => ?_⟩
  simp only [List.mem_append, List.mem_cons] at among
  rcases among with front | rfl | rfl | back
  · have ends := before_pair leaf front earlier List.mem_cons_self
    exact .inl (Nat.le_trans ends earlier.span.ordered)
  · exact .inl (Nat.le_refl _)
  · exact .inr (Nat.le_refl _)
  · have starts := (List.pairwise_cons.mp rest).1 leaf back
    exact .inr (Nat.le_trans later.span.ordered starts)

end Leaves

/-! ## The sentences of a block -/

section Block

variable {text : Text} {block : Node} {sentence : Sentence}

theorem edges_hold (member : sentence ∈ sentences block) :
    HoldsAt block sentence.first ∧ HoldsAt block sentence.last := by
  rw [sentences_eq] at member
  obtain ⟨front, kept, back, parts, made, opens, closes⟩ := parts_of_sentence member
  obtain ⟨first, last, head, final, rfl⟩ := Sentence.of_eq_some.mp made
  have among : ∀ entry ∈ kept, entry ∈ prose block := by
    intro entry own
    rw [parts]
    exact List.mem_append_left back (List.mem_append_right front own)
  exact ⟨holdsAt_of_prose (among first (List.mem_of_head? head)) (opens first head),
    holdsAt_of_prose (among last (List.mem_of_getLast? final)) (closes last final)⟩

theorem covered_by_one (lies : block.LiesIn text) {offset : Nat} (holds : HoldsAt block offset) :
    ∃! sentence, sentence ∈ sentences block ∧ sentence.covers offset = true := by
  have rising := (prose_spread lies).rising
  obtain ⟨entry, member, some_char, rfl⟩ := prose_of_holdsAt holds
  obtain ⟨sentence, known, covers⟩ := exists_covers rising member some_char
  refine ⟨sentence, ⟨known, covers⟩, ?_⟩
  rintro other ⟨other_known, other_covers⟩
  have in_turn : (sentences block).Pairwise fun earlier later => earlier.range.stop ≤
      later.range.start := by
    refine (sentences_in_turn rising).imp_of_mem ?_
    intro earlier later earlier_known _ behind
    have ordered := (sentences_lie lies earlier earlier_known).ordered
    change earlier.first + (earlier.last + 1 - earlier.first) ≤ later.first
    omega
  exact Span.covered_once in_turn other_known known (Sentence.range_covers.mpr other_covers)
    (Sentence.range_covers.mpr covers)

theorem gap_inside_iff (lies : block.LiesIn text) (member : sentence ∈ sentences block) :
    ∀ gap ∈ gaps block, sentence.covers gap.1 = true ↔
      sentence.first ≤ gap.1 ∧ gap.2 ≤ sentence.last := by
  intro gap between
  obtain ⟨-, leaf, selected, place, c, char, -, last⟩ := edges_hold member
  have inside : place < leaf.raw.length := (List.getElem?_eq_some_iff.mp char).1
  have stop :=
    ((lies.below leaf (List.mem_filter.mp selected).1).prose (List.mem_filter.mp selected).2).2.2
  obtain ⟨ordered, apart⟩ := gap_apart lies.prose_in_turn between
  have beside := apart leaf selected
  rw [Sentence.covers_iff]
  omega

theorem length_eq (lies : block.LiesIn text) (member : sentence ∈ sentences block) :
    sentence.length =
      (proseOffsets block).countP sentence.covers +
      (gaps block).countP fun gap => decide (sentence.first ≤ gap.1) &&
        decide (gap.2 ≤ sentence.last) := by
  have counted := length_of_sentence (prose_spread lies).rising member
  have inside : (gaps block).countP (sentence.covers ·.1) =
      (gaps block).countP fun gap => decide (sentence.first ≤ gap.1) &&
        decide (gap.2 ≤ sentence.last) := by
    apply List.countP_congr
    intro gap between
    rw [gap_inside_iff lies member gap between, Bool.and_eq_true, decide_eq_true_eq,
      decide_eq_true_eq]
  rw [counted, countP_prose, inside]

/-- What is reported of a sentence that is longer than the maximum. -/
def report (maximum : Int) (context : RuleContext) (sentence : Sentence) : Finding :=
  context.report sentence.range
    ("Sentence is " ++ toString sentence.length ++ " characters long (maximum " ++
      toString maximum ++ ").") none

def tooLong (maximum : Int) (sentences : List Sentence) : List Sentence :=
  sentences.filter fun sentence => decide (maximum < sentence.length)

theorem findIn_eq (lies : block.LiesIn text) (maximum : Int) (context : RuleContext) :
    findIn maximum context block =
      .ok ((tooLong maximum (sentences block)).map (report maximum context)) := by
  have each : ∀ sentence ∈ sentences block,
      (do return (← sentence.span, sentence.length) : Except Fault (Span × Nat)) =
        .ok (sentence.range, sentence.length) := by
    intro sentence member
    have ordered := (sentences_lie lies sentence member).ordered
    obtain ⟨span, spans, start, stop⟩ := Sentence.span_of_ordered ordered
    have same : span = sentence.range := by
      obtain ⟨low, high, _⟩ := span
      change low = sentence.first at start
      change high = sentence.last + 1 at stop
      simp only [Sentence.range, Span.ofLength, Span.mk.injEq]
      exact ⟨start, by omega⟩
    rw [spans, same]
    rfl
  rw [findIn, mapM_eq_map each]
  change Except.ok _ = _
  rw [List.filter_map, List.map_map]
  rfl

end Block

/-! ## The sentences of a document -/

section Document

variable {format : Format} {text : Text} {tree : Node}

def blocksOf (tree : Node) : List Node := tree.select (Node.isBranch BranchKind.holdsSentences)

theorem block_lies (builtIn : format.IsBuiltIn) (parsed : format.parse text = .ok (.proper tree)) :
    ∀ block ∈ blocksOf tree, block.LiesIn text := by
  have read : Document.IsRead ⟨"", text, tree, ""⟩ := builtIn.reads "" "" parsed
  exact fun block member => read.select_lies (fun _ _ => rfl) member

theorem document_sentences_in_turn (builtIn : format.IsBuiltIn)
    (parsed : format.parse text = .ok (.proper tree)) :
    ((blocksOf tree).flatMap sentences).Pairwise fun earlier later => earlier.last <
      later.first := by
  have lie := block_lies builtIn parsed
  rw [List.pairwise_flatMap]
  refine ⟨fun block member => sentences_in_turn (prose_spread (lie block member)).rising, ?_⟩
  refine (builtIn.sentence_blocks_in_turn parsed).imp_of_mem ?_
  intro block other member other_member in_turn sentence known later later_known
  have inside := sentences_lie (lie block member) sentence known
  have later_inside := sentences_lie (lie other other_member) later later_known
  exact Nat.lt_of_lt_of_le inside.below_high (Nat.le_trans in_turn later_inside.from_low)

theorem find_eq (builtIn : format.IsBuiltIn) (parsed : format.parse text = .ok (.proper tree))
    (maximum : Int) (context : RuleContext) (id kind : String) :
    find maximum context ⟨id, text, tree, kind⟩ =
      .ok ((tooLong maximum ((blocksOf tree).flatMap sentences)).map (report maximum context)) := by
  have lie := block_lies builtIn parsed
  have mapped : (blocksOf tree).mapM (findIn maximum context) =
      .ok ((blocksOf tree).map fun block =>
        (tooLong maximum (sentences block)).map (report maximum context)) :=
    mapM_eq_map fun block member => findIn_eq (lie block member) maximum context
  change (do return (← (blocksOf tree).mapM (findIn maximum context)).flatten) = _
  rw [mapped]
  change Except.ok _ = _
  rw [tooLong, List.filter_flatMap, List.map_flatMap, List.flatMap_def]
  rfl

/-- In the tree of every text that a built-in format reads, the sentences of a block lie in the
block, one behind the other. Each code point of its prose that is not white space lies in exactly
one of them, and each begins and ends with such a code point. What a sentence counts is the code
points of prose in its range and one for each gap in it. No block is inside another and the
sentences of them all come one behind the other, and those longer than the maximum are reported and
nothing else. -/
theorem sentences_hold_prose_once (builtIn : format.IsBuiltIn)
    (parsed : format.parse text = .ok (.proper tree)) :
    let blocks := tree.select (Node.isBranch BranchKind.holdsSentences)
    (∀ block ∈ blocks,
      (∀ sentence ∈ sentences block, block.span.start ≤ sentence.first ∧
        sentence.first ≤ sentence.last ∧
        sentence.last < block.span.stop) ∧
      ((sentences block).Pairwise fun earlier later => earlier.last < later.first) ∧
      (∀ offset, HoldsAt block offset →
        ∃! sentence, sentence ∈ sentences block ∧ sentence.covers offset = true) ∧
      (∀ sentence ∈ sentences block, HoldsAt block sentence.first ∧ HoldsAt block sentence.last) ∧
      (∀ sentence ∈ sentences block, sentence.length = (proseOffsets block).countP sentence.covers +
        (gaps block).countP fun gap => decide (sentence.first ≤ gap.1) &&
          decide (gap.2 ≤ sentence.last)) ∧
      block.select (Node.isBranch BranchKind.holdsSentences) = [block]) ∧
    ((blocks.flatMap sentences).Pairwise fun earlier later => earlier.last < later.first) ∧
    ∀ options maximum, readMaximum options = .ok maximum →
      ∃ check, rule.prepare options = .ok check ∧
      ∀ context id kind, check.evaluate context ⟨id, text, tree, kind⟩ =
        .ok (((blocks.flatMap sentences).filter fun sentence =>
          decide (maximum < sentence.length)).map fun sentence =>
          .proper (context.report sentence.range
            ("Sentence is " ++ toString sentence.length ++ " characters long (maximum " ++
              toString maximum ++ ").")
            none)) := by
  intro blocks
  have lie := block_lies builtIn parsed
  refine ⟨?_, document_sentences_in_turn builtIn parsed, ?_⟩
  · intro block member
    have lies := lie block member
    have unnested :=
      Node.none_nested (builtIn.sentence_blocks_in_turn parsed) fun node selected =>
        (lie node selected).stands
    refine ⟨?_, sentences_in_turn (prose_spread lies).rising,
      fun offset holds => covered_by_one lies holds, fun sentence known => edges_hold known,
      fun sentence known => length_eq lies known, unnested block member⟩
    intro sentence known
    have inside := sentences_lie lies sentence known
    exact ⟨inside.from_low, inside.ordered, inside.below_high⟩
  · intro options maximum known
    refine ⟨_, Options.prepare_of_read known ruleId _, ?_⟩
    intro context id kind
    change (find maximum context ⟨id, text, tree, kind⟩).map
      (fun found => found.map Supplied.proper) = _
    rw [find_eq builtIn parsed]
    change Except.ok (List.map _ (List.map _ _)) = _
    rw [List.map_map]
    rfl

/-- Of two sentences in a paragraph the second goes over to the next line. It counts nine code
points of prose and one for the terminator and the white space behind it, and is reported where
seven are allowed. -/
theorem gap_between_lines_counts_once :
    let text : Text :=
      ['O', 'n', 'e', '.', ' ', 'T', 'w', 'o', '\n', ' ', 't', 'h', 'r', 'e', 'e', '.']
    let second : Sentence := ⟨5, 15, 10⟩
    ∃ tree block, Format.plainText.parse text = .ok (.proper tree) ∧
      block ∈ tree.select (Node.isBranch BranchKind.holdsSentences) ∧
      sentences block = [⟨0, 3, 4⟩, second] ∧
      second.length = (proseOffsets block).countP second.covers + 1 ∧
      (∃! sentence, sentence ∈ sentences block ∧ sentence.covers 10 = true) ∧
      ∃ check, rule.prepare (.record [("max", .int 7)]) = .ok check ∧ ∀ context id kind,
        check.evaluate context ⟨id, text, tree, kind⟩ =
          .ok [.proper (context.report
            (Span.ofLength 5 11) "Sentence is 10 characters long (maximum 7)." none)] := by
  intro text second
  have read : ∃ tree block, Format.plainText.parse text = .ok (.proper tree) ∧
      tree.select (Node.isBranch BranchKind.holdsSentences) = [block] ∧
      sentences block = [⟨0, 3, 4⟩, second] ∧
      gaps block = [(8, 10)] ∧ block.select Node.isProse =
        [.leaf .prose 0 ['O', 'n', 'e', '.', ' ', 'T', 'w', 'o'],
        .leaf .prose 10 ['t', 'h', 'r', 'e', 'e', '.']] := ⟨_, _,
        by cbv, by cbv, by cbv, by cbv, by cbv⟩
  obtain ⟨tree, block, parsed, blocks, known, gap, prose⟩ := read
  obtain ⟨each, -, reported⟩ := sentences_hold_prose_once .plainText parsed
  have selected : block ∈ tree.select (Node.isBranch BranchKind.holdsSentences) :=
    blocks ▸ List.mem_singleton_self block
  obtain ⟨-, -, once, -, counted, -⟩ := each block selected
  obtain ⟨check, prepared, evaluated⟩ := reported (.record [("max", .int 7)]) 7 (by cbv)
  refine ⟨tree, block, parsed, selected, known, ?_, ?_, check, prepared, ?_⟩
  · have length := counted second (known ▸ List.mem_cons_of_mem _ (List.mem_singleton_self second))
    rw [gap] at length
    exact length
  · have leaf : Node.leaf .prose 10 ['t', 'h', 'r', 'e', 'e', '.'] ∈ block.select Node.isProse := by
      rw [prose]
      exact List.mem_cons_of_mem _ (List.mem_singleton_self _)
    exact once 10 ⟨_, leaf, 0, 't', rfl, by decide, rfl⟩
  · intro context id kind
    have told :
        "Sentence is " ++ toString second.length ++ " characters long (maximum " ++
          toString (7 : Int) ++ ")." =
        "Sentence is 10 characters long (maximum 7)." := by decide
    rw [evaluated, blocks, List.flatMap_singleton, known, ← told]
    rfl

end Document

end ProseLinter.SentenceLength
