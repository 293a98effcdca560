import ProseLinter.Proofs.Rule.Emoji
import ProseLinter.Proofs.Text.Outside

/-!
# The emoji of a text

An emoji is a base with what belongs to it: modifiers, and further bases that are joined to it. The
emoji of a text are found from left to right, each as long as it can be, and the next one is looked
for behind it. So every base lies in exactly one of them. As each is as long as it can be, nothing
behind an emoji belongs to it, and this stays so if emoji further on are taken out of the text: what
is left of the text has no emoji but those that were left in it.
-/

namespace ProseLinter.Emoji

/-- What may belong to a base: modifiers, and further bases with a joiner before each. -/
inductive Tail : Text → Prop
  | nil : Tail []
  | modifier {c : Char} {rest : Text} (modifies : isModifier c = true) (tail : Tail rest) :
      Tail (c :: rest)
  | joined {base : Char} {rest : Text} (bases : isBase base = true) (tail : Tail rest) :
      Tail (joiner :: base :: rest)

/-- The pattern of an emoji: a base and what belongs to it. -/
inductive IsEmoji : Text → Prop
  | intro {base : Char} {tail : Text} (bases : isBase base = true) (belongs : Tail tail) :
    IsEmoji (base :: tail)

/-- The matches of the pattern in a text that starts at an offset: from left to right, where no
match begins a code point is passed over, and where one begins the longest is taken and the scan
goes on behind it. -/
inductive Scan : Nat → Text → List Excerpt → Prop
  | finish (offset : Nat) : Scan offset [] []
  | pass {offset : Nat} {c : Char} {rest : Text} {found : List Excerpt}
      (nothing : ∀ part, IsEmoji part → ¬ part <+: c :: rest)
      (scan : Scan (offset + 1) rest found) :
      Scan offset (c :: rest) found
  | take {offset : Nat} {part rest : Text} {found : List Excerpt} (emoji : IsEmoji part)
      (longest : ∀ other, IsEmoji other → other <+: part ++ rest → other.length ≤ part.length)
      (scan : Scan (offset + part.length) rest found) :
      Scan offset (part ++ rest) (⟨offset, part⟩ :: found)

/-- A text without the emoji that are not to be left in it. -/
def weeded (keeps : Text → Bool) : Text → Text
  | [] => []
  | c :: rest =>
      if isBase c then
        let emoji := c :: rest.take (tailLength rest)
        (if keeps emoji then emoji else []) ++ weeded keeps (rest.drop (tailLength rest))
      else c :: weeded keeps rest
termination_by text => text.length
decreasing_by
  · simp only [List.length_drop, List.length_cons]
    omega
  · simp

/-- The spans of the emoji of a text that are not to be left in it. -/
def weeds (keeps : Text → Bool) (offset : Nat) (text : Text) : List Span :=
  ((occurrences offset text).filter fun emoji => !keeps emoji.text).map (·.span)

variable {c : Char} {text rest tail part : Text} {offset : Nat}

/-! ## What belongs to a base -/

theorem joiner_no_modifier : isModifier joiner = false := by decide

theorem joiner_no_base : isBase joiner = false := by decide

theorem tailLength_modifier (modifies : isModifier c = true) (rest : Text) :
    tailLength (c :: rest) = 1 + tailLength rest := by
  cases rest with
  | nil => simp [tailLength, modifies]
  | cons next rest => rw [tailLength, if_pos modifies]

theorem tailLength_joined {base : Char} (bases : isBase base = true) (rest : Text) :
    tailLength (joiner :: base :: rest) = 2 + tailLength rest := by
  rw [tailLength, joiner_no_modifier, bases]
  rfl

theorem tailLength_other (other : isModifier c = false)
    (apart : c = joiner → ∀ next ∈ rest.head?, isBase next = false) :
    tailLength (c :: rest) = 0 := by
  cases rest with
  | nil => rw [tailLength, other]; rfl
  | cons next rest =>
      have not_joined : (c == joiner && isBase next) = false := by
        rw [Bool.and_eq_false_iff, beq_eq_false_iff_ne, or_iff_not_imp_left, not_not]
        exact fun joins => apart joins next rfl
      rw [tailLength, other, not_joined]
      rfl

theorem other_of_tailLength (nothing : tailLength (c :: rest) = 0) :
    isModifier c = false ∧ (c = joiner → ∀ next ∈ rest.head?, isBase next = false) := by
  have other : isModifier c = false := by
    cases modifies : isModifier c with
    | false => rfl
    | true =>
        rw [tailLength_modifier modifies] at nothing
        omega
  refine ⟨other, ?_⟩
  rintro rfl next head
  cases bases : isBase next with
  | false => rfl
  | true =>
      cases rest with
      | nil => cases head
      | cons first rest =>
          rw [List.head?_cons, Option.mem_some] at head
          subst head
          rw [tailLength_joined bases] at nothing
          omega

theorem tail_of_tailLength (text : Text) : Tail (text.take (tailLength text)) := by
  induction text using tailLength.induct with
  | case1 => exact .nil
  | case2 c modifies =>
      rw [tailLength, if_pos modifies]
      exact .modifier modifies .nil
  | case3 c other =>
      rw [tailLength, if_neg other]
      exact .nil
  | case4 c next rest modifies induction =>
      rw [tailLength, if_pos modifies, Nat.add_comm, List.take_succ_cons]
      exact .modifier modifies induction
  | case5 c next rest other joined induction =>
      obtain ⟨joins, bases⟩ := Bool.and_eq_true_iff.mp joined
      rw [tailLength, if_neg other, if_pos joined, Nat.add_comm, List.take_succ_cons,
        List.take_succ_cons, beq_iff_eq.mp joins]
      exact .joined bases induction
  | case6 c next rest other apart =>
      rw [tailLength, if_neg other, if_neg apart]
      exact .nil

theorem Tail.tailLength_append (belongs : Tail tail) (rest : Text) :
    tailLength (tail ++ rest) = tail.length + tailLength rest := by
  induction belongs with
  | nil => rw [List.nil_append, List.length_nil, Nat.zero_add]
  | modifier modifies belongs induction =>
      rw [List.cons_append, tailLength_modifier modifies, induction, List.length_cons]
      omega
  | joined bases belongs induction =>
      rw [List.cons_append, List.cons_append, tailLength_joined bases, induction, List.length_cons,
        List.length_cons]
      omega

theorem tailLength_drop (text : Text) : tailLength (text.drop (tailLength text)) = 0 := by
  have whole := (tail_of_tailLength text).tailLength_append (text.drop (tailLength text))
  rw [List.take_append_drop, List.length_take_of_le (tail_length_le text)] at whole
  omega

/-! ## The scan -/

theorem emoji_of_base (bases : isBase c = true) (rest : Text) :
    IsEmoji (c :: rest.take (tailLength rest)) :=
  .intro bases (tail_of_tailLength rest)

theorem emoji_length_le (emoji : IsEmoji part) (begins : part <+: c :: rest) :
    isBase c = true ∧ part.length ≤ 1 + tailLength rest := by
  cases emoji with
  | @intro base tail bases belongs =>
      obtain ⟨same, after, whole⟩ := List.cons_prefix_cons.mp begins
      subst same
      have longer := belongs.tailLength_append after
      rw [whole] at longer
      refine ⟨bases, ?_⟩
      rw [List.length_cons]
      omega

theorem occurrences_scan (offset : Nat) (text : Text) :
    Scan offset text (occurrences offset text) := by
  induction offset, text using occurrences.induct with
  | case1 offset =>
      rw [occurrences]
      exact .finish offset
  | case2 offset c rest base count induction =>
      have cut : c :: rest = (c :: rest.take count) ++ rest.drop count := by
        rw [List.cons_append, List.take_append_drop]
      have length : (c :: rest.take count).length = 1 + count := by
        rw [List.length_cons, List.length_take_of_le (tail_length_le rest), Nat.add_comm]
      have behind : offset + 1 + count = offset + (c :: rest.take count).length := by omega
      rw [occurrences, if_pos base, cut]
      refine .take (emoji_of_base base rest) ?_ (behind ▸ induction)
      intro other emoji begins
      rw [← cut] at begins
      rw [length]
      exact (emoji_length_le emoji begins).2
  | case3 offset c rest other induction =>
      rw [occurrences, if_neg other]
      refine .pass ?_ induction
      intro part emoji begins
      exact other (emoji_length_le emoji begins).1

theorem Scan.eq_occurrences {found : List Excerpt} (scan : Scan offset text found) :
    found = occurrences offset text := by
  induction scan with
  | finish offset => rw [occurrences]
  | @pass offset c rest found nothing scan induction =>
      have other : ¬ isBase c = true := fun bases => nothing _ (emoji_of_base bases rest)
        (List.cons_prefix_cons.mpr ⟨rfl, List.take_prefix _ rest⟩)
      rw [occurrences, if_neg other, induction]
  | @take offset part rest found emoji longest scan induction =>
      cases emoji with
      | @intro base tail bases belongs =>
          -- What is taken is the longest match, so nothing behind it belongs to the base.
          have within := longest _ (emoji_of_base bases (tail ++ rest))
            (List.cons_prefix_cons.mpr ⟨rfl, List.take_prefix _ _⟩)
          rw [List.length_cons, List.length_cons,
            List.length_take_of_le (tail_length_le _)] at within
          have ends : tailLength (tail ++ rest) = tail.length := by
            have goes_on := belongs.tailLength_append rest
            omega
          rw [List.cons_append, occurrences, if_pos bases]
          simp only [ends, List.take_left, List.drop_left]
          rw [induction, List.length_cons, Nat.add_assoc, Nat.add_comm 1]

theorem occurrences_bounds (offset : Nat) (text : Text) :
    ∀ emoji ∈ occurrences offset text,
      offset ≤ emoji.span.start ∧ emoji.span.start < emoji.span.stop ∧
        emoji.span.stop ≤ offset + text.length := by
  induction offset, text using occurrences.induct with
  | case1 offset =>
      rw [occurrences]
      exact fun emoji member => absurd member List.not_mem_nil
  | case2 offset c rest base count induction =>
      have fits : count ≤ rest.length := tail_length_le rest
      have length : (c :: rest.take count).length = count + 1 := by
        rw [List.length_cons, List.length_take_of_le fits]
      rw [occurrences, if_pos base]
      refine List.forall_mem_cons.mpr ⟨?_, ?_⟩
      · change offset ≤ offset ∧ offset < offset + (c :: rest.take count).length ∧
          offset + (c :: rest.take count).length ≤ offset + (c :: rest).length
        rw [length, List.length_cons]
        omega
      · intro emoji member
        have bounds := induction emoji member
        rw [List.length_drop] at bounds
        rw [List.length_cons]
        omega
  | case3 offset c rest other induction =>
      rw [occurrences, if_neg other]
      intro emoji member
      have bounds := induction emoji member
      rw [List.length_cons]
      omega

theorem occurrences_in_turn (offset : Nat) (text : Text) :
    (occurrences offset text).Pairwise fun earlier later => earlier.span.stop ≤
      later.span.start := by
  induction offset, text using occurrences.induct with
  | case1 offset =>
      rw [occurrences]
      exact .nil
  | case2 offset c rest base count induction =>
      rw [occurrences, if_pos base]
      refine .cons ?_ induction
      intro later member
      have bounds := (occurrences_bounds _ _ later member).1
      change offset + (c :: rest.take count).length ≤ later.span.start
      rw [List.length_cons, List.length_take_of_le (tail_length_le rest)]
      omega
  | case3 offset c rest other induction =>
      rw [occurrences, if_neg other]
      exact induction

theorem base_covered (offset : Nat) (text : Text) :
    ∀ place c, text[place]? = some c → isBase c = true →
      ∃ emoji ∈ occurrences offset text, emoji.span.covers (offset + place) = true := by
  induction offset, text using occurrences.induct with
  | case1 offset =>
      intro place c there
      cases there
  | case2 offset first rest base count induction =>
      intro place c there bases
      have fits : count ≤ rest.length := tail_length_le rest
      rw [occurrences, if_pos base]
      by_cases inside : place ≤ count
      · refine ⟨_, List.mem_cons_self, ?_⟩
        rw [Span.covers_iff]
        change offset ≤ offset + place ∧ offset + place < offset + (first :: rest.take count).length
        rw [List.length_cons, List.length_take_of_le fits]
        omega
      · obtain ⟨further, same⟩ := Nat.exists_eq_add_of_lt (Nat.lt_of_not_le inside)
        subst same
        have later : (rest.drop count)[further]? = some c := by
          rw [List.getElem?_drop]
          exact there
        obtain ⟨emoji, member, covered⟩ := induction further c later bases
        refine ⟨emoji, List.mem_cons_of_mem _ member, ?_⟩
        rw [show offset + (count + further + 1) = offset + 1 + count + further by omega]
        exact covered
  | case3 offset first rest other induction =>
      intro place c there bases
      rw [occurrences, if_neg other]
      cases place with
      | zero =>
          rw [List.getElem?_cons_zero, Option.some.injEq] at there
          rw [there] at other
          exact absurd bases other
      | succ further =>
          rw [List.getElem?_cons_succ] at there
          obtain ⟨emoji, member, covered⟩ := induction further c there bases
          refine ⟨emoji, member, ?_⟩
          rw [show offset + (further + 1) = offset + 1 + further by omega]
          exact covered

/-! ## Emoji that are taken out -/

section

variable (keeps : Text → Bool)

theorem weeded_emoji (bases : isBase c = true) (rest : Text) :
    weeded keeps (c :: rest) =
      (if keeps (c :: rest.take (tailLength rest)) then c :: rest.take (tailLength rest) else []) ++
      weeded keeps (rest.drop (tailLength rest)) := by
  rw [weeded, if_pos bases]

theorem weeded_other (other : ¬ isBase c = true) (rest : Text) :
    weeded keeps (c :: rest) = c :: weeded keeps rest := by
  rw [weeded, if_neg other]

/-- Nothing of what is left can belong to a base before the text, if nothing of the text could. -/
theorem tailLength_weeded (nothing : tailLength text = 0) : tailLength (weeded keeps text) = 0 := by
  induction text using weeded.induct with
  | case1 =>
      rw [weeded]
      exact nothing
  | case2 c rest bases induction =>
      obtain ⟨other, -⟩ := other_of_tailLength nothing
      rw [weeded_emoji keeps bases]
      split
      · apply tailLength_other other
        rintro rfl
        rw [joiner_no_base] at bases
        cases bases
      · exact induction (tailLength_drop rest)
  | case3 c rest other induction =>
      obtain ⟨no_modifier, apart⟩ := other_of_tailLength nothing
      rw [weeded_other keeps other]
      apply tailLength_other no_modifier
      intro joins next head
      cases rest with
      | nil =>
          rw [weeded] at head
          cases head
      | cons first rest =>
          -- Behind a joiner the text goes on with no base, and a code point that is no base stays.
          have no_base : isBase first = false := apart joins first rfl
          rw [weeded_other keeps (by simp [no_base]), List.head?_cons, Option.mem_some] at head
          rw [← head]
          exact no_base

theorem occurrences_weeded (offset : Nat) (text : Text) :
    ∀ emoji ∈ occurrences offset (weeded keeps text), keeps emoji.text = true := by
  induction text using weeded.induct generalizing offset with
  | case1 =>
      rw [weeded, occurrences]
      exact fun emoji member => absurd member List.not_mem_nil
  | case2 c rest bases induction =>
      rw [weeded_emoji keeps bases]
      split
      next kept =>
        have fits : tailLength rest ≤ rest.length := tail_length_le rest
        have length : (rest.take (tailLength rest)).length = tailLength rest :=
          List.length_take_of_le fits
        have ends :
            tailLength (rest.take (tailLength rest) ++ weeded keeps (rest.drop (tailLength rest))) =
            (rest.take (tailLength rest)).length := by
          rw [(tail_of_tailLength rest).tailLength_append,
            tailLength_weeded keeps (tailLength_drop rest), Nat.add_zero]
        rw [List.cons_append, occurrences, if_pos bases]
        simp only [ends, List.take_left, List.drop_left]
        exact List.forall_mem_cons.mpr ⟨kept, induction _⟩
      next =>
        rw [List.nil_append]
        exact induction offset
  | case3 c rest other induction =>
      rw [weeded_other keeps other, occurrences, if_neg other]
      exact induction (offset + 1)

theorem weeds_behind (offset : Nat) (text : Text) :
    ∀ span ∈ weeds keeps offset text, offset ≤ span.start := by
  intro span member
  obtain ⟨emoji, found, same⟩ := List.mem_map.mp member
  rw [← same]
  exact (occurrences_bounds offset text emoji (List.mem_filter.mp found).1).1

theorem weeds_emoji (bases : isBase c = true) (offset : Nat) (rest : Text) :
    weeds keeps offset (c :: rest) =
      (if keeps (c :: rest.take (tailLength rest)) then []
        else [Span.ofLength offset (1 + tailLength rest)]) ++
        weeds keeps (offset + 1 + tailLength rest) (rest.drop (tailLength rest)) := by
  have span : (Excerpt.mk offset (c :: rest.take (tailLength rest))).span =
      Span.ofLength offset (1 + tailLength rest) := by
    rw [Excerpt.span, List.length_cons, List.length_take_of_le (tail_length_le rest), Nat.add_comm]
  rw [weeds, occurrences, if_pos bases, List.filter_cons]
  cases keeps (c :: rest.take (tailLength rest)) with
  | true => rfl
  | false => exact congrArg (· :: _) span

theorem weeds_other (other : ¬ isBase c = true) (offset : Nat) (rest : Text) :
    weeds keeps offset (c :: rest) = weeds keeps (offset + 1) rest := by
  rw [weeds, occurrences, if_neg other, weeds]

theorem outside_weeds (offset : Nat) (text : Text) :
    Text.outside (weeds keeps offset text) offset text = weeded keeps text := by
  induction text using weeded.induct generalizing offset with
  | case1 =>
      rw [weeded]
      rfl
  | case2 c rest bases induction =>
      let part : Text := c :: rest.take (tailLength rest)
      have cut : c :: rest = part ++ rest.drop (tailLength rest) := by
        rw [List.cons_append, List.take_append_drop]
      have length : part.length = 1 + tailLength rest := by
        rw [List.length_cons, List.length_take_of_le (tail_length_le rest), Nat.add_comm]
      have ends : offset + part.length = offset + 1 + tailLength rest := by omega
      rw [weeds_emoji keeps bases, weeded_emoji keeps bases, cut, Text.outside_append, ends]
      split
      · have behind :=
          weeds_behind keeps (offset + 1 + tailLength rest) (rest.drop (tailLength rest))
        rw [List.nil_append, Text.outside_of_behind (ends ▸ behind), induction]
      · have covered : Text.outside ([Span.ofLength offset (1 + tailLength rest)] ++
            weeds keeps (offset + 1 + tailLength rest) (rest.drop (tailLength rest))) offset
              part = [] :=
          Text.outside_of_covered List.mem_cons_self (Nat.le_refl offset) (by rw [length]; rfl)
        have passed : (Span.ofLength offset (1 + tailLength rest)).stop ≤
            offset + 1 + tailLength rest :=
          Nat.le_of_eq (Nat.add_assoc _ _ _).symm
        rw [covered, List.singleton_append, Text.outside_of_passed passed, induction]
  | case3 c rest other induction =>
      have first : Text.outside (weeds keeps (offset + 1) rest) offset [c] = [c] :=
        Text.outside_of_behind (weeds_behind keeps (offset + 1) rest)
      rw [weeds_other keeps other, weeded_other keeps other, ← List.singleton_append,
        Text.outside_append, first, List.length_singleton, induction, List.singleton_append]

theorem weeded_sublist (text : Text) : (weeded keeps text).Sublist text := by
  rw [← outside_weeds keeps 0 text]
  exact Text.outside_sublist _ 0 text

end

end ProseLinter.Emoji
