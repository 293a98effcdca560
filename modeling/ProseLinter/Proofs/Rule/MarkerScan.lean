import Mathlib
import ProseLinter.PlainText
import ProseLinter.Proofs.Fix.Selection
import ProseLinter.Proofs.Rule.Marker

/-!
# The terms of a text

A term is found where it stands between two word boundaries: markers are looked for from left to
right, and where a term that fits is not taken itself, a marker that began before its end was. A
boundary has a word code point on one side alone. So of the terms that stand between white space
those that begin and end with word code points are found, and any other is looked for where it would
stand against a word.
-/

namespace ProseLinter

theorem isWordChar_of_isBlank {c : Char} (blank : isBlank c = true) : isWordChar c = false := by
  have listed : c.toNat ∈
      [9, 10, 11, 12, 13, 28, 29, 30, 31, 32, 0x85, 0xA0, 0x1680, 0x2000, 0x2001, 0x2002, 0x2003,
        0x2004, 0x2005, 0x2006, 0x2007, 0x2008, 0x2009, 0x200A, 0x2028, 0x2029, 0x202F, 0x205F,
        0x3000] := by
    simp only [isBlank, Bool.or_eq_true, Bool.and_eq_true, decide_eq_true_eq, beq_iff_eq] at blank
    simp only [List.mem_cons, List.not_mem_nil, or_false]
    omega
  have none_word : ∀ number ∈
      [9, 10, 11, 12, 13, 28, 29, 30, 31, 32, 0x85, 0xA0, 0x1680, 0x2000, 0x2001, 0x2002, 0x2003,
      0x2004, 0x2005, 0x2006, 0x2007, 0x2008, 0x2009, 0x200A, 0x2028, 0x2029, 0x202F, 0x205F,
      0x3000], isWordChar (Char.ofNat number) = false := by decide +kernel
  have known := none_word c.toNat listed
  rwa [Char.ofNat_toNat] at known

namespace Marker

/-- That one of the terms stands in a text, behind `front` and before `back`, between two word
boundaries. The text itself stands behind the code point `before`. -/
structure Fits (terms : List Text) (before : Option Char) (text front term back : Text) : Prop where
  parts : text = front ++ term ++ back
  known : term ∈ terms
  opens : isWordBoundary (front.getLast?.or before) (term ++ back).head? = true
  closes : isWordBoundary term.getLast? back.head? = true

variable {terms : List Text} {before : Option Char}
  {text front term back rest matched after marker : Text} {c : Char} {offset skip : Nat}

theorem Fits.cons_iff : Fits terms before (c :: rest)
    (c :: front) term back ↔ Fits terms (some c) rest front term back := by
  have last : ((c :: front).getLast?.or before) = front.getLast?.or (some c) := by
    rw [List.getLast?_cons, Option.some_or]
    cases front.getLast? <;> rfl
  constructor
  · rintro ⟨parts, known, opens, closes⟩
    exact ⟨(List.cons.inj parts).2, known, last ▸ opens, closes⟩
  · rintro ⟨parts, known, opens, closes⟩
    exact ⟨congrArg (c :: ·) parts, known, last ▸ opens, closes⟩

/-! ## One place -/

theorem sameChar_false {a b : Char} : sameChar false a b = true ↔ a = b := beq_iff_eq

theorem term_there (term back : Text) : term? false term (term ++ back) = some (term, back) := by
  induction term with
  | nil => rfl
  | cons c term induction =>
      rw [List.cons_append, term?, if_pos (sameChar_false.mpr rfl), induction]
      rfl

theorem term_eq (found : term? false term text = some (matched, after)) : matched = term := by
  induction term, text using term?.induct false generalizing matched with
  | case1 text =>
      rw [term?, Option.some.injEq, Prod.mk.injEq] at found
      exact found.1.symm
  | case2 wanted term => cases found
  | case3 wanted term c rest same induction =>
      rw [term?, if_pos same, Option.map_eq_some_iff] at found
      obtain ⟨⟨shorter, behind⟩, later, parts⟩ := found
      rw [Prod.mk.injEq] at parts
      obtain ⟨longer, rfl⟩ := parts
      rw [← longer, induction later, sameChar_false.mp same]
  | case4 wanted term c rest other =>
      rw [term?, if_neg other] at found
      cases found

theorem marker_of_fits (known : term ∈ terms)
    (closes : isWordBoundary term.getLast? back.head? = true) :
    marker? false (term ++ back) terms ≠ none := by
  induction terms with
  | nil => cases known
  | cons first terms induction =>
      rw [marker?]
      rcases List.mem_cons.mp known with rfl | later
      · simp only [term_there, closes, if_true]
        split <;> exact Option.some_ne_none _
      · split
        · exact induction later
        · split
          · split <;> exact Option.some_ne_none _
          · exact induction later

theorem term_of_marker (found : marker? false text terms = some (marker, after)) :
    ∃ term ∈ terms, ∃ colon, (colon = [] ∨ colon = [':']) ∧ marker = term ++ colon ∧
    text = term ++ (colon ++ after) ∧
      isWordBoundary term.getLast? (colon ++ after).head? = true := by
  induction terms with
  | nil => cases found
  | cons first terms induction =>
      have later : marker? false text terms = some (marker, after) →
          ∃ term ∈ first :: terms, ∃ colon,
          (colon = [] ∨ colon = [':']) ∧ marker = term ++ colon ∧ text = term ++ (colon ++ after) ∧
            isWordBoundary term.getLast? (colon ++ after).head? = true := by
        intro found
        obtain ⟨term, known, others⟩ := induction found
        exact ⟨term, List.mem_cons_of_mem first known, others⟩
      rw [marker?] at found
      split at found
      · exact later found
      · rename_i matched behind fits
        have parts := term_parts fits
        have own := term_eq fits
        subst own
        split at found
        · rename_i closes
          split at found
          · rename_i rest
            cases found
            exact ⟨_, List.mem_cons_self, [':'], .inr rfl, rfl, parts.symm, closes⟩
          · cases found
            exact ⟨_, List.mem_cons_self, [], .inl rfl, (List.append_nil _).symm,
              parts.symm, closes⟩
        · exact later found

/-! ## The scan -/

theorem fits_overlapped (fits : Fits terms before text front term back) (some_text : term ≠ [])
    (passed : skip ≤ front.length) : ∃ marker ∈ occurrences false terms before offset skip text,
      (Span.ofLength (offset + front.length) term.length).overlaps marker.span = true := by
  induction text generalizing before front offset skip with
  | nil =>
      have parts := fits.parts
      rw [eq_comm, List.append_eq_nil_iff, List.append_eq_nil_iff] at parts
      exact absurd parts.1.2 some_text
  | cons c rest induction =>
      -- A term further on is found by what is looked for further on, if no marker reaches beyond
      -- its start.
      have further : ∀ ahead, front = c :: ahead → ∀ skip, skip ≤ ahead.length →
          ∃ marker ∈ occurrences false terms (some c) (offset + 1) skip rest,
            (Span.ofLength (offset + front.length) term.length).overlaps marker.span = true := by
        rintro ahead rfl skip passed
        have place : offset + (c :: ahead).length = offset + 1 + ahead.length := by
          rw [List.length_cons]
          omega
        rw [place]
        exact induction (Fits.cons_iff.mp fits) passed
      have front_cases : front = [] ∨ ∃ ahead, front = c :: ahead := by
        cases front with
        | nil => exact .inl rfl
        | cons first ahead =>
            obtain ⟨same, -⟩ := List.cons.inj fits.parts
            exact .inr ⟨ahead, by rw [same]⟩
      cases skip with
      | succ skip =>
          rcases front_cases with rfl | ⟨ahead, same⟩
          · cases passed
          · rw [same, List.length_cons] at passed
            rw [occurrences]
            exact further ahead same skip (Nat.le_of_succ_le_succ passed)
      | zero =>
          rw [occurrences]
          split
          · rename_i nothing
            rcases front_cases with rfl | ⟨ahead, same⟩
            · have parts : c :: rest = term ++ back := fits.parts
              have opens : isWordBoundary before (some c) = true := by
                have opens := fits.opens
                rwa [← parts] at opens
              rw [if_pos opens, parts] at nothing
              exact absurd nothing (marker_of_fits fits.known fits.closes)
            · exact further ahead same 0 (Nat.zero_le _)
          · rename_i marker after found
            -- The marker is the one that is looked for, reaches beyond the start of the term, or
            -- ends before it.
            have overlapped : front = [] ∨ front.length < marker.length →
                (Span.ofLength (offset + front.length) term.length).overlaps
                  (Excerpt.mk offset marker).span = true := by
              intro reaches
              refine (Span.overlaps_iff _ _).mpr ⟨offset + front.length, .inl rfl, ?_⟩
              rcases reaches with rfl | reaches
              · exact .inl rfl
              · exact .inr ⟨Nat.le_add_right offset front.length,
                  Nat.add_lt_add_left reaches offset⟩
            rcases front_cases with none_before | ⟨ahead, same⟩
            · exact ⟨_, List.mem_cons_self, overlapped (.inl none_before)⟩
            · rcases Nat.lt_or_ge front.length marker.length with reaches | ends
              · exact ⟨_, List.mem_cons_self, overlapped (.inr reaches)⟩
              · have passed : marker.length - 1 ≤ ahead.length := by
                  rw [same, List.length_cons] at ends
                  omega
                obtain ⟨other, member, overlaps⟩ := further ahead same (marker.length - 1) passed
                exact ⟨other, List.mem_cons_of_mem _ member, overlaps⟩

theorem occurrences_fit : ∀ marker ∈ occurrences false terms before offset skip text,
    ∃ front term colon back,
    (colon = [] ∨ colon = [':']) ∧ Fits terms before text front term (colon ++ back) ∧
      marker = ⟨offset + front.length, term ++ colon⟩ := by
  induction text generalizing before offset skip with
  | nil => exact fun marker member => absurd member List.not_mem_nil
  | cons c rest induction =>
      have later : ∀ skip, ∀ marker ∈ occurrences false terms (some c) (offset + 1) skip rest,
          ∃ front term colon back,
          (colon = [] ∨ colon = [':']) ∧ Fits terms before (c :: rest) front term (colon ++ back) ∧
            marker = ⟨offset + front.length, term ++ colon⟩ := by
        intro skip marker member
        obtain ⟨front, term, colon, back, one, fits, same⟩ := induction marker member
        refine ⟨c :: front, term, colon, back, one, Fits.cons_iff.mpr fits, ?_⟩
        rw [same, List.length_cons, Excerpt.mk.injEq]
        exact ⟨by omega, rfl⟩
      cases skip with
      | succ skip => exact later skip
      | zero =>
          rw [occurrences]
          split
          · exact later 0
          · rename_i marker after found
            refine List.forall_mem_cons.mpr ⟨?_, later _⟩
            split at found
            case isTrue opens =>
                obtain ⟨term, known, colon, one, same, parts, closes⟩ := term_of_marker found
                refine ⟨[], term, colon, after, one, ⟨parts, known, ?_, closes⟩, by rw [same]; rfl⟩
                rw [← parts]
                exact opens
            case isFalse => cases found

/-! ## The terms of a document -/

theorem mem_ordered {settings : Settings} (known : String.ofList term ∈ settings.terms) :
    term ∈ settings.ordered := by
  rw [Settings.ordered, List.mem_mergeSort]
  exact List.mem_map.mpr ⟨_, known, String.toList_ofList⟩

theorem of_mem_ordered {settings : Settings} (known : term ∈ settings.ordered) :
    String.ofList term ∈ settings.terms := by
  rw [Settings.ordered, List.mem_mergeSort] at known
  obtain ⟨own, member, same⟩ := List.mem_map.mp known
  rw [← same, String.ofList_toList]
  exact member

theorem fits_of_blank (parts : text = front ++ term ++ back) (known : term ∈ terms)
    (blank_before : front.getLast?.all isBlank = true) (blank_after : back.head?.all isBlank = true)
    (first_word : term.head?.any isWordChar = true)
    (last_word : term.getLast?.any isWordChar = true) :
    Fits terms none text front term back := by
  have no_word : ∀ {beside : Option Char}, beside.all isBlank = true →
      beside.any isWordChar = false := by
    intro beside blank
    cases beside with
    | none => rfl
    | some c => exact isWordChar_of_isBlank blank
  refine ⟨parts, known, ?_, ?_⟩
  · rw [isWordBoundary, Option.or_none, no_word blank_before]
    cases term with
    | nil => cases first_word
    | cons c term =>
        have word : isWordChar c = true := first_word
        rw [List.cons_append, List.head?_cons, Option.any_some, word]
        rfl
  · rw [isWordBoundary, no_word blank_after, last_word]
    rfl

/-- Every occurrence of a term between white space is overlapped by what is found, if the term
begins and ends with word code points. Nothing is found but terms between word boundaries, each with
the colon behind it: so no other term is found between white space, although the options may hold
any. -/
theorem terms_with_word_ends_are_found {options : Value} {settings : Settings}
    (read : Settings.read options = .ok settings) (exact_case : settings.ignoreCase = false)
    (context : RuleContext) (document : Document) :
    let found := find settings context document
    (∃ check, rule.prepare options = .ok check ∧
      check.evaluate context document = .ok (found.map .proper)) ∧
    (∀ leaf ∈ document.select Node.isProse, ∀ front term back : Text,
      leaf.raw = front ++ term ++ back →
      String.ofList term ∈ settings.terms → front.getLast?.all isBlank = true →
      back.head?.all isBlank = true →
      term.head?.any isWordChar = true → term.getLast?.any isWordChar = true →
      ∃ finding ∈ found, (Span.ofLength (leaf.span.start + front.length) term.length).overlaps
        finding.span = true) ∧
    ∀ finding ∈ found, ∃ leaf ∈ document.select Node.isProse, ∃ front term colon back : Text,
      leaf.raw = front ++ term ++ (colon ++ back) ∧ String.ofList term ∈ settings.terms ∧
      (colon = [] ∨ colon = [':']) ∧
      isWordBoundary front.getLast? (term ++ (colon ++ back)).head? = true ∧
      isWordBoundary term.getLast? (colon ++ back).head? = true ∧
      finding =
        context.report (Span.ofLength (leaf.span.start + front.length) (term ++ colon).length)
        ("Found '" ++ String.ofList (Text.dropEndWhile (· == ':') (term ++ colon)) ++
          "' marker.") none := by
  intro found
  have terms_of : ∀ leaf : Node,
      occurrences settings.ignoreCase settings.ordered none leaf.span.start 0 leaf.raw =
      occurrences false settings.ordered none leaf.span.start 0 leaf.raw :=
        fun _ => by rw [exact_case]
  refine ⟨⟨_, Options.prepare_of_read read ruleId _, rfl⟩, ?_, ?_⟩
  · intro leaf selected front term back parts known blank_before blank_after first_word last_word
    have fits :=
      fits_of_blank parts (mem_ordered known) blank_before blank_after first_word last_word
    have some_text : term ≠ [] := by
      rintro rfl
      cases first_word
    have overlapped : ∃ marker ∈ occurrences false settings.ordered none leaf.span.start 0 leaf.raw,
        (Span.ofLength (leaf.span.start + front.length) term.length).overlaps marker.span = true :=
      fits_overlapped fits some_text (Nat.zero_le _)
    obtain ⟨marker, member, overlaps⟩ := overlapped
    rw [← terms_of] at member
    exact ⟨report context marker, List.mem_map_of_mem
      (List.mem_flatMap.mpr ⟨leaf, selected, member⟩), overlaps⟩
  · intro finding member
    obtain ⟨marker, known, same⟩ := List.mem_map.mp member
    obtain ⟨leaf, selected, there⟩ := List.mem_flatMap.mp known
    rw [terms_of] at there
    obtain ⟨front, term, colon, back, one, fits, place⟩ := occurrences_fit marker there
    have opens := fits.opens
    rw [Option.or_none] at opens
    refine ⟨leaf, selected, front, term, colon, back, fits.parts, of_mem_ordered fits.known, one,
      opens, fits.closes, ?_⟩
    rw [← same, place]
    rfl

/-- A term with a space in it begins and ends with word code points, and is found between white
space. -/
theorem term_of_two_words_is_found :
    let options : Value := .record [("terms", .list [.string "to do", .string "do"])]
    let document : Document :=
      ⟨"d", ['a', ' ', 't', 'o', ' ', 'd', 'o'],
        .leaf .prose 0 ['a', ' ', 't', 'o', ' ', 'd', 'o'], "txt"⟩
    Settings.read options = .ok ⟨["to do", "do"], false⟩ ∧
      ∃ finding ∈ find ⟨["to do", "do"], false⟩ ⟨ruleId, .error⟩ document,
        (Span.ofLength 2 5).overlaps finding.span = true := by
  intro options document
  have read : Settings.read options = .ok ⟨["to do", "do"], false⟩ := by cbv
  obtain ⟨-, overlapped, -⟩ := terms_with_word_ends_are_found read rfl ⟨ruleId, .error⟩ document
  have prose : document.select Node.isProse = [document.tree] := by cbv
  have selected : document.tree ∈ document.select Node.isProse :=
    prose ▸ List.mem_singleton_self document.tree
  exact ⟨read, overlapped document.tree selected ['a', ' '] ['t', 'o', ' ', 'd', 'o'] [] rfl
    (by decide) (by decide) rfl (by decide) (by decide)⟩

/-- A term that opens with a sign is accepted, and is not found where it stands between the start of
a leaf and a space. -/
theorem term_that_opens_with_a_sign_is_missed :
    let options : Value := .record [("terms", .list [.string "@todo"])]
    let text : Text := ['@', 't', 'o', 'd', 'o', ' ', 'f', 'i', 'x']
    let settings : Settings := ⟨["@todo"], false⟩
    Settings.read options = .ok settings ∧
    ∃ tree leaf, Format.plainText.parse text = .ok (.proper tree) ∧
    leaf ∈ tree.select Node.isProse ∧
      (∃ front term back : Text, leaf.raw = front ++ term ++ back ∧
        String.ofList term ∈ settings.terms ∧
        front.getLast?.all isBlank = true ∧ back.head?.all isBlank = true) ∧
      ∀ context id kind, find settings context ⟨id, text, tree, kind⟩ = [] := by
  intro options text settings
  have read : Settings.read options = .ok settings := by cbv
  have tree_read : ∃ tree, Format.plainText.parse text = .ok (.proper tree) ∧
      tree.select Node.isProse = [.leaf .prose 0 text] ∧
      inProse settings tree = [] := ⟨_, by cbv, by cbv, by cbv⟩
  obtain ⟨tree, parsed, prose, none_found⟩ := tree_read
  refine ⟨read, tree, .leaf .prose 0 text, parsed, prose ▸ List.mem_singleton_self _, ?_, ?_⟩
  · exact ⟨[], ['@', 't', 'o', 'd', 'o'], [' ', 'f', 'i', 'x'], rfl,
      by decide, by decide, by decide⟩
  · intro context id kind
    rw [find, none_found]
    rfl

end Marker

end ProseLinter
