import ProseLinter.Proofs.Rule.Safety
import ProseLinter.Proofs.Tree.Reading
import ProseLinter.Rule.Marker

/-!
# Markers lie in prose

A marker is the beginning of what is left of a leaf of prose where it is found, so it stands in the
leaf, with its colon.
-/

namespace ProseLinter.Marker

theorem term_parts {ignoreCase : Bool} {term text matched after : Text}
    (found : term? ignoreCase term text = some (matched, after)) : matched ++ after = text := by
  induction term, text using term?.induct ignoreCase generalizing matched with
  | case1 text =>
      rw [term?, Option.some.injEq, Prod.mk.injEq] at found
      rw [← found.1, found.2, List.nil_append]
  | case2 wanted term => cases found
  | case3 wanted term c rest same induction =>
      rw [term?, if_pos same, Option.map_eq_some_iff] at found
      obtain ⟨⟨shorter, behind⟩, later, parts⟩ := found
      rw [Prod.mk.injEq] at parts
      obtain ⟨longer, rfl⟩ := parts
      rw [← longer, List.cons_append, induction later]
  | case4 wanted term c rest other =>
      rw [term?, if_neg other] at found
      cases found

theorem marker_begins {ignoreCase : Bool} {text marker after : Text} {terms : List Text}
    (found : marker? ignoreCase text terms = some (marker, after)) : marker <+: text := by
  induction terms with
  | nil => cases found
  | cons term terms induction =>
      rw [marker?] at found
      split at found
      · exact induction found
      · rename_i matched behind fits
        have parts := term_parts fits
        split at found
        · split at found
          -- The colon after the term belongs to the marker.
          · rename_i rest
            cases found
            exact ⟨after, by rw [← parts, List.append_assoc, List.singleton_append]⟩
          · cases found
            exact ⟨after, parts⟩
        · exact induction found

theorem occurrences_stand {ignoreCase : Bool} {terms : List Text} {before : Option Char}
    {whole text : Text} {offset skip : Nat} (holds : text <+: whole.drop offset) :
    ∀ marker ∈ occurrences ignoreCase terms before offset skip text, marker.StandsIn whole := by
  induction text generalizing before offset skip with
  | nil => exact fun marker member => absurd member List.not_mem_nil
  | cons c rest induction =>
      have later : ∀ skip, ∀ marker ∈ occurrences ignoreCase terms (some c) (offset + 1) skip rest,
          marker.StandsIn whole := fun skip => induction (Text.holds_tail holds)
      cases skip with
      | succ skip => exact later skip
      | zero =>
          rw [occurrences]
          split
          · exact later 0
          · rename_i marker after found
            refine List.forall_mem_cons.mpr ⟨?_, later _⟩
            have starts : marker? ignoreCase (c :: rest) terms = some (marker, after) := by
              split at found
              · exact found
              · cases found
            exact Excerpt.stands_of_prefix holds (List.cons_ne_nil c rest) (marker_begins starts)

theorem report_suits (context : RuleContext) {text : Text} {marker : Excerpt}
    (stands : marker.StandsIn text) :
    (report context marker).Suits text := by
  apply Finding.suits_unfixed stands.within rfl
  apply Finding.not_failure_of_head (c := 'F')
  · simp [report, RuleContext.report]
  · decide

theorem check_safe {options : Value} {check : DocumentCheck}
    (prepared : rule.prepare options = .ok check) (context : RuleContext) {document : Document}
    (read : document.IsRead) : check.IsSafe context document := by
  obtain ⟨settings, -, made⟩ := Options.prepare_eq_ok prepared
  rw [made]
  apply Options.documentCheck_safe
  intro finding member
  obtain ⟨marker, known, same⟩ := List.mem_map.mp member
  obtain ⟨leaf, selected, found⟩ := List.mem_flatMap.mp known
  exact same ▸ report_suits context (occurrences_stand (read.prose_holds selected) marker found)

end ProseLinter.Marker
