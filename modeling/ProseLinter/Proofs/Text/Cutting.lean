import Mathlib.Data.List.Basic
import ProseLinter.Text

/-!
# Cutting texts

A text that is put together of pieces with a character between them is cut into these pieces at that
character, if it stands in none of them. A run of what passes a test is cut off where the first
thing stands that does not.
-/

namespace ProseLinter

theorem cut_behind_run {α : Type} {test : α → Bool} {run rest : List α}
    (goes_on : ∀ item ∈ run, test item = true) (stops : ∀ item ∈ rest.head?, test item = false) :
    (run ++ rest).takeWhile test = run ∧ (run ++ rest).dropWhile test = rest := by
  rw [List.takeWhile_append_of_pos goes_on, List.dropWhile_append_of_pos goes_on]
  cases rest with
  | nil => exact ⟨List.append_nil run, rfl⟩
  | cons next rest =>
      have stopped : ¬ test next = true := Bool.eq_false_iff.mp (stops next rfl)
      rw [List.takeWhile_cons_of_neg stopped, List.dropWhile_cons_of_neg stopped]
      exact ⟨List.append_nil run, rfl⟩

namespace Text

theorem cutAt_of_not_mem {c : Char} {text : Text} (free : c ∉ text) : cutAt c text = [text] := by
  induction text with
  | nil => rfl
  | cons first rest induction =>
      rw [List.mem_cons, not_or] at free
      rw [cutAt, if_neg (Ne.symm free.1), induction free.2]

theorem cutAt_ne_nil (c : Char) (text : Text) : cutAt c text ≠ [] := by
  cases text with
  | nil => exact List.cons_ne_nil [] []
  | cons first rest =>
      rw [cutAt]
      split
      · exact List.cons_ne_nil _ _
      · split <;> exact List.cons_ne_nil _ _

theorem cutAt_append (c : Char) (text rest : Text) :
    cutAt c (text ++ c :: rest) = cutAt c text ++ cutAt c rest := by
  induction text with
  | nil =>
      change cutAt c (c :: rest) = [] :: cutAt c rest
      rw [cutAt, if_pos rfl]
  | cons first text induction =>
      rw [List.cons_append, cutAt, cutAt, induction]
      split
      · rfl
      · cases cut : cutAt c text with
        | nil => exact absurd cut (cutAt_ne_nil c text)
        | cons piece pieces => rfl

theorem cutAt_intercalate_flatMap {c : Char} {texts : List Text} (some_text : texts ≠ []) :
    cutAt c ([c].intercalate texts) = texts.flatMap (cutAt c) := by
  induction texts with
  | nil => contradiction
  | cons text texts induction =>
      cases texts with
      | nil => rw [List.intercalate_singleton, List.flatMap_singleton]
      | cons next texts =>
          rw [List.intercalate_cons_cons, List.append_assoc, List.singleton_append, cutAt_append,
            induction (List.cons_ne_nil next texts), ← List.flatMap_cons]

theorem cutAt_intercalate {c : Char} {texts : List Text} (some_text : texts ≠ [])
    (free : ∀ text ∈ texts, c ∉ text) :
    cutAt c ([c].intercalate texts) = texts := by
  rw [cutAt_intercalate_flatMap some_text,
    List.flatMap_congr fun text member => cutAt_of_not_mem (free text member),
    List.flatMap_singleton']

theorem intercalate_cutAt (c : Char) (text : Text) : [c].intercalate (cutAt c text) = text := by
  induction text with
  | nil => rfl
  | cons first rest induction =>
      rw [cutAt]
      split
      next same =>
        obtain ⟨piece, pieces, cut⟩ := List.exists_cons_of_ne_nil (cutAt_ne_nil c rest)
        rw [cut] at induction ⊢
        rw [List.intercalate_cons_cons, induction, same]
        rfl
      next =>
        split
        next none_there => exact absurd none_there (cutAt_ne_nil c rest)
        next piece pieces cut =>
          rw [cut] at induction
          rw [← induction]
          cases pieces <;> rfl

theorem length_cutAt (c : Char) (text : Text) : (cutAt c text).length = text.count c + 1 := by
  induction text with
  | nil => rfl
  | cons first rest induction =>
      rw [cutAt, List.count_cons]
      split
      next same => rw [List.length_cons, induction, same, beq_self_eq_true, if_pos rfl]
      next different =>
        rw [if_neg (by simpa using different), Nat.add_zero, ← induction]
        split
        next none_there => exact absurd none_there (cutAt_ne_nil c rest)
        next piece pieces cut => rw [cut, List.length_cons, List.length_cons]

theorem mem_of_cutAt {c other : Char} {text piece : Text} (cut : piece ∈ cutAt c text)
    (inside : other ∈ piece) :
    other ∈ text ∧ other ≠ c := by
  induction text generalizing piece with
  | nil =>
      rw [List.mem_singleton.mp cut] at inside
      cases inside
  | cons first rest induction =>
      rw [cutAt] at cut
      split at cut
      next same =>
        rcases List.mem_cons.mp cut with rfl | later
        · cases inside
        · exact (induction later inside).imp_left (List.mem_cons_of_mem first)
      next different =>
        split at cut
        next =>
          rw [List.mem_singleton.mp cut, List.mem_singleton] at inside
          exact ⟨inside ▸ List.mem_cons_self, inside ▸ different⟩
        next head pieces pieced =>
          rcases List.mem_cons.mp cut with rfl | later
          · rcases List.mem_cons.mp inside with rfl | behind
            · exact ⟨List.mem_cons_self, different⟩
            · exact (induction (pieced ▸ List.mem_cons_self) behind).imp_left
                (List.mem_cons_of_mem first)
          · exact (induction (pieced ▸ List.mem_cons_of_mem head later) inside).imp_left
              (List.mem_cons_of_mem first)

end Text

end ProseLinter
