import Mathlib.Data.List.Chain
import ProseLinter.Proofs.Text.Lines

/-!
# Lines that were edited

A text is taken apart into its lines, something is taken out of their contents, and the lines are
put together again. The text that comes of this has the edited lines, with two exceptions. A
carriage return and a line feed are one terminator as soon as nothing is left between them, and a
last line without terminator is gone when its content is gone.
-/

namespace ProseLinter.Line

def Unbroken (content : Text) : Prop := ∀ c ∈ content, c ≠ '\r' ∧ c ≠ '\n'

/-- The texts that end a line. -/
inductive Terminates : Text → Prop
  | feed : Terminates ['\n']
  | carriageReturn : Terminates ['\r']
  | both : Terminates ['\r', '\n']

/-- That contents and terminators are those of lines, of which only the last may lack a
terminator. -/
inductive Lined : List (Text × Text) → Prop
  | nil : Lined []
  | last {content : Text} (unbroken : Unbroken content) : Lined [(content, [])]
  | line {content ending : Text} {rest : List (Text × Text)} (unbroken : Unbroken content)
      (terminates : Terminates ending) (lined : Lined rest) : Lined ((content, ending) :: rest)

/-- What lines are read as when they are put together after they were edited. -/
inductive Joined : List (Text × Text) → List (Text × Text) → Prop
  | nil : Joined [] []
  | vanish : Joined [([], [])] []
  | keep (part : Text × Text) {rest more : List (Text × Text)} (joined : Joined rest more) :
      Joined (part :: rest) (part :: more)
  | join (content : Text) {rest more : List (Text × Text)} (joined : Joined rest more) :
      Joined ((content, ['\r']) :: ([], ['\n']) :: rest) ((content, ['\r', '\n']) :: more)

variable {content ending : Text} {parts rest more : List (Text × Text)}

theorem Terminates.breaks (terminates : Terminates ending) : ∀ c ∈ ending, c = '\r' ∨ c = '\n' := by
  cases terminates <;> simp

theorem unbroken_nil : Unbroken [] := fun _ member => absurd member List.not_mem_nil

theorem unbroken_cons {c : Char} :
    Unbroken (c :: content) ↔ (c ≠ '\r' ∧ c ≠ '\n') ∧ Unbroken content :=
  List.forall_mem_cons

theorem Unbroken.sublist {part : Text} (unbroken : Unbroken content) (kept : part.Sublist content) :
    Unbroken part :=
  fun c member => unbroken c (kept.mem member)

theorem Lined.push {c : Char} (notReturn : c ≠ '\r') (notFeed : c ≠ '\n') (lined : Lined parts) :
    Lined (push c parts) := by
  cases lined with
  | nil => exact .last (unbroken_cons.mpr ⟨⟨notReturn, notFeed⟩, unbroken_nil⟩)
  | last unbroken => exact .last (unbroken_cons.mpr ⟨⟨notReturn, notFeed⟩, unbroken⟩)
  | line unbroken terminates lined =>
      exact .line (unbroken_cons.mpr ⟨⟨notReturn, notFeed⟩, unbroken⟩) terminates lined

theorem pieces_lined (text : Text) : Lined (pieces text) := by
  induction text using pieces.induct with
  | case1 => exact .nil
  | case2 rest induction =>
      rw [pieces_return_feed]
      exact .line unbroken_nil .both induction
  | case3 rest notFeed induction =>
      rw [pieces_return notFeed]
      exact .line unbroken_nil .carriageReturn induction
  | case4 rest induction =>
      rw [pieces_feed]
      exact .line unbroken_nil .feed induction
  | case5 c rest _ notReturn notFeed last induction =>
      rw [pieces_push notReturn notFeed]
      exact induction.push notReturn notFeed
  | case6 c rest _ notReturn notFeed content ending more opened induction =>
      rw [pieces_push notReturn notFeed]
      exact induction.push notReturn notFeed

theorem Lined.unbroken (lined : Lined parts) : ∀ part ∈ parts, Unbroken part.1 := by
  induction lined with
  | nil => exact fun part member => absurd member List.not_mem_nil
  | last unbroken => exact List.forall_mem_singleton.mpr unbroken
  | line unbroken terminates lined induction => exact List.forall_mem_cons.mpr ⟨unbroken, induction⟩

theorem Lined.tail {part : Text × Text} (lined : Lined (part :: rest)) : Lined rest := by
  cases lined with
  | last => exact .nil
  | line unbroken terminates lined => exact lined

theorem lineParts_lined (text : Text) : Lined text.lineParts :=
  lineParts_eq_pieces text ▸ pieces_lined text

theorem unbroken_of_lines (text : Text) : ∀ line ∈ text.lines, Unbroken line.content :=
  fun line member => (lineParts_lined text).unbroken _ (List.mem_map.mpr ⟨line, member, rfl⟩)

/-- What follows the content of a line is part of a terminator, if anything follows it. -/
theorem breaks_behind {text : Text} {offset : Nat} {lines : List Line}
    (lined : Lined (lines.map fun line => (line.content, line.ending)))
    (follow : Follow offset lines) (rest : text.drop offset = wholeText lines) :
    ∀ line ∈ lines, ∀ c, text[line.contentEnd]? = some c → c = '\r' ∨ c = '\n' := by
  induction lines generalizing offset with
  | nil => exact fun line member => absurd member List.not_mem_nil
  | cons line others induction =>
      have later : text.drop (offset + line.whole.length) = wholeText others := by
        rw [← List.drop_drop, rest, whole_text_cons, List.drop_left]
      have behind : text.drop line.contentEnd = line.ending ++ wholeText others := by
        rw [contentEnd, follow.1, ← List.drop_drop, rest, whole_text_cons, whole, List.append_assoc,
          List.drop_left]
      rw [List.map_cons] at lined
      refine List.forall_mem_cons.mpr ⟨fun c there => ?_, ?_⟩
      · rw [← Nat.add_zero line.contentEnd, ← List.getElem?_drop, behind] at there
        generalize line.ending = ending at lined there
        generalize empty : (others.map fun line => (line.content, line.ending)) = parts at lined
        cases lined with
        | last unbroken =>
            rw [List.map_eq_nil_iff] at empty
            subst empty
            cases there
        | line unbroken terminates lined =>
            cases terminates with
            | feed => exact .inr (Option.some.inj there).symm
            | carriageReturn => exact .inl (Option.some.inj there).symm
            | both => exact .inl (Option.some.inj there).symm
      · exact induction lined.tail (follow_rest follow) later

theorem breaks_behind_content {text : Text} :
    ∀ line ∈ text.lines, ∀ c, text[line.contentEnd]? = some c → c = '\r' ∨ c = '\n' :=
  breaks_behind (lineParts_lined text) (follow_lines text) (whole_text_lines text).symm

theorem pieces_content (unbroken : Unbroken content) (rest : Text) :
    pieces (content ++ rest) = content.foldr push (pieces rest) := by
  induction content with
  | nil => rfl
  | cons c content induction =>
      obtain ⟨⟨notReturn, notFeed⟩, unbroken⟩ := unbroken_cons.mp unbroken
      rw [List.cons_append, pieces_push notReturn notFeed, induction unbroken, List.foldr_cons]

theorem foldr_push (content first ending : Text) (more : List (Text × Text)) :
    content.foldr push ((first, ending) :: more) = (content ++ first, ending) :: more := by
  induction content with
  | nil => rfl
  | cons c content induction => rw [List.foldr_cons, induction, Line.push, List.cons_append]

theorem pieces_unbroken (unbroken : Unbroken content) (some_text : content ≠ []) :
    pieces content = [(content, [])] := by
  induction content with
  | nil => exact absurd rfl some_text
  | cons c content induction =>
      obtain ⟨⟨notReturn, notFeed⟩, unbroken⟩ := unbroken_cons.mp unbroken
      rw [pieces_push notReturn notFeed]
      by_cases empty : content = []
      · subst empty
        rfl
      · rw [induction unbroken empty]
        rfl

theorem pieces_line (unbroken : Unbroken content) (terminates : Terminates ending) (rest : Text) :
    pieces (content ++ ending ++ rest) = (content, ending) :: pieces rest ∨
      ending = ['\r'] ∧ ∃ more, rest = '\n' :: more ∧
        pieces (content ++ ending ++ rest) = (content, ['\r', '\n']) :: pieces more := by
  rw [List.append_assoc, pieces_content unbroken]
  cases terminates with
  | feed =>
      rw [List.singleton_append, pieces_feed, foldr_push, List.append_nil]
      exact .inl rfl
  | both =>
      rw [List.cons_append, List.singleton_append, pieces_return_feed, foldr_push, List.append_nil]
      exact .inl rfl
  | carriageReturn =>
      rw [List.singleton_append]
      rcases pieces_return_cases rest with ⟨more, feeds, parts⟩ | ⟨-, parts⟩
      · rw [parts, foldr_push, List.append_nil]
        exact .inr ⟨rfl, more, feeds, rfl⟩
      · rw [parts, foldr_push, List.append_nil]
        exact .inl rfl

theorem Lined.opens_with_feed (lined : Lined parts) {text : Text}
    (opens : parts.flatMap (fun part => part.1 ++ part.2) = '\n' :: text) :
    ∃ rest, parts = ([], ['\n']) :: rest ∧ rest.flatMap (fun part => part.1 ++ part.2) = text := by
  cases lined with
  | nil => cases opens
  | @last content unbroken =>
      have same : content = '\n' :: text := by
        rwa [List.flatMap_singleton, List.append_nil] at opens
      rw [same, unbroken_cons] at unbroken
      exact absurd rfl unbroken.1.2
  | @line content ending rest unbroken terminates lined =>
      cases content with
      | nil =>
          cases terminates with
          | feed => exact ⟨rest, rfl, (List.cons.inj opens).2⟩
          | carriageReturn => cases (List.cons.inj opens).1
          | both => cases (List.cons.inj opens).1
      | cons c content =>
          have same : c = '\n' := (List.cons.inj opens).1
          exact absurd same (unbroken_cons.mp unbroken).1.2

/-- Lines that are put together are read as the same lines, but for terminators that meet and a last
line that is empty. -/
theorem joined_of_lined (lined : Lined parts) :
    Joined parts (pieces (parts.flatMap fun part => part.1 ++ part.2)) := by
  induction lined with
  | nil => exact .nil
  | @last content unbroken =>
      rw [List.flatMap_singleton, List.append_nil]
      by_cases empty : content = []
      · subst empty
        exact .vanish
      · rw [pieces_unbroken unbroken empty]
        exact .keep _ .nil
  | @line content ending rest unbroken terminates lined induction =>
      rw [List.flatMap_cons]
      rcases pieces_line unbroken terminates (rest.flatMap fun part => part.1 ++ part.2) with
        same | ⟨returns, more, feeds, same⟩
      · rw [same]
        exact .keep _ induction
      · obtain ⟨others, opened, left⟩ := lined.opens_with_feed feeds
        subst opened returns
        rw [same]
        rw [feeds, pieces_feed] at induction
        cases induction with
        | keep _ joined => exact .join content joined

theorem Lined.edited {lines : List Line} {edit : Line → Text}
    (lined : Lined (lines.map fun line => (line.content, line.ending)))
    (thins : ∀ line ∈ lines, (edit line).Sublist line.content) :
    Lined (lines.map fun line => (edit line, line.ending)) := by
  induction lines with
  | nil => exact .nil
  | cons line rest induction =>
      rw [List.forall_mem_cons] at thins
      rw [List.map_cons] at lined ⊢
      generalize content_eq : line.content = content at lined thins
      generalize ending_eq : line.ending = ending at lined
      generalize rest_eq : (rest.map fun line => (line.content, line.ending)) = others at lined
      cases lined with
      | last unbroken =>
          rw [List.map_eq_nil_iff] at rest_eq
          subst rest_eq
          exact .last (unbroken.sublist thins.1)
      | line unbroken terminates lined =>
          exact .line (unbroken.sublist thins.1) terminates (induction (rest_eq ▸ lined) thins.2)

theorem joined_of_edited (text : Text) {edit : Line → Text}
    (thins : ∀ line ∈ text.lines, (edit line).Sublist line.content) :
    Joined (text.lines.map fun line => (edit line, line.ending))
      (pieces (text.lines.flatMap fun line => edit line ++ line.ending)) := by
  have joined := joined_of_lined ((lineParts_lined text).edited thins)
  rwa [List.flatMap_map] at joined

theorem Joined.contents (joined : Joined parts more) :
    ∀ part ∈ more, ∃ given ∈ parts, given.1 = part.1 := by
  induction joined with
  | nil => exact fun part member => absurd member List.not_mem_nil
  | vanish => exact fun part member => absurd member List.not_mem_nil
  | keep part joined induction =>
      rw [List.forall_mem_cons]
      refine ⟨⟨part, List.mem_cons_self, rfl⟩, fun other member => ?_⟩
      obtain ⟨given, known, same⟩ := induction other member
      exact ⟨given, List.mem_cons_of_mem _ known, same⟩
  | join content joined induction =>
      rw [List.forall_mem_cons]
      refine ⟨⟨_, List.mem_cons_self, rfl⟩, fun other member => ?_⟩
      obtain ⟨given, known, same⟩ := induction other member
      exact ⟨given, List.mem_cons_of_mem _ (List.mem_cons_of_mem _ known), same⟩

/-- No line of a text that ends in a carriage return is followed by a line feed at once, which would
be one terminator with it. -/
theorem pieces_apart (text : Text) :
    (pieces text).IsChain fun line next => ¬(line.2 = ['\r'] ∧ next = ([], ['\n'])) := by
  induction text using pieces.induct with
  | case1 => exact .nil
  | case2 rest induction =>
      rw [pieces_return_feed, List.isChain_cons]
      exact ⟨fun next _ both => by simp at both, induction⟩
  | case3 rest notFeed induction =>
      rw [pieces_return notFeed, List.isChain_cons]
      refine ⟨?_, induction⟩
      rintro next first ⟨-, rfl⟩
      obtain ⟨more, opened⟩ := List.head?_eq_some_iff.mp first
      have whole := pieces_joined rest
      rw [opened, List.flatMap_cons] at whole
      exact notFeed _ whole.symm
  | case4 rest induction =>
      rw [pieces_feed, List.isChain_cons]
      exact ⟨fun next _ both => by simp at both, induction⟩
  | case5 c rest _ notReturn notFeed last induction =>
      rw [pieces_push notReturn notFeed, last]
      exact .singleton _
  | case6 c rest _ notReturn notFeed content ending more opened induction =>
      rw [opened, List.isChain_cons] at induction
      rw [pieces_push notReturn notFeed, opened, push, List.isChain_cons]
      exact induction

end ProseLinter.Line
