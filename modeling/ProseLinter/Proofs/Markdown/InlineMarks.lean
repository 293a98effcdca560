import ProseLinter.Markdown.Inline
import ProseLinter.Proofs.Markdown.FenceScan

/-!
# What counts as inline markup

The shapes of inline markup, said without the recognisers: code between two runs of grave accents of
one length, images and links with a label in brackets and a destination in parentheses. The
recogniser is exact: it finds nothing at the start of a text just if no piece of markup stands
there, however the text goes on behind it.
-/

namespace ProseLinter.Markdown

/-- That a title is written out: spaces or tabs, and then a quotation between two quotation
marks. -/
def IsTitle (title : Text) : Prop :=
  ∃ spacing quoted, spacing ≠ [] ∧ (∀ c ∈ spacing, isSpaceOrTab c = true) ∧ '"' ∉ quoted ∧
    title = spacing ++ '"' :: quoted ++ ['"']

/-- That a destination is written out: between parentheses an address without white space, and
perhaps a title. -/
def Destination.Complete (destination : Destination) : Prop :=
  (∀ c ∈ destination.address, c ≠ ')' ∧ isBlank c = false) ∧
    ∃ title, (title = [] ∨ IsTitle title) ∧
    destination.raw = '(' :: destination.address ++ title ++ [')']

/-- That a mark is a whole piece of markup. Only the label of an image may be empty. -/
inductive InlineMark.Complete : InlineMark → Prop
  | code (count : Nat) (body : Text) (some_ticks : 0 < count) (some_body : body ≠ []) :
      Complete (.code (List.replicate count tick ++ body ++ List.replicate count tick))
  | image (alt : Text) (destination : Destination) (bare : ']' ∉ alt)
      (target : destination.Complete) : Complete (.image alt destination)
  | link (label : Text) (destination : Destination) (some_label : label ≠ []) (bare : ']' ∉ label)
      (target : destination.Complete) : Complete (.link label destination)

/-! ## Destinations -/

section Destinations

variable {text title label rest : Text} {destination : Destination}

theorem cut_at_stop {test : Char → Bool} {front : Text} (goes_on : ∀ c ∈ front, test c = true)
    (stop : Char) (stops : ¬test stop = true) (rest : Text) :
    (front ++ stop :: rest).takeWhile test = front ∧
      (front ++ stop :: rest).dropWhile test = stop :: rest := by
  refine cut_behind_run goes_on ?_
  rintro c ⟨⟩
  exact Bool.eq_false_iff.mpr stops

theorem differs_of_not_mem {stop : Char} (bare : stop ∉ text) : ∀ c ∈ text, (c != stop) = true := by
  intro c member
  exact bne_iff_ne.2 fun same => bare (same ▸ member)

theorem title_of_written (written : IsTitle title) (rest : Text) :
    title? (title ++ rest) = some (title, rest) := by
  obtain ⟨spacing, quoted, some_spacing, spaces, bare, rfl⟩ := written
  obtain ⟨front, back⟩ := cut_at_stop spaces '"' (by decide) (quoted ++ '"' :: rest)
  obtain ⟨inside, after⟩ := cut_at_stop (differs_of_not_mem bare) '"' (by decide) rest
  obtain ⟨space, more, rfl⟩ := List.exists_cons_of_ne_nil some_spacing
  simp only [List.append_assoc, List.cons_append, List.nil_append] at front back ⊢
  simp only [title?, front, back, inside, after, List.cons_append, List.append_assoc]

theorem written_of_title (found : title? text = some (title, rest)) : IsTitle title := by
  simp only [title?] at found
  split at found
  next heads quoted spacing opened =>
    split at found
    next after closed =>
      simp only [Option.some.injEq, Prod.mk.injEq] at found
      obtain ⟨rfl, -⟩ := found
      refine ⟨_, _, spacing ▸ List.cons_ne_nil _ _, List.all_eq_true.1 List.all_takeWhile, ?_, rfl⟩
      intro member
      simpa using List.all_eq_true.1 List.all_takeWhile _ member
    next => simp at found
  next => simp at found

theorem destination_of_complete (complete : destination.Complete) (rest : Text) :
    destination? (destination.raw ++ rest) = some (destination, rest) := by
  obtain ⟨address, raw⟩ := destination
  obtain ⟨free, title, titled, same⟩ := complete
  change raw = '(' :: address ++ title ++ [')'] at same
  subst same
  have goes_on : ∀ c ∈ address, (c != ')' && !isBlank c) = true := by
    intro c member
    obtain ⟨other, dark⟩ := free c member
    simp [other, dark]
  rcases titled with rfl | written
  · obtain ⟨front, back⟩ := cut_at_stop goes_on ')' (by decide) rest
    have untitled : title? (')' :: rest) = none := rfl
    simp only [List.append_assoc, List.cons_append, List.nil_append, destination?, front,
      back, untitled]
  · obtain ⟨spacing, quoted, some_spacing, spaces, -, same⟩ := id written
    obtain ⟨space, more, rfl⟩ := List.exists_cons_of_ne_nil some_spacing
    have stops : ¬(space != ')' && !isBlank space) = true := by
      simp [blank_of_space_or_tab (spaces space List.mem_cons_self)]
    have opens : title ++ ')' :: rest =
        space :: (more ++ '"' :: quoted ++ ['"'] ++ ')' :: rest) := by
      rw [same]
      rfl
    obtain ⟨front, back⟩ :=
      cut_at_stop goes_on space stops (more ++ '"' :: quoted ++ ['"'] ++ ')' :: rest)
    rw [← opens] at front back
    simp only [List.append_assoc, List.cons_append, List.nil_append] at front back ⊢
    simp only [destination?, front, back, title_of_written written, List.cons_append,
      List.append_assoc]

theorem complete_of_destination (found : destination? text = some (destination, rest)) :
    destination.Complete := by
  simp only [destination?] at found
  split at found
  next inside =>
    have free : ∀ c ∈ inside.takeWhile (fun c => c != ')' && !isBlank c), c ≠ ')' ∧
        isBlank c = false := by
      intro c member
      simpa using List.all_eq_true.1 List.all_takeWhile c member
    split at found
    next title after titled =>
      simp only [Option.some.injEq, Prod.mk.injEq] at found
      obtain ⟨rfl, -⟩ := found
      exact ⟨free, title, .inr (written_of_title titled), rfl⟩
    next =>
      split at found
      next after closed =>
        simp only [Option.some.injEq, Prod.mk.injEq] at found
        obtain ⟨rfl, -⟩ := found
        exact ⟨free, [], .inl rfl, by simp⟩
      next => simp at found
  next => simp at found

theorem labelled_of_complete (bare : ']' ∉ label) (complete : destination.Complete) (rest : Text) :
    labelled? (label ++ ']' :: (destination.raw ++ rest)) = some (label, destination, rest) := by
  obtain ⟨front, back⟩ :=
    cut_at_stop (differs_of_not_mem bare) ']' (by decide) (destination.raw ++ rest)
  simp only [labelled?, front, back, destination_of_complete complete]

theorem complete_of_labelled (found : labelled? text = some (label, destination, rest)) :
    ']' ∉ label ∧ destination.Complete := by
  simp only [labelled?] at found
  split at found
  next after closed =>
    split at found
    next other rest' targeted =>
      simp only [Option.some.injEq, Prod.mk.injEq] at found
      obtain ⟨rfl, rfl, -⟩ := found
      refine ⟨?_, complete_of_destination targeted⟩
      intro member
      simpa using List.all_eq_true.1 List.all_takeWhile _ member
    next => simp at found
  next => simp at found

end Destinations

/-! ## Runs of grave accents -/

section Ticks

variable {count run distance length : Nat} {text body rest : Text}

theorem end_of_ticks_of_run (fewer : run < count) (enough : count ≤ run + length) (rest : Text) :
    (endOfTicks? count run (List.replicate length tick ++ rest)).isSome := by
  induction length generalizing run with
  | zero => omega
  | succ length induction =>
      rw [List.replicate_succ, List.cons_append, endOfTicks?]
      simp only [beq_self_eq_true, if_true]
      by_cases reached : run + 1 = count
      · rw [if_pos reached]
        rfl
      · rw [if_neg reached, Option.isSome_map]
        exact induction (by omega) (by omega)

theorem end_of_ticks_of_later (fewer : run < count) (front rest : Text) :
    (endOfTicks? count run (front ++ (List.replicate count tick ++ rest))).isSome := by
  induction front generalizing run with
  | nil => exact end_of_ticks_of_run fewer (Nat.le_add_left count run) rest
  | cons c front induction =>
      have next : ∃ other, (if c == tick then run + 1 else 0) = other ∧ other ≤ count := by
        refine ⟨_, rfl, ?_⟩
        split <;> omega
      obtain ⟨other, same, within⟩ := next
      rw [List.cons_append, endOfTicks?]
      simp only [same]
      by_cases reached : other = count
      · rw [if_pos reached]
        rfl
      · rw [if_neg reached, Option.isSome_map]
        exact induction (Nat.lt_of_le_of_ne within reached)

theorem ticks_of_end (fewer : run < count) (found : endOfTicks? count run text = some distance) :
    distance ≤ text.length ∧ List.replicate count tick <:+ List.replicate run tick ++
      text.take distance := by
  induction text generalizing run distance with
  | nil => simp [endOfTicks?] at found
  | cons c rest induction =>
      rw [endOfTicks?] at found
      by_cases isTick : c = tick
      · subst isTick
        simp only [beq_self_eq_true, if_true] at found
        have gathered : ∀ more : Text,
            List.replicate run tick ++ tick :: more = List.replicate (run + 1) tick ++ more := by
          intro more
          rw [List.append_cons, ← List.replicate_succ']
        by_cases reached : run + 1 = count
        · rw [if_pos reached, Option.some.injEq] at found
          subst found
          have whole : List.replicate run tick ++ (tick :: rest).take 1 =
              List.replicate count tick := by
            rw [List.take_succ_cons, List.take_zero, gathered, List.append_nil, reached]
          exact ⟨Nat.le_add_left 1 _, [], whole.symm⟩
        · rw [if_neg reached] at found
          obtain ⟨later, ended, rfl⟩ := Option.map_eq_some_iff.1 found
          obtain ⟨within, stands⟩ := induction (by omega) ended
          refine ⟨Nat.succ_le_succ within, ?_⟩
          rw [List.take_succ_cons, gathered]
          exact stands
      · have other : (c == tick) = false := beq_false_of_ne isTick
        simp only [other, Bool.false_eq_true, if_false, if_neg (show ¬0 = count by omega)] at found
        obtain ⟨later, ended, rfl⟩ := Option.map_eq_some_iff.1 found
        obtain ⟨within, stands⟩ := induction (by omega) ended
        refine ⟨Nat.succ_le_succ within, ?_⟩
        rw [List.take_succ_cons]
        rw [List.replicate_zero, List.nil_append] at stands
        exact stands.trans ((List.suffix_cons c _).trans (List.suffix_append _ _))

theorem code_length_of_closed (some_ticks : 0 < count) (some_body : body ≠ []) (rest : Text)
    (within : count ≤ length) :
    (codeLength? (List.replicate count tick ++ (body ++ (List.replicate count tick ++ rest)))
      length).isSome := by
  obtain ⟨c, more, rfl⟩ := List.exists_cons_of_ne_nil some_body
  induction length with
  | zero => omega
  | succ length induction =>
      rw [codeLength?]
      by_cases reached : length + 1 = count
      · have opened : (List.replicate count tick ++
          (c :: more ++ (List.replicate count tick ++ rest))).drop (length + 1) =
            c :: (more ++ (List.replicate count tick ++ rest)) := by
          rw [reached, List.drop_left' List.length_replicate, List.cons_append]
        obtain ⟨distance, found⟩ :=
          Option.isSome_iff_exists.1 (end_of_ticks_of_later some_ticks more rest)
        rw [opened, reached]
        simp only [found, Option.isSome_some]
      · have before := induction (by omega)
        split
        · exact before
        · split
          · rfl
          · exact before

theorem code_of_length (found : codeLength? text run = some length)
    (ticks : run ≤ (text.takeWhile (· == tick)).length) :
    length ≤ text.length ∧ (InlineMark.code (text.take length)).Complete := by
  induction run with
  | zero => simp [codeLength?] at found
  | succ run induction =>
      rw [codeLength?] at found
      split at found
      · exact induction found (by omega)
      next c rest opened =>
        split at found
        next distance ended =>
          rw [Option.some.injEq] at found
          subst found
          obtain ⟨within, stands⟩ := ticks_of_end (Nat.succ_pos run) ended
          rw [List.replicate_zero, List.nil_append] at stands
          obtain ⟨front, same⟩ := stands
          have opening : text.take (run + 1) = List.replicate (run + 1) tick := by
            obtain ⟨more, whole⟩ := List.takeWhile_prefix (p := (· == tick)) (l := text)
            rw [← whole, List.take_append_of_le_length ticks, take_while_eq_replicate,
              List.take_replicate, Nat.min_eq_left ticks]
          have whole : text = List.replicate (run + 1) tick ++ c :: rest := by
            rw [← opening, ← opened, List.take_append_drop]
          have taken : text.take (run + 2 + distance) =
              List.replicate (run + 1) tick ++ (c :: front) ++ List.replicate (run + 1) tick := by
            have size : run + 2 + distance =
                (List.replicate (run + 1) tick).length + (distance + 1) := by
              rw [List.length_replicate]
              omega
            rw [whole, size, List.take_length_add_append, List.take_succ_cons, ← same,
              List.append_assoc, List.cons_append]
          refine ⟨?_, ?_⟩
          · rw [whole, List.length_append, List.length_replicate, List.length_cons]
            omega
          · rw [taken]
            exact .code (run + 1) (c :: front) (Nat.succ_pos run) (List.cons_ne_nil c front)
        next => exact induction found (by omega)

end Ticks

/-! ## The recogniser is exact -/

section Recogniser

variable {text rest : Text} {mark : InlineMark}

theorem InlineMark.Complete.raw_ne_nil (complete : mark.Complete) : mark.raw ≠ [] := by
  cases complete with
  | code count body some_ticks some_body => simp [InlineMark.raw, some_body]
  | image alt destination bare target => exact List.cons_ne_nil _ _
  | link label destination some_label bare target => exact List.cons_ne_nil _ _

theorem complete_of_mark (found : mark? text = some (mark, rest)) : mark.Complete := by
  simp only [mark?] at found
  split at found
  next inside =>
    split at found
    next alt destination rest' labelled =>
      simp only [Option.some.injEq, Prod.mk.injEq] at found
      obtain ⟨rfl, -⟩ := found
      obtain ⟨bare, target⟩ := complete_of_labelled labelled
      exact .image alt destination bare target
    next => simp at found
  next inside _ =>
    split at found
    next c label destination rest' labelled =>
      simp only [Option.some.injEq, Prod.mk.injEq] at found
      obtain ⟨rfl, -⟩ := found
      obtain ⟨bare, target⟩ := complete_of_labelled labelled
      exact .link (c :: label) destination (List.cons_ne_nil c label) bare target
    next => simp at found
  next =>
    split at found
    next length measured =>
      split at found
      next within =>
        simp only [Option.some.injEq, Prod.mk.injEq] at found
        obtain ⟨rfl, -⟩ := found
        exact (code_of_length measured (Nat.le_refl _)).2
      next => simp at found
    next => simp at found

theorem mark_of_tick (rest : Text) :
    mark? (tick :: rest) =
      match codeLength? (tick :: rest) ((tick :: rest).takeWhile (· == tick)).length with
      | some length =>
          if length ≤ (tick :: rest).length then
            some (.code ((tick :: rest).take length), (tick :: rest).drop length)
          else none
      | none => none := rfl

theorem mark_of_complete (complete : mark.Complete) (rest : Text) :
    mark? (mark.raw ++ rest) ≠ none := by
  cases complete with
  | image alt destination bare target =>
      have labelled := labelled_of_complete bare target rest
      simp [InlineMark.raw, mark?, labelled]
  | link label destination some_label bare target =>
      obtain ⟨c, more, rfl⟩ := List.exists_cons_of_ne_nil some_label
      have labelled := labelled_of_complete bare target rest
      rw [List.cons_append] at labelled
      simp [InlineMark.raw, mark?, labelled]
  | code count body some_ticks some_body =>
      have enough : count ≤
          ((List.replicate count tick ++ (body ++ (List.replicate count tick ++ rest))).takeWhile
            (· == tick)).length := by
        rw [List.takeWhile_append_of_pos (by simp), List.length_append, List.length_replicate]
        exact Nat.le_add_right count _
      obtain ⟨length, found⟩ :=
        Option.isSome_iff_exists.1 (code_length_of_closed some_ticks some_body rest enough)
      have within := (code_of_length found (Nat.le_refl _)).1
      obtain ⟨fewer, rfl⟩ := Nat.exists_eq_add_one_of_ne_zero (Nat.ne_of_gt some_ticks)
      simp only [InlineMark.raw, List.append_assoc]
      generalize opened : List.replicate (fewer + 1) tick ++
        (body ++ (List.replicate (fewer + 1) tick ++ rest)) = text
        at found within
      rw [List.replicate_succ, List.cons_append] at opened
      subst opened
      simp only [mark_of_tick, found, if_pos within, ne_eq, reduceCtorEq, not_false_eq_true]

theorem mark_eq_none_iff : mark? text = none ↔
    ∀ mark : InlineMark, mark.Complete → ¬mark.raw <+: text := by
  constructor
  · rintro nothing mark complete ⟨rest, rfl⟩
    exact mark_of_complete complete rest nothing
  · intro nothing
    cases found : mark? text with
    | none => rfl
    | some pair =>
        obtain ⟨mark, rest⟩ := pair
        exact absurd ⟨rest, (mark?_append found).1⟩ (nothing mark (complete_of_mark found))

end Recogniser

end ProseLinter.Markdown
