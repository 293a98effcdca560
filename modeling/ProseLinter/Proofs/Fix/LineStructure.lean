import ProseLinter.Proofs.Fix.Thinning

/-!
# What fixing does to the lines

The patches of the built-in rules take nothing out of terminators, but a terminator is known by what
stands next to it. So every line keeps its own, unless what stood between a carriage return and a
line feed is all deleted, which leaves one terminator where there were two. A last line that has
none goes when its content goes.
-/

namespace ProseLinter

theorem not_expendable_of_feed : isExpendable '\n' = false := by decide

theorem not_expendable_of_return : isExpendable '\r' = false := by decide

namespace Line

open Text (Thins)

theorem endings_eq (text : Text) : text.lines.map (·.ending) = text.lineParts.map (·.2) := by
  rw [Text.lineParts, List.map_map]
  rfl

/-- What is left of lines when code points that may be spared are taken out of them. A line keeps
its terminator, but a last line without one vanishes if it is emptied, and if the line between a
carriage return and a line feed is emptied, these two are one terminator from then on. -/
inductive Lasts : List (Text × Text) → List (Text × Text) → Prop
  | nil : Lasts [] []
  | keep {content left ending : Text} {rest more : List (Text × Text)} (thins : Thins content left)
      (lasts : Lasts rest more) : Lasts ((content, ending) :: rest) ((left, ending) :: more)
  | vanish {content : Text} (expendable : ∀ c ∈ content, isExpendable c = true) :
      Lasts [(content, [])] []
  | join {content left emptied : Text} {rest more : List (Text × Text)} (thins : Thins content left)
      (expendable : ∀ c ∈ emptied, isExpendable c = true) (lasts : Lasts rest more) :
      Lasts ((content, ['\r']) :: (emptied, ['\n']) :: rest) ((left, ['\r', '\n']) :: more)

variable {c : Char} {content left ending before after : Text}
  {rest more lines lasting : List (Text × Text)}

theorem thins_nil_iff : Thins content [] ↔ ∀ c ∈ content, isExpendable c = true := by
  constructor
  · intro thins
    induction content with
    | nil => simp
    | cons c content induction =>
        cases thins with
        | drop expendable thins => exact List.forall_mem_cons.mpr ⟨expendable, induction thins⟩
  · exact Thins.of_expendable

theorem Lasts.push (lasts : Lasts lines lasting) (c : Char) :
    Lasts (push c lines) (push c lasting) := by
  cases lasts with
  | nil => exact .keep (.refl [c]) .nil
  | keep thins lasts => exact .keep (thins.keep c) lasts
  | vanish expendable => exact .keep (.keep c (.of_expendable expendable)) .nil
  | join thins expendable lasts => exact .join (thins.keep c) expendable lasts

theorem Lasts.drop (lasts : Lasts lines lasting) (expendable : isExpendable c = true) :
    Lasts (Line.push c lines) lasting := by
  cases lasts with
  | nil => exact .vanish (by simpa using expendable)
  | keep thins lasts => exact .keep (thins.drop expendable) lasts
  | vanish others => exact .vanish (List.forall_mem_cons.mpr ⟨expendable, others⟩)
  | join thins others lasts => exact .join (thins.drop expendable) others lasts

/-- What a line feed that opens the lines left over comes from: the line feed of a first line that
was emptied. -/
theorem Lasts.feed_inv (lasts : Lasts lines (([], ['\n']) :: more)) :
    ∃ emptied rest, lines = (emptied, ['\n']) :: rest ∧ (∀ c ∈ emptied, isExpendable c = true) ∧
      Lasts rest more := by
  cases lasts with
  | keep thins lasts => exact ⟨_, _, rfl, thins_nil_iff.mp thins, lasts⟩

/-- A carriage return that is kept. Whether the line feed of the next line is its own depends on
what is left between. -/
theorem Lasts.keep_return (thins : Thins before after)
    (lasts : Lasts (pieces before) (pieces after)) :
    Lasts (pieces ('\r' :: before)) (pieces ('\r' :: after)) := by
  rcases pieces_return_cases after with ⟨more, same, parts⟩ | ⟨no_feed, parts⟩
  · subst same
    rw [parts]
    rw [pieces_feed] at lasts
    obtain ⟨emptied, rest, opened, expendable, later⟩ := lasts.feed_inv
    rcases pieces_return_cases before with ⟨others, same, parts⟩ | ⟨-, parts⟩
    · subst same
      rw [pieces_feed, List.cons.injEq] at opened
      rw [parts, opened.2]
      exact .keep (.refl []) later
    · rw [parts, opened]
      exact .join (.refl []) expendable later
  · rw [parts]
    rcases pieces_return_cases before with ⟨others, same, -⟩ | ⟨-, parts⟩
    · -- A line feed behind the return stays there, so it would be behind it still.
      subst same
      cases thins with
      | keep _ thins => exact absurd rfl (no_feed _)
      | drop expendable thins => rw [not_expendable_of_feed] at expendable; cases expendable
    · rw [parts]
      exact .keep (.refl []) lasts

/-- A text that is thinned out leaves of its lines what is left when code points are taken out of
them. -/
theorem lasts_of_thins (thins : Thins before after) : Lasts (pieces before) (pieces after) := by
  induction thins with
  | nil => exact .nil
  | @keep before after c thins induction =>
      by_cases returns : c = '\r'
      · subst returns
        exact induction.keep_return thins
      by_cases feeds : c = '\n'
      · subst feeds
        rw [pieces_feed, pieces_feed]
        exact .keep (.refl []) induction
      · rw [pieces_push returns feeds, pieces_push returns feeds]
        exact induction.push c
  | @drop before after c expendable thins induction =>
      have not_return : c ≠ '\r' := by
        rintro rfl
        rw [not_expendable_of_return] at expendable
        cases expendable
      have not_feed : c ≠ '\n' := by
        rintro rfl
        rw [not_expendable_of_feed] at expendable
        cases expendable
      rw [pieces_push not_return not_feed]
      exact induction.drop expendable

/-- That the terminators of two lines are one as soon as the second line is emptied, and that it may
be. -/
def Joinable (first second : Text × Text) : Prop :=
  first.2 = ['\r'] ∧ second.2 = ['\n'] ∧ ∀ c ∈ second.1, isExpendable c = true

instance (first second : Text × Text) : Decidable (Joinable first second) := by
  unfold Joinable
  infer_instance

theorem Lasts.endings (lasts : Lasts lines lasting)
    (apart : lines.IsChain fun line next => ¬ Joinable line next) :
    lasting.map (·.2) = lines.map (·.2) ∨ ∃ earlier last, lines = earlier ++ [(last, [])] ∧
      (∀ c ∈ last, isExpendable c = true) ∧ lasting.map (·.2) = earlier.map (·.2) := by
  induction lasts with
  | nil => exact .inl rfl
  | @keep content left ending rest more thins lasts induction =>
      rcases induction apart.tail with same | ⟨earlier, last, parts, expendable, same⟩
      · exact .inl (by rw [List.map_cons, List.map_cons, same])
      · refine .inr ⟨(content, ending) :: earlier, last, by rw [parts]; rfl, expendable, ?_⟩
        rw [List.map_cons, List.map_cons, same]
  | vanish expendable => exact .inr ⟨[], _, rfl, expendable, rfl⟩
  | join thins expendable lasts induction =>
      exact absurd ⟨rfl, rfl, expendable⟩ (List.isChain_cons_cons.mp apart).1

end Line

/-- The built-in fixes keep the line structure, but for terminators that an emptied line parts. If
the rules about documents and the formats are built in, the lines of the text that a fix run leaves
are those of the given text with code points that may be spared taken out of them: each has the
terminator it had, but a last line without terminator may vanish, and a line feed joins a carriage
return if the line that it ended is emptied. So if no line that ends in a carriage return alone
comes before one that ends in a line feed and holds only such code points, the text left has as many
lines as the given one and the same terminator on each, except that a last line without terminator
may vanish when its content is emptied. -/
theorem built_in_fixes_keep_lines (entries : List RuleEntry) (formats : List FormatEntry)
    (configuration : Entries) (profile : Profile) (limit : Nat) (source : Source)
    (document : Document) (accepted : Profile.build entries formats configuration = .ok profile)
    (rules_asked : ∀ entry ∈ entries, ∀ rule, entry.rule = .proper (.document rule) →
      .document rule ∈ Registry.builtinRules)
    (formats_asked : ∀ entry ∈ formats, ∀ format, entry.format = .proper format → format.IsBuiltIn)
    (parsed : profile.parse source = .ok document) :
    ∃ fixed, profile.process limit .fix source = .ok fixed ∧
      Line.Lasts source.text.lineParts (source.fixedBy fixed.result).text.lineParts ∧
      (source.text.lineParts.IsChain (fun line next => ¬ Line.Joinable line next) →
        (source.fixedBy fixed.result).text.lines.map (·.ending) = source.text.lines.map (·.ending) ∨
        ∃ earlier last, source.text.lineParts = earlier ++ [(last, [])] ∧
        (∀ c ∈ last, isExpendable c = true) ∧
          (source.fixedBy fixed.result).text.lines.map (·.ending) = earlier.map (·.2)) := by
  have builtIn := Profile.reads_built_in accepted rules_asked formats_asked
  obtain ⟨binding, bound, -⟩ := Profile.bound_of_parse parsed
  have runs := Profile.process_fix limit parsed bound
  have same := Profile.source_of_parse parsed
  subst same
  have thins : Text.Thins document.text
      (document.source.fixedBy (profile.fix binding limit document).result).text :=
    builtIn.fix_thins parsed bound
  have lasts := Line.lasts_of_thins thins
  rw [← Line.lineParts_eq_pieces, ← Line.lineParts_eq_pieces] at lasts
  refine ⟨_, runs, lasts, ?_⟩
  intro apart
  rw [Line.endings_eq, Line.endings_eq]
  exact lasts.endings apart

/-- The rule about spaces at the ends of lines, as asked for without any options. -/
def RuleEntry.trimming : RuleEntry :=
  ⟨TrailingSpace.ruleId, .proper (.document TrailingSpace.rule), .null, none⟩

/-- A profile that reads plain text and looks for spaces at the ends of lines alone. -/
def Profile.trimming : Profile where
  rules := [⟨TrailingSpace.ruleId, .document TrailingSpace.rule, .null, none,
    .document (Options.documentCheck (TrailingSpace.Settings.value ⟨false, false⟩)
      (TrailingSpace.find ⟨false, false⟩))⟩]
  bindings := [⟨"text", Format.plainText⟩]

theorem Profile.trimming_built :
    Profile.build [.trimming] [⟨"text", .proper Format.plainText⟩] [] = .ok .trimming := rfl

theorem RuleEntry.trimming_built_in :
    ∀ entry ∈ [RuleEntry.trimming], ∀ rule, entry.rule = .proper (.document rule) →
    .document rule ∈ Registry.builtinRules := by
  intro entry member rule asked
  rw [List.mem_singleton.mp member] at asked
  cases asked
  simp [Registry.builtinRules]

/-- The space between a carriage return and a line feed is a line of its own. When it is deleted the
two are one terminator, and of three lines two are left. -/
theorem emptied_line_joins_its_terminators :
    let source : Source := ⟨"d", ['a', '\r', ' ', '\n', 'b'], "txt"⟩
    ∃ fixed, Profile.build [.trimming] [⟨"text", .proper Format.plainText⟩] [] = .ok .trimming ∧
      Profile.trimming.process 10 .fix source = .ok fixed ∧
      (source.fixedBy fixed.result).text = ['a', '\r', '\n', 'b'] ∧
      source.text.lines.map (·.ending) = [['\r'], ['\n'], []] ∧
      (source.fixedBy fixed.result).text.lines.map (·.ending) = [['\r', '\n'], []] := by
  intro source
  have outcome : ∃ fixed, Profile.trimming.process 10 .fix source = .ok fixed ∧
      (source.fixedBy fixed.result).text = ['a', '\r', '\n', 'b'] := ⟨_, by cbv, by cbv⟩
  obtain ⟨fixed, runs, left⟩ := outcome
  exact ⟨fixed, Profile.trimming_built, runs, left, by decide, by rw [left]; decide⟩

/-- The first line keeps its terminator of two code points, and the second, which has none,
vanishes. -/
theorem last_line_of_spaces_vanishes :
    let source : Source := ⟨"d", ['a', ' ', '\r', '\n', '\t'], "txt"⟩
    ∃ document fixed, Profile.trimming.parse source = .ok document ∧
      Profile.trimming.process 10 .fix source = .ok fixed ∧
      source.text.lineParts.IsChain (fun line next => ¬ Line.Joinable line next) ∧
      (source.fixedBy fixed.result).text.lineParts = [(['a'], ['\r', '\n'])] ∧
      Line.Lasts [(['a', ' '], ['\r', '\n']), (['\t'], [])] [(['a'], ['\r', '\n'])] ∧
      ∃ earlier last, source.text.lineParts = earlier ++ [(last, [])] ∧
      (∀ c ∈ last, isExpendable c = true) ∧
        (source.fixedBy fixed.result).text.lines.map (·.ending) = earlier.map (·.2) := by
  intro source
  have parts : source.text.lineParts = [(['a', ' '], ['\r', '\n']), (['\t'], [])] := by decide
  have apart : source.text.lineParts.IsChain (fun line next => ¬ Line.Joinable line next) := by
    rw [parts]
    exact .cons_cons (by decide) (.singleton _)
  have outcome : ∃ document fixed, Profile.trimming.parse source = .ok document ∧
      Profile.trimming.process 10 .fix source = .ok fixed ∧
      (source.fixedBy fixed.result).text = ['a', '\r', '\n'] := ⟨_, _, by cbv, by cbv, by cbv⟩
  obtain ⟨document, fixed, parsed, runs, left⟩ := outcome
  have left_parts : (source.fixedBy fixed.result).text.lineParts = [(['a'], ['\r', '\n'])] := by
    rw [left]
    decide
  obtain ⟨other, other_runs, lasts, kept⟩ :=
    built_in_fixes_keep_lines [.trimming] _ [] .trimming 10 source document
    Profile.trimming_built RuleEntry.trimming_built_in FormatEntry.plain_text_built_in parsed
  rw [runs, Except.ok.injEq] at other_runs
  subst other_runs
  rw [parts, left_parts] at lasts
  refine ⟨document, fixed, parsed, runs, apart, left_parts, lasts, ?_⟩
  rcases kept apart with same | vanished
  · rw [Line.endings_eq, Line.endings_eq, left_parts, parts] at same
    cases same
  · exact vanished

end ProseLinter
