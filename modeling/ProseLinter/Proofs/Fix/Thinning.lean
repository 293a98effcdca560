import ProseLinter.Proofs.Rule.BuiltIn

/-!
# What fixing may take away

The patches of the built-in rules delete code points that may be spared: spaces, tabs, and those
that emoji are made of. So every pass thins the text out, and so does every run, whatever the passes
do to the lines and to the tree that the patches of the next one come from. What may not be spared
stays where it is, in its order.
-/

namespace ProseLinter

namespace Text

/-- That a text comes of another by deleting code points that may be spared. -/
inductive Thins : Text → Text → Prop
  | nil : Thins [] []
  | keep {before after : Text} (c : Char) (thins : Thins before after) :
      Thins (c :: before) (c :: after)
  | drop {before after : Text} {c : Char} (expendable : isExpendable c = true)
      (thins : Thins before after) : Thins (c :: before) after

def essence (text : Text) : Text := text.filter fun c => !isExpendable c

namespace Thins

variable {first second third before after start stop : Text}

theorem refl (text : Text) : Thins text text := by
  induction text with
  | nil => exact .nil
  | cons c rest induction => exact induction.keep c

theorem trans (once : Thins first second) (again : Thins second third) : Thins first third := by
  induction once generalizing third with
  | nil => exact again
  | keep c once induction =>
      cases again with
      | keep c again => exact (induction again).keep c
      | drop expendable again => exact (induction again).drop expendable
  | drop expendable once induction => exact (induction again).drop expendable

theorem append (early : Thins first second) (late : Thins before after) :
    Thins (first ++ before) (second ++ after) := by
  induction early with
  | nil => exact late
  | keep c early induction => exact induction.keep c
  | drop expendable early induction => exact induction.drop expendable

theorem of_expendable {text : Text} (expendable : ∀ c ∈ text, isExpendable c = true) :
    Thins text [] := by
  induction text with
  | nil => exact .nil
  | cons c rest induction =>
      obtain ⟨first, others⟩ := List.forall_mem_cons.mp expendable
      exact (induction others).drop first

theorem sublist (thins : Thins before after) : after.Sublist before := by
  induction thins with
  | nil => exact .slnil
  | keep c thins induction => exact induction.cons_cons c
  | drop expendable thins induction => exact induction.cons _

theorem essence_eq (thins : Thins before after) : essence after = essence before := by
  induction thins with
  | nil => rfl
  | keep c thins induction =>
      simp only [essence, List.filter_cons] at induction ⊢
      rw [induction]
  | drop expendable thins induction =>
      rw [induction, essence, essence, List.filter_cons_of_neg]
      simp [expendable]

end Thins

end Text

theorem Span.parts (span : Span) (text : Text) :
    text = text.take span.start ++ (span.read text ++ text.drop span.stop) := by
  have behind : text.drop span.stop = (text.drop span.start).drop (span.stop - span.start) := by
    rw [List.drop_drop, Nat.add_sub_cancel' span.ordered]
  rw [read, Text.slice, behind, List.take_append_drop, List.take_append_drop]

namespace Patching

open Text

variable {text : Text} {patch : Patch} {patches : List Patch}

theorem thins_apply_patch (clears : patch.Clears text) : Thins text (patch.apply text) := by
  have applied : patch.apply text =
      text.take patch.span.start ++ ([] ++ text.drop patch.span.stop) := by
    rw [Patch.apply, Text.splice, clears.deletes, List.append_assoc]
  have gone : Thins (patch.span.read text) [] := .of_expendable clears.expendable
  rw [applied]
  nth_rewrite 1 [patch.span.parts text]
  exact (Thins.refl _).append (gone.append (.refl _))

theorem Descend.clears_rest (descend : Descend text (patch :: patches))
    (clears : ∀ later ∈ patches, later.Clears text) :
    ∀ later ∈ patches, later.Clears (patch.apply text) := by
  intro later member
  refine ⟨descend.rest.within later member, (clears later member).deletes, ?_⟩
  rw [descend.read_of_later member]
  exact (clears later member).expendable

theorem Descend.thins (descend : Descend text patches)
    (clears : ∀ patch ∈ patches, patch.Clears text) :
    Thins text (patches.foldl (fun patched patch => patch.apply patched) text) := by
  induction patches generalizing text with
  | nil => exact .refl text
  | cons patch rest induction =>
      obtain ⟨first, others⟩ := List.forall_mem_cons.mp clears
      have left := induction descend.rest (descend.clears_rest others)
      exact (thins_apply_patch first).trans left

theorem thins_apply (apart : patches.Pairwise Apart)
    (clears : ∀ patch ∈ patches, patch.Clears text) :
    Thins text (apply text patches) := by
  have descend := lastFirst_descend apart fun patch member => (clears patch member).within
  rw [apply_eq_foldl]
  refine descend.thins ?_
  intro patch member
  exact clears patch ((List.mergeSort_perm _ _).mem_iff.mp member)

end Patching

namespace Profile

variable {profile : Profile} {source : Source} {given current document : Document}
  {binding : Binding} {count limit : Nat} {applied : List Finding}

theorem ReadsBuiltIn.rewritten_thins (builtIn : profile.ReadsBuiltIn) (read : document.IsRead) :
    Text.Thins document.text (profile.rewritten document).text := by
  refine Patching.thins_apply (Patching.select_apart document.text _) ?_
  intro patch member
  obtain ⟨proposal, taken, same⟩ := List.mem_map.mp member
  obtain ⟨found, carried⟩ := proposed_of_taken taken
  exact same ▸ (builtIn.evaluate_suits read proposal.finding found).clears proposal.patch carried

/-- However many passes lead from one document to another, the text of the first is thinned out on
the way. Each of them works on what the format made of the text that the one before it left. -/
theorem ReadsBuiltIn.passes_thin (builtIn : profile.ReadsBuiltIn)
    (readable : profile.parse given.source = .ok given)
    (passes : profile.Passes given count applied current) : Text.Thins given.text current.text := by
  induction passes with
  | start => exact .refl given.text
  | adopt passes adopts induction =>
      have read := builtIn.parse_reads (passes.reads readable)
      exact induction.trans (adopts.text_next ▸ builtIn.rewritten_thins read)

theorem ReadsBuiltIn.fix_thins (builtIn : profile.ReadsBuiltIn)
    (readable : profile.parse given.source = .ok given)
    (bound : profile.bindingFor given.kind = .ok binding) :
    Text.Thins given.text (given.source.fixedBy (profile.fix binding limit given).result).text := by
  by_cases kept : ∀ fault, ¬ profile.RollsBack limit given fault
  · obtain ⟨count, applied, current, ending, passes, within, ends, finished⟩ :=
      exists_finish bound kept
    rw [fix_leaves bound passes within ends finished]
    exact builtIn.passes_thin readable passes
  · obtain ⟨fault, rolls_back⟩ := not_forall_not.mp kept
    obtain ⟨-, result⟩ := fix_rolled_back bound rolls_back
    rw [result]
    exact .refl given.text

end Profile

/-- The built-in fixes lose no content. If the rules about documents and the formats are built in, a
fix run over any text that the format of its kind reads leaves a text that comes of it by deleting
code points that may be spared: with whatever options, at whatever limit, and whether the run comes
to rest, uses up its passes or is rolled back. What may not be spared is the same in both. -/
theorem built_in_fixes_lose_no_content (entries : List RuleEntry) (formats : List FormatEntry)
    (configuration : Entries) (profile : Profile) (limit : Nat) (source : Source)
    (document : Document) (accepted : Profile.build entries formats configuration = .ok profile)
    (rules_asked : ∀ entry ∈ entries, ∀ rule, entry.rule = .proper (.document rule) →
      .document rule ∈ Registry.builtinRules)
    (formats_asked : ∀ entry ∈ formats, ∀ format, entry.format = .proper format → format.IsBuiltIn)
    (parsed : profile.parse source = .ok document) :
    ∃ fixed, profile.process limit .fix source = .ok fixed ∧
      Text.Thins source.text (source.fixedBy fixed.result).text ∧
      (source.fixedBy fixed.result).text.Sublist source.text ∧
      (source.fixedBy fixed.result).text.essence = source.text.essence := by
  have builtIn := Profile.reads_built_in accepted rules_asked formats_asked
  obtain ⟨binding, bound, -⟩ := Profile.bound_of_parse parsed
  have runs := Profile.process_fix limit parsed bound
  have same := Profile.source_of_parse parsed
  subst same
  have thins : Text.Thins document.text
      (document.source.fixedBy (profile.fix binding limit document).result).text :=
    builtIn.fix_thins parsed bound
  exact ⟨_, runs, thins, thins.sublist, thins.essence_eq⟩

/-- A profile that reads plain text and looks for emoji and for spaces at the ends of lines. -/
def Profile.sparing : Profile where
  rules := [
    ⟨Emoji.ruleId, .document Emoji.rule, .null, none,
      .document (Options.documentCheck (Emoji.Settings.value ⟨[]⟩) (Emoji.find ⟨[]⟩))⟩,
    ⟨TrailingSpace.ruleId, .document TrailingSpace.rule, .null, none,
      .document (Options.documentCheck (TrailingSpace.Settings.value ⟨false, false⟩)
        (TrailingSpace.find ⟨false, false⟩))⟩]
  bindings := [⟨"text", Format.plainText⟩]

def RuleEntry.sparing : List RuleEntry := [
  ⟨Emoji.ruleId, .proper (.document Emoji.rule), .null, none⟩,
  ⟨TrailingSpace.ruleId, .proper (.document TrailingSpace.rule), .null, none⟩]

theorem RuleEntry.sparing_built_in :
    ∀ entry ∈ RuleEntry.sparing, ∀ rule, entry.rule = .proper (.document rule) →
    .document rule ∈ Registry.builtinRules := by
  intro entry member rule asked
  rcases List.mem_pair.mp member with same | same <;>
  · rw [same] at asked
    cases asked
    simp [Registry.builtinRules]

/-- The first pass deletes the emoji, which leaves the space before it at the end of the line, and
the second deletes that. What is left of the text is the rest. -/
theorem emoji_and_space_are_all_that_is_lost :
    let source : Source := ⟨"d", ['a', ' ', '\u2600', '\n'], "txt"⟩
    ∃ document fixed, Profile.sparing.parse source = .ok document ∧
      Profile.sparing.process 10 .fix source = .ok fixed ∧
      fixed.result.passes = 2 ∧ fixed.result.fixedText = some ['a', '\n'] ∧
      Text.Thins source.text ['a', '\n'] ∧ Text.essence ['a', '\n'] = source.text.essence := by
  intro source
  have accepted : Profile.build RuleEntry.sparing [⟨"text", .proper Format.plainText⟩] [] =
      .ok .sparing := rfl
  have outcome : ∃ document fixed, Profile.sparing.parse source = .ok document ∧
      Profile.sparing.process 10 .fix source = .ok fixed ∧
      fixed.result.passes = 2 ∧ fixed.result.fixedText = some ['a', '\n'] :=
    ⟨_, _, by cbv, by cbv, by cbv, by cbv⟩
  obtain ⟨document, fixed, parsed, runs, passes, text⟩ := outcome
  obtain ⟨other, other_runs, thins, -, essence⟩ :=
    built_in_fixes_lose_no_content RuleEntry.sparing _ [] .sparing 10 source document accepted
      RuleEntry.sparing_built_in FormatEntry.plain_text_built_in parsed
  rw [runs, Except.ok.injEq] at other_runs
  subst other_runs
  have final : (source.fixedBy fixed.result).text = ['a', '\n'] := by
    rw [Source.fixedBy, text]
    rfl
  rw [final] at thins essence
  exact ⟨document, fixed, parsed, runs, passes, text, thins, essence⟩

end ProseLinter
