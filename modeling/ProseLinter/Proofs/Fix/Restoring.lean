import ProseLinter.Proofs.Fix.Limits
import ProseLinter.Proofs.Fix.Replacement

/-!
# Passes that put the text back

Each patch that a pass takes would change the text, and yet all of them together may leave it as it
is: what one takes out another may put in further on, if the text between them comes to lie where
the same stands already. Here it is said exactly when that happens. Then the patches make up for one
another in length, and each of them is moved by those before it or changes the length itself, so
some shorten the text and some lengthen it. A run ends where no patch is left to take and does not
ask whether the text has changed, so it makes a pass that puts the text back again and again, up to
its limit.
-/

namespace ProseLinter

namespace Patching

/-- That patches put back the text that they are applied to. What is left of it from `start` on up
to the first of them, and what that one puts in, come to stand from `place` on, and there the text
reads the same; so it goes on behind that patch, and behind the last of them nothing is moved. -/
def Restores (text : Text) : Nat → Nat → List Patch → Prop
  | start, place, [] => start = place
  | start, place, patch :: rest =>
      let made := text.slice start patch.span.start ++ patch.replacement
      made <+: text.drop place ∧ Restores text patch.span.stop (place + made.length) rest

def growth (patches : List Patch) : Int := (patches.map Patch.growth).sum

variable {text : Text} {start place : Nat} {patch : Patch} {patches before after : List Patch}

/-! ## Which patches put the text back -/

theorem woven_eq_drop_iff (ascend : Ascend text start patches) (start_within : start ≤ text.length)
    (place_within : place ≤ text.length) :
    woven (keptParts text start patches) (patches.map (·.replacement)) = text.drop place ↔
      Restores text start place patches := by
  induction patches generalizing start place with
  | nil =>
      rw [keptParts, List.map_nil, woven, List.flatten_cons, List.flatten_nil,
        List.append_nil, Restores]
      constructor
      · intro same
        have lengths := congrArg List.length same
        rw [List.length_drop, List.length_drop] at lengths
        omega
      · rintro rfl
        rfl
  | cons patch rest induction =>
      obtain ⟨-, within, ascend⟩ := ascend
      rw [keptParts, List.map_cons, woven, Restores]
      let made := text.slice start patch.span.start ++ patch.replacement
      let others := woven (keptParts text patch.span.stop rest) (rest.map (·.replacement))
      change made ++ others = text.drop place ↔ made <+: text.drop place ∧
        Restores text patch.span.stop (place + made.length) rest
      have further : made <+: text.drop place →
          (others = text.drop (place + made.length) ↔
            Restores text patch.span.stop (place + made.length) rest) := by
        intro begins
        have fits := begins.length_le
        rw [List.length_drop] at fits
        exact induction ascend within (by omega)
      have behind {more : Text} (whole : made ++ more = text.drop place) :
          more = text.drop (place + made.length) := by
        rw [← List.drop_drop, ← whole, List.drop_left]
      constructor
      · intro whole
        have begins : made <+: text.drop place := ⟨others, whole⟩
        exact ⟨begins, (further begins).mp (behind whole)⟩
      · rintro ⟨begins, restores⟩
        obtain ⟨more, whole⟩ := begins
        have same := (further ⟨more, whole⟩).mpr restores
        rw [same, ← behind whole, whole]

theorem apply_eq_self_iff (ascends : patches.Pairwise fun earlier later =>
      earlier.span.start < later.span.start ∧ earlier.span.stop ≤ later.span.start)
    (within : ∀ patch ∈ patches, patch.span.stop ≤ text.length) :
    apply text patches = text ↔ Restores text 0 0 patches := by
  have ascend : Ascend text 0 patches :=
    ascend_of_in_turn (ascends.imp (·.2)) within fun patch _ => Nat.zero_le patch.span.start
  rw [apply_eq_woven (List.Perm.refl _) ascends within,
    ← woven_eq_drop_iff ascend (Nat.zero_le _) (Nat.zero_le _), List.drop_zero]

/-! ## What such patches are like -/

theorem growth_cons (patch : Patch) (rest : List Patch) :
    growth (patch :: rest) = patch.growth + growth rest := by
  rw [growth, List.map_cons, List.sum_cons, growth]

theorem length_made (ascend : Ascend text start (patch :: patches)) :
    ((text.slice start patch.span.start ++ patch.replacement).length : Int) + start =
      patch.span.stop + patch.growth := by
  obtain ⟨behind, within, -⟩ := ascend
  have ordered := patch.span.ordered
  rw [List.length_append, Text.length_slice (by omega), Patch.growth, Span.length]
  omega

theorem Restores.balance (restores : Restores text start place patches)
    (ascend : Ascend text start patches) :
    (place : Int) + growth patches = start := by
  induction patches generalizing start place with
  | nil =>
      rw [Restores] at restores
      simp [growth, restores]
  | cons patch rest induction =>
      have made := length_made ascend
      have further := induction restores.2 ascend.2.2
      rw [growth_cons]
      omega

/-- Where those before it have moved nothing, a patch that changes the text and is put back changes
the length of the text. -/
theorem Restores.grows (restores : Restores text start place patches)
    (ascend : Ascend text start patches) (parts : patches = before ++ patch :: after)
    (unmoved : (place : Int) + growth before = start) (changes : patch.isIdle text = false) :
    patch.growth ≠ 0 := by
  induction before generalizing patches start place with
  | nil =>
      rw [List.nil_append] at parts
      subst parts
      intro kept
      have same : place = start := by simpa [growth] using unmoved
      subst same
      obtain ⟨behind, within, -⟩ := ascend
      have ordered := patch.span.ordered
      have begins := restores.1
      rw [← Text.slice_append_drop behind, List.prefix_append_right_inj,
        List.prefix_iff_eq_take] at begins
      have length : patch.replacement.length = patch.span.stop - patch.span.start := by
        rw [Patch.growth, Span.length] at kept
        omega
      have idle : patch.isIdle text = true := by
        rw [Patch.isIdle, beq_iff_eq, Span.read, Text.slice, ← length, ← begins]
      rw [idle] at changes
      cases changes
  | cons first more induction =>
      rw [List.cons_append] at parts
      subst parts
      have made := length_made ascend
      rw [growth_cons] at unmoved
      exact induction restores.2 ascend.2.2 rfl (by omega)

theorem shortens_and_lengthens (balanced : growth patches = 0) (member : patch ∈ patches)
    (other : patch.growth ≠ 0) :
    (∃ shorter ∈ patches, shorter.growth < 0) ∧ ∃ longer ∈ patches, 0 < longer.growth := by
  constructor
  · by_contra none_shorter
    push Not at none_shorter
    exact other (List.all_zero_of_le_zero_le_of_sum_eq_zero
      (List.forall_mem_map.mpr none_shorter) balanced (List.mem_map_of_mem member))
  · by_contra none_longer
    push Not at none_longer
    have turned : ((patches.map Patch.growth).map fun number => -number).sum = 0 := by
      rw [← List.sum_neg, ← growth, balanced, neg_zero]
    have none_left : ∀ number ∈ (patches.map Patch.growth).map fun number => -number,
        0 ≤ number := by
      simpa using none_longer
    have nothing := List.all_zero_of_le_zero_le_of_sum_eq_zero none_left turned
      (List.mem_map_of_mem (List.mem_map_of_mem member))
    exact other (neg_eq_zero.mp nothing)

end Patching

namespace Profile

/-- That a pass over a document takes some patches and that together they put its text back. -/
structure PutsBack (profile : Profile) (document : Document) : Prop where
  takes : profile.takenIn document ≠ []
  restores : Patching.Restores document.text 0 0 ((profile.takenIn document).map (·.patch))

variable {profile : Profile} {given current next : Document} {count limit : Nat}
  {applied : List Finding}

/-! ## Runs over a text that is put back -/

theorem rewritten_eq_self_iff :
    (profile.rewritten current).text = current.text ↔
      Patching.Restores current.text 0 0 ((profile.takenIn current).map (·.patch)) :=
  Patching.apply_eq_self_iff (Patching.select_ascends _ _) (profile.taken_within current)

theorem Adopts.keeps_iff (adopts : profile.Adopts current next) :
    next.text = current.text ↔ profile.PutsBack current := by
  rw [adopts.text_next, rewritten_eq_self_iff]
  exact ⟨fun restores => ⟨adopts.takes, restores⟩, fun putsBack => putsBack.restores⟩

theorem PutsBack.adopts (putsBack : profile.PutsBack current)
    (reads : profile.parse current.source = .ok current) :
    profile.Adopts current current := by
  have same : profile.rewritten current = current.source := by
    rw [rewritten, show Patching.apply current.text _ =
      current.text from rewritten_eq_self_iff.mpr putsBack.restores]
    rfl
  exact ⟨putsBack.takes, same ▸ reads⟩

theorem PutsBack.passes (putsBack : profile.PutsBack current)
    (reads : profile.parse current.source = .ok current)
    (passes : profile.Passes given count applied current) (further : Nat) :
    ∃ gathered, profile.Passes given (count + further) gathered current := by
  induction further with
  | zero => exact ⟨applied, passes⟩
  | succ further induction =>
      obtain ⟨gathered, passes⟩ := induction
      exact ⟨_, passes.adopt (putsBack.adopts reads)⟩

end Profile

/-- A check that would move the first code point of a text to its end. -/
def DocumentCheck.rotate : DocumentCheck where
  settings := .null
  evaluate := fun context document =>
    match document.text with
    | first :: _ :: _ =>
        let offer (patch : Patch) : Supplied Finding :=
          .proper (context.report (Span.point 0) "rotate" (some patch))
        .ok [offer (.delete (Span.ofLength 0 1)), offer (.insert document.length [first])]
    | _ => .ok []

def Profile.rotating : Profile where
  rules :=
    [⟨"rotate", .document ⟨"rotate", "", .info, true, fun _ => .ok .rotate⟩, .null, none,
      .document .rotate⟩]
  bindings := [⟨"text", Format.plainText⟩]

/-- The patches that a pass takes change the text, unless together they put it back. They do so just
if all that they leave and all that they put in comes to stand where the text reads the same. Then
they make up for one another in length, none of them keeps the length where those before it have
moved nothing, and some shorten the text and some lengthen it. So the next document of a run has
another text, unless the pass puts the text back. And a run that comes to a document whose text the
pass would leave as it is stops there, as nothing is taken, unless the text is put back: then the
same pass is made up to the limit, which the result tells. -/
theorem passes_change_the_text_unless_they_put_it_back :
    (∀ (text : Text) (proposals : List Proposal),
      (∀ proposal ∈ proposals, proposal.patch.span.stop ≤ text.length) →
      Patching.select text proposals ≠ [] →
        let patches := (Patching.select text proposals).map (·.patch)
        (Patching.apply text patches ≠ text ↔ ¬ Patching.Restores text 0 0 patches) ∧
        (Patching.Restores text 0 0 patches →
          Patching.growth patches = 0 ∧
          (∀ before patch after, patches = before ++ patch :: after → Patching.growth before = 0 →
            patch.growth ≠ 0) ∧
          (∃ shorter ∈ patches, shorter.growth < 0) ∧ ∃ longer ∈ patches, 0 < longer.growth)) ∧
    (∀ (profile : Profile) (current next : Document), profile.Adopts current next →
      (next.text ≠ current.text ↔ ¬ profile.PutsBack current)) ∧
    ∀ (profile : Profile) (limit count : Nat) (source : Source) (document current : Document)
        (applied : List Finding),
      profile.parse source = .ok document → profile.Passes document count applied current →
      count ≤ limit →
        (profile.rewritten current).text = current.text →
        ∃ fixed, profile.process limit .fix source = .ok fixed ∧ fixed.document = current ∧
          (¬ profile.PutsBack current → profile.takenIn current = [] ∧ fixed.result.passes = count ∧
            fixed.result.findings = profile.evaluate current) ∧
          (profile.PutsBack current →
            fixed.result.passes = limit ∧ fixed.result.Reports .fixLimit) := by
  refine ⟨?_, ?_, ?_⟩
  · intro text proposals lie takes patches
    have ascends := Patching.select_ascends text proposals
    have within : ∀ patch ∈ patches, patch.span.stop ≤ text.length :=
      List.forall_mem_map.mpr fun proposal member => lie proposal (Patching.mem_select member)
    have ascend : Patching.Ascend text 0 patches :=
      Patching.ascend_of_in_turn (ascends.imp (·.2)) within fun patch _ =>
        Nat.zero_le patch.span.start
    have changes : ∀ patch ∈ patches, patch.isIdle text = false :=
      List.forall_mem_map.mpr fun proposal member => Patching.select_changes member
    refine ⟨not_congr (Patching.apply_eq_self_iff ascends within), ?_⟩
    intro restores
    have balanced : Patching.growth patches = 0 := by
      have balance := restores.balance ascend
      omega
    have grows : ∀ before patch after, patches = before ++ patch :: after →
        Patching.growth before = 0 →
        patch.growth ≠ 0 := by
      intro before patch after parts unmoved
      have member : patch ∈ patches := parts ▸ List.mem_append_right before List.mem_cons_self
      exact restores.grows ascend parts (by omega) (changes patch member)
    -- Nothing stands before the first patch that could have moved it, so it changes the length.
    have some_taken : patches ≠ [] := mt List.map_eq_nil_iff.mp takes
    obtain ⟨first, rest, parts⟩ := List.exists_cons_of_ne_nil some_taken
    have first_grows := grows [] first rest parts rfl
    have first_taken : first ∈ patches := by
      rw [parts]
      exact List.mem_cons_self
    exact ⟨balanced, grows, Patching.shortens_and_lengthens balanced first_taken first_grows⟩
  · intro profile current next adopts
    exact not_congr adopts.keeps_iff
  · intro profile limit count source document current applied parsed passes within kept
    have same := Profile.source_of_parse parsed
    obtain ⟨binding, bound, -⟩ := Profile.bound_of_parse parsed
    subst same
    refine ⟨profile.fix binding limit document, Profile.process_fix limit parsed bound, ?_⟩
    have restores := Profile.rewritten_eq_self_iff.mp kept
    by_cases takes : profile.takenIn current = []
    · obtain ⟨last, result⟩ := Profile.fix_finished bound passes within (.converged takes) (by simp)
      refine ⟨last, ?_, fun putsBack => absurd takes putsBack.takes⟩
      intro _
      rw [result]
      refine ⟨takes, rfl, ?_⟩
      simp only [FixEnding.notices, List.append_nil, Profile.evaluate_arranged]
    · have putsBack : profile.PutsBack current := ⟨takes, restores⟩
      obtain ⟨further, left⟩ := Nat.exists_eq_add_of_le within
      obtain ⟨gathered, all_passes⟩ := putsBack.passes (passes.reads parsed) passes further
      rw [← left] at all_passes
      obtain ⟨last, result⟩ :=
        Profile.fix_finished bound all_passes (Nat.le_refl limit) (.limited takes) (by simp)
      refine ⟨last, fun other => absurd putsBack other,
        fun _ => ⟨?_, Profile.reports_of_limited bound all_passes takes⟩⟩
      rw [result]

/-- In a text of two equal code points the first is taken out and put in at the end. Each of the two
patches would change the text, and both together do not; a run makes this pass until its limit and
leaves the text as it was. -/
theorem rotation_puts_equal_code_points_back :
    let text : Text := ['a', 'a']
    let proposals : List Proposal := [
      ⟨0, ⟨"", .info, Span.point 0, "", none, none⟩, .delete (Span.ofLength 0 1)⟩,
      ⟨0, ⟨"", .info, Span.point 0, "", none, none⟩, .insert 2 ['a']⟩]
    (∀ proposal ∈ proposals, proposal.patch.span.stop ≤ text.length) ∧
      Patching.select text proposals ≠ [] ∧
      Patching.apply text ((Patching.select text proposals).map (·.patch)) = text ∧
      ∃ fixed, Profile.rotating.process 3 .fix ⟨"d", text, "txt"⟩ = .ok fixed ∧
      fixed.result.passes = 3 ∧
        fixed.result.fixedText = none ∧ fixed.result.Reports .fixLimit := by
  intro text proposals
  have takes : (Patching.select text proposals).isEmpty = false := by cbv
  have same : Patching.apply text ((Patching.select text proposals).map (·.patch)) = text := by cbv
  have runs : ∃ fixed, Profile.rotating.process 3 .fix ⟨"d", text, "txt"⟩ = .ok fixed ∧
      fixed.result.passes = 3 ∧
      fixed.result.fixedText = none ∧
      fixed.result.findings.any (fun finding => finding.ruleId == Notice.fixLimit.ruleId) = true :=
    ⟨_, by cbv, by cbv, by cbv, by cbv⟩
  obtain ⟨fixed, processed, passes, unchanged, noticed⟩ := runs
  obtain ⟨finding, found, named⟩ := List.any_eq_true.mp noticed
  exact ⟨by decide, List.isEmpty_eq_false_iff.mp takes, same, fixed, processed, passes, unchanged,
    finding, found, beq_iff_eq.mp named⟩

/-- Where the two code points differ, the same two patches do not put the text back, and the
document that comes of them has another text. Over equal code points the pass is made until the
limit, however large that is. -/
theorem rotation_changes_other_texts :
    let text : Text := ['a', 'b']
    let proposals : List Proposal := [
      ⟨0, ⟨"", .info, Span.point 0, "", none, none⟩, .delete (Span.ofLength 0 1)⟩,
      ⟨0, ⟨"", .info, Span.point 0, "", none, none⟩, .insert 2 ['a']⟩]
    let patches := (Patching.select text proposals).map (·.patch)
    (∀ proposal ∈ proposals, proposal.patch.span.stop ≤ text.length) ∧
      Patching.select text proposals ≠ [] ∧
      Patching.apply text patches ≠ text ∧
      (∃ document next, Profile.rotating.Adopts document next ∧ document.text = text ∧
        next.text ≠ document.text) ∧
      ∀ limit, ∃ document fixed, Profile.rotating.parse ⟨"d", ['a', 'a'], "txt"⟩ = .ok document ∧
        Profile.rotating.PutsBack document ∧
        Profile.rotating.process limit .fix ⟨"d", ['a', 'a'], "txt"⟩ = .ok fixed ∧
        fixed.result.passes = limit ∧
        fixed.result.Reports .fixLimit := by
  intro text proposals patches
  have within : ∀ proposal ∈ proposals, proposal.patch.span.stop ≤ text.length := by decide
  have takes : (Patching.select text proposals).isEmpty = false := by cbv
  have chosen : (Patching.select text proposals).map (·.patch) =
      [.delete (Span.ofLength 0 1), .insert 2 ['a']] := by cbv
  have other : ¬ Patching.Restores text 0 0 [.delete (Span.ofLength 0 1), .insert 2 ['a']] := by
    rintro ⟨-, begins, -⟩
    revert begins
    decide
  have read : ∃ document next, Profile.rotating.parse ⟨"d", text, "txt"⟩ = .ok document ∧
      document.text = text ∧
      (Profile.rotating.takenIn document).map (·.patch) =
        [.delete (Span.ofLength 0 1), .insert 2 ['a']] ∧
      Profile.rotating.parse (Profile.rotating.rewritten document) = .ok next :=
    ⟨_, _, by cbv, by cbv, by cbv, by cbv⟩
  have read_equal : ∃ document, Profile.rotating.parse ⟨"d", ['a', 'a'], "txt"⟩ = .ok document ∧
      (Profile.rotating.takenIn document).isEmpty = false ∧
      (Profile.rotating.rewritten document).text = document.text := ⟨_, by cbv, by cbv, by cbv⟩
  obtain ⟨of_patches, of_passes, of_runs⟩ := passes_change_the_text_unless_they_put_it_back
  obtain ⟨changes, -⟩ := of_patches text proposals within (List.isEmpty_eq_false_iff.mp takes)
  rw [chosen] at changes
  refine ⟨within, List.isEmpty_eq_false_iff.mp takes, ?_, ?_, ?_⟩
  · rw [show patches = _ from chosen]
    exact changes.mpr other
  · obtain ⟨document, next, -, same, taken, parsed⟩ := read
    have some_taken : Profile.rotating.takenIn document ≠ [] := by
      rintro nothing
      rw [nothing] at taken
      cases taken
    have adopts : Profile.rotating.Adopts document next := ⟨some_taken, parsed⟩
    refine ⟨document, next, adopts, same, (of_passes _ document next adopts).mpr ?_⟩
    rintro ⟨-, restores⟩
    rw [same, taken] at restores
    exact other restores
  · intro limit
    obtain ⟨document, parsed, some_taken, kept⟩ := read_equal
    have putsBack : Profile.rotating.PutsBack document :=
      ⟨List.isEmpty_eq_false_iff.mp some_taken, Profile.rewritten_eq_self_iff.mp kept⟩
    obtain ⟨fixed, processed, -, -, goes_on⟩ :=
      of_runs .rotating limit 0 _ document document [] parsed .start (Nat.zero_le limit) kept
    exact ⟨document, fixed, parsed, putsBack, processed, goes_on putsBack⟩

end ProseLinter
