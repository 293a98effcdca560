import ProseLinter.Proofs.Profile.Defects
import ProseLinter.Proofs.Text.LowerCase

/-!
# One format for a kind

An accepted profile was checked for the declared kinds alone, two formats at a time. If its formats
go by their declared kinds, the check reaches every spelling of every kind: what two formats accept
is, in lower case, declared by one and accepted by the other. So a kind has one binding whatever the
order of the formats, and a file extension leads to it.
-/

namespace ProseLinter

/-- That a format accepts a kind just if it declares the kind in lower case. -/
def Format.GoesByKinds (format : Format) : Prop :=
  format.accepts = Format.acceptsKindOf format.kinds

def AllGoByKinds (formats : List FormatEntry) : Prop :=
  ∀ entry ∈ formats, ∀ format, entry.format = .proper format → format.GoesByKinds

/-- That a binding has a kind to offer for a file extension. -/
def Binding.Serves (extension : String) (binding : Binding) : Prop :=
  lowerCase extension ∈ binding.format.extensions ∧ binding.format.kinds ≠ []

section Acceptance

variable {format : Format} {kind : String} {one other : Binding}

theorem Format.GoesByKinds.accepts_iff (byKinds : format.GoesByKinds) :
    format.accepts kind = .ok true ↔ lowerCase kind ∈ format.kinds := by
  rw [byKinds, Format.acceptsKindOf, Except.ok.injEq, List.contains_iff_mem]

theorem Format.GoesByKinds.answers (byKinds : format.GoesByKinds) : format.Answers := by
  intro kind
  rw [byKinds]
  exact ⟨_, rfl⟩

theorem Binding.Dispute.symm (dispute : one.Dispute kind other) : other.Dispute kind one :=
  Or.symm dispute

theorem dispute_of_both (byKinds : one.format.GoesByKinds) (also : other.format.GoesByKinds)
    (here : one.format.accepts kind = .ok true) (there : other.format.accepts kind = .ok true) :
    one.Dispute (lowerCase kind) other := by
  refine .inl ⟨byKinds.accepts_iff.1 here, also.accepts_iff.2 ?_⟩
  rw [lowerCase_lowerCase]
  exact also.accepts_iff.1 there

end Acceptance

/-- Bindings of formats that go by their kinds, of which no two dispute a kind. -/
structure Unambiguous (bindings : List Binding) : Prop where
  byKinds : ∀ binding ∈ bindings, binding.format.GoesByKinds
  undisputed : bindings.Pairwise fun one other => ∀ kind, ¬one.Dispute kind other

section Bindings

variable {bindings others rest : List Binding} {first binding : Binding} {kind extension : String}

theorem Unambiguous.tail (unambiguous : Unambiguous (first :: rest)) : Unambiguous rest :=
  ⟨fun binding member => unambiguous.byKinds binding (List.mem_cons_of_mem first member),
    (List.pairwise_cons.1 unambiguous.undisputed).2⟩

theorem Unambiguous.perm (unambiguous : Unambiguous bindings) (same : bindings.Perm others) :
    Unambiguous others :=
  ⟨fun binding member => unambiguous.byKinds binding (same.mem_iff.2 member),
    (same.pairwise_iff fun apart kind dispute => apart kind dispute.symm).1 unambiguous.undisputed⟩

/-- A kind is looked up in order, and yet the one binding that accepts it is found wherever it
stands. -/
theorem first_accepting_iff (unambiguous : Unambiguous bindings) :
    Profile.firstAccepting kind bindings = .ok binding ↔
      binding ∈ bindings ∧ binding.format.accepts kind = .ok true := by
  induction bindings with
  | nil => simp [Profile.firstAccepting]
  | cons first rest induction =>
      have byKinds := unambiguous.byKinds first List.mem_cons_self
      obtain ⟨fits, own⟩ := byKinds.answers kind
      cases fits with
      | true =>
          have found : Profile.firstAccepting kind (first :: rest) = .ok first := by
            rw [Profile.firstAccepting, own]
            rfl
          rw [found, Except.ok.injEq]
          constructor
          · rintro rfl
            exact ⟨List.mem_cons_self, own⟩
          · rintro ⟨member, accepts⟩
            rcases List.mem_cons.1 member with same | later
            · exact same.symm
            · have also := unambiguous.byKinds binding member
              exact absurd (dispute_of_both byKinds also own accepts)
                ((List.pairwise_cons.1 unambiguous.undisputed).1 binding later _)
      | false =>
          have passed : Profile.firstAccepting kind (first :: rest) =
              Profile.firstAccepting kind rest := by
            rw [Profile.firstAccepting, own]
            rfl
          rw [passed, induction unambiguous.tail, List.mem_cons, or_and_right]
          refine ⟨.inr, ?_⟩
          rintro (⟨rfl, accepts⟩ | later)
          · simp [own] at accepts
          · exact later

theorem first_accepting_or_none (answers : ∀ binding ∈ bindings, binding.format.Answers)
    (kind : String) :
    (∃ binding, Profile.firstAccepting kind bindings = .ok binding) ∨
      Profile.firstAccepting kind bindings = .error (.unsupportedKind kind) := by
  induction bindings with
  | nil => exact .inr rfl
  | cons first rest induction =>
      obtain ⟨own, others⟩ := List.forall_mem_cons.1 answers
      obtain ⟨fits, accepts⟩ := own kind
      rw [Profile.firstAccepting, accepts]
      cases fits with
      | true => exact .inl ⟨first, rfl⟩
      | false => exact induction others

theorem first_accepting_perm (unambiguous : Unambiguous bindings) (same : bindings.Perm others)
    (kind : String) :
    Profile.firstAccepting kind others = Profile.firstAccepting kind bindings := by
  have also := unambiguous.perm same
  have found_iff (binding : Binding) :
      Profile.firstAccepting kind others = .ok binding ↔
        Profile.firstAccepting kind bindings = .ok binding := by
    rw [first_accepting_iff also, first_accepting_iff unambiguous, same.mem_iff]
  rcases first_accepting_or_none
    (fun binding member => (unambiguous.byKinds binding member).answers) kind with
    ⟨binding, found⟩ | missing
  · rw [found, (found_iff binding).2 found]
  · rcases first_accepting_or_none
      (fun binding member => (also.byKinds binding member).answers) kind with
      ⟨binding, found⟩ | missing_too
    · rw [found, (found_iff binding).1 found]
    · rw [missing, missing_too]

theorem not_both_accept (unambiguous : Unambiguous bindings) {here there : Nat}
    {one other : Binding} (before : here < there) (stands : bindings[here]? = some one)
    (stands_too : bindings[there]? = some other) (accepts : one.format.accepts kind = .ok true) :
    ¬other.format.accepts kind = .ok true := by
  intro accepts_too
  have byKinds := unambiguous.byKinds one (List.mem_of_getElem? stands)
  have also := unambiguous.byKinds other (List.mem_of_getElem? stands_too)
  obtain ⟨inside, rfl⟩ := List.getElem?_eq_some_iff.1 stands
  obtain ⟨inside_too, rfl⟩ := List.getElem?_eq_some_iff.1 stands_too
  exact List.pairwise_iff_getElem.1 unambiguous.undisputed here there inside inside_too before _
    (dispute_of_both byKinds also accepts accepts_too)

theorem same_place_of_accept (unambiguous : Unambiguous bindings) {here there : Nat}
    {one other : Binding} (stands : bindings[here]? = some one)
    (stands_too : bindings[there]? = some other) (accepts : one.format.accepts kind = .ok true)
    (accepts_too : other.format.accepts kind = .ok true) : here = there := by
  rcases Nat.lt_trichotomy here there with before | same | behind
  · exact absurd accepts_too (not_both_accept unambiguous before stands stands_too accepts)
  · exact same
  · exact absurd accepts (not_both_accept unambiguous behind stands_too stands accepts_too)

theorem first_serving (found : (bindings.findSome? fun binding =>
      if binding.format.extensions.contains (lowerCase extension) then binding.format.kinds.head?
      else none) = some kind) :
    ∃ before binding after, bindings = before ++ binding :: after ∧
    (∀ earlier ∈ before, ¬earlier.Serves extension) ∧
      binding.Serves extension ∧ binding.format.kinds.head? = some kind := by
  obtain ⟨before, binding, after, whole, offered, passed⟩ := List.findSome?_eq_some_iff.1 found
  rw [Option.ite_none_right_eq_some, List.contains_iff_mem] at offered
  obtain ⟨listed, head⟩ := offered
  refine ⟨before, binding, after, whole, ?_,
    ⟨listed, List.ne_nil_of_mem (List.mem_of_mem_head? head)⟩, head⟩
  rintro earlier member ⟨listed_too, some_kind⟩
  have nothing := passed earlier member
  rw [if_pos (List.contains_iff_mem.2 listed_too), List.head?_eq_none_iff] at nothing
  exact some_kind nothing

end Bindings

section Profiles

variable {entries : List RuleEntry} {formats others : List FormatEntry} {configuration : Entries}
  {profile : Profile}

theorem unambiguous_of_formats (byKinds : AllGoByKinds formats)
    (well : WellComposed entries formats) :
    Unambiguous (formats.filterMap FormatEntry.binding?) := by
  refine ⟨fun binding member => ?_, well.undisputed⟩
  obtain ⟨entry, asked, bound⟩ := List.mem_filterMap.1 member
  exact byKinds entry asked _ (FormatEntry.binds_iff.1 bound).asked

theorem answers_of_byKinds (byKinds : AllGoByKinds formats) : AllAnswer formats :=
  fun entry member format asked => (byKinds entry member format asked).answers

theorem WellComposed.perm (well : WellComposed entries formats) (same : formats.Perm others) :
    WellComposed entries others where
  named := well.named
  distinct := well.distinct
  prepared := well.prepared
  some_format := fun nothing => well.some_format (List.perm_nil.1 (nothing ▸ same))
  formats_distinct := (same.map _).nodup_iff.1 well.formats_distinct
  proper := fun entry member => well.proper entry (same.mem_iff.2 member)
  undisputed :=
    ((same.filterMap _).pairwise_iff fun apart kind dispute => apart kind dispute.symm).1
      well.undisputed

/-- If the formats of an accepted profile go by their declared kinds, no kind, however it is spelt,
is accepted by two of its bindings. So the binding of a kind and the reading of a source are those
of the profile with its formats in any other order. And if the kinds are declared in lower case, the
kind for a file extension is bound to the first binding that lists the extension and has a kind. -/
theorem kinds_have_one_binding (built : Profile.build entries formats configuration = .ok profile)
    (byKinds : AllGoByKinds formats) :
    (∀ (kind : String) (here there : Nat) (one other : Binding),
      profile.bindings[here]? = some one →
        profile.bindings[there]? = some other → one.format.accepts kind = .ok true →
        other.format.accepts kind = .ok true →
        here = there) ∧
      (∀ others, formats.Perm others →
        ∃ another, Profile.build entries others configuration = .ok another ∧
        (∀ kind, another.bindingFor kind = profile.bindingFor kind) ∧
        ∀ source, another.parse source = profile.parse source) ∧
      ((∀ binding ∈ profile.bindings, ∀ kind ∈ binding.format.kinds, lowerCase kind = kind) →
        ∀ extension kind, profile.kindForExtension extension = some kind →
          ∃ before binding after, profile.bindings = before ++ binding :: after ∧
            (∀ earlier ∈ before, ¬earlier.Serves extension) ∧ binding.Serves extension ∧
            binding.format.kinds.head? = some kind ∧ profile.bindingFor kind = .ok binding) := by
  have well := well_composed_of_build (answers_of_byKinds byKinds) built
  have unambiguous := unambiguous_of_formats byKinds well
  rw [build_of_well_composed configuration (answers_of_byKinds byKinds) well,
    Except.ok.injEq] at built
  subst built
  refine ⟨?_, ?_, ?_⟩
  · intro kind here there one other stands stands_too accepts accepts_too
    exact same_place_of_accept unambiguous stands stands_too accepts accepts_too
  · intro others same
    have also : AllGoByKinds others := fun entry member => byKinds entry (same.mem_iff.2 member)
    refine ⟨_, build_of_well_composed configuration (answers_of_byKinds also) (well.perm same), ?_⟩
    have bound (kind : String) :=
      first_accepting_perm unambiguous (same.filterMap FormatEntry.binding?) kind
    refine ⟨bound, fun source => ?_⟩
    rw [Profile.parse, Profile.parse, Profile.bindingFor, Profile.bindingFor, bound]
  · intro lower extension kind found
    obtain ⟨before, binding, after, whole, passed, serves, head⟩ := first_serving found
    refine ⟨before, binding, after, whole, passed, serves, head, ?_⟩
    have member : binding ∈ formats.filterMap FormatEntry.binding? := by
      rw [show formats.filterMap FormatEntry.binding? = _ from whole]
      exact List.mem_append_right before List.mem_cons_self
    have declared := List.mem_of_mem_head? head
    apply (first_accepting_iff unambiguous).2
      ⟨member, (unambiguous.byKinds binding member).accepts_iff.2 ?_⟩
    rw [lower binding member kind declared]
    exact declared

end Profiles

/-- Whichever of the built-in formats comes first, a kind has its binding, and an extension in
capitals leads to Markdown. -/
theorem markdown_is_found_in_either_order :
    ∃ profile another,
      Profile.build [] [⟨"markdown", .proper (.markdown true)⟩, ⟨"text", .proper .plainText⟩]
      [] = .ok profile ∧
      Profile.build [] [⟨"text", .proper .plainText⟩, ⟨"markdown", .proper (.markdown true)⟩]
      [] = .ok another ∧
      (∀ kind, another.bindingFor kind = profile.bindingFor kind) ∧
      profile.kindForExtension ".MD" = some "markdown" ∧
      ∃ binding, binding.format.kinds.head? = some "markdown" ∧ binding.Serves ".MD" ∧
        profile.bindingFor "markdown" = .ok binding := by
  have byKinds :
      AllGoByKinds [⟨"markdown", .proper (.markdown true)⟩, ⟨"text", .proper .plainText⟩] := by
    refine List.forall_mem_cons.2 ⟨?_, List.forall_mem_singleton.2 ?_⟩
    · rintro format ⟨rfl⟩
      rfl
    · rintro format ⟨rfl⟩
      rfl
  have evaluated : ∃ profile,
      Profile.build [] [⟨"markdown", .proper (.markdown true)⟩, ⟨"text", .proper .plainText⟩] [] =
      .ok profile ∧ profile.kindForExtension ".MD" = some "markdown" ∧
      ∀ binding ∈ profile.bindings, ∀ kind ∈ binding.format.kinds, lowerCase kind = kind := by
    refine ⟨⟨[], [⟨"markdown", .markdown true⟩, ⟨"text", .plainText⟩], []⟩, by cbv, by cbv, ?_⟩
    refine List.forall_mem_cons.2
      ⟨List.forall_mem_cons.2 ⟨by cbv, List.forall_mem_singleton.2 (by cbv)⟩, ?_⟩
    exact List.forall_mem_singleton.2
      (List.forall_mem_cons.2 ⟨by cbv, List.forall_mem_singleton.2 (by cbv)⟩)
  obtain ⟨profile, built, named, lower⟩ := evaluated
  obtain ⟨-, reordered, served⟩ := kinds_have_one_binding built byKinds
  obtain ⟨another, rebuilt, same, -⟩ := reordered _ (List.Perm.swap _ _ [])
  obtain ⟨before, binding, after, -, -, serves, head, bound⟩ := served lower ".MD" "markdown" named
  exact ⟨profile, another, built, rebuilt, same, named, binding, head, serves, bound⟩

end ProseLinter
