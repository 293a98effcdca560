import Mathlib
import ProseLinter.Proofs.Evaluation.Vetting
import ProseLinter.Proofs.Profile.Build
import ProseLinter.Rule.Emoji

/-!
# Everything that is wrong with a composition

What can be wrong with a composition is said here without the checks: an id that is shared, a rule
or a format at its place, a kind that two bindings dispute. The list of violations is then put
together from parts, and each part tells of the defects of its own sort, one violation each. So no
defect hides another, and a composition without any is accepted as it was asked for.
-/

namespace ProseLinter

/-- One thing that is wrong with a composition, and where. Bindings are counted without the entries
that bind nothing. -/
inductive Defect where
  | sharedRuleId (id : String)
  | unnamedRule (place : Nat)
  | unusableRule (place : Nat)
  | badOptions (place : Nat)
  | sharedFormatId (id : String)
  | noFormat
  | unusableFormat (place : Nat)
  | disputedKind (kind : String) (first second : Nat)
deriving Repr, DecidableEq

/-- That one of two bindings declares a kind and the other accepts it. -/
def Binding.Dispute (kind : String) (first second : Binding) : Prop :=
  (kind ∈ first.format.kinds ∧ second.format.accepts kind = .ok true) ∨
    (kind ∈ second.format.kinds ∧ first.format.accepts kind = .ok true)

/-- What is wrong with the rule asked for at a place, and the violation that tells of it. -/
inductive RuleEntry.Defective (entry : RuleEntry) (place : Nat) : Defect → Violation → Prop
  | unnamed (empty : entry.id = "") : Defective entry place (.unnamedRule place) .emptyRuleId
  | unusable (kindName : String) (other : entry.rule = .other kindName) :
      Defective entry place (.unusableRule place) (.notARule entry.id kindName)
  | refused (rule : Rule) (own : Option String) (fault : OptionFault)
      (asked : entry.rule = .proper rule)
      (stopped : rule.prepare entry.options = .error (.options own fault)) :
      Defective entry place (.badOptions place) (.invalidOptions entry.id fault)
  | failed (rule : Rule) (fault : Fault) (asked : entry.rule = .proper rule)
      (stopped : rule.prepare entry.options = .error fault)
      (unlike : ∀ own cause, fault ≠ .options own cause) :
      Defective entry place (.badOptions place) (.optionCheckFailed entry.id fault.message)

/-- What is wrong with the format asked for at a place, and the violation that tells of it. -/
inductive FormatEntry.Defective (entry : FormatEntry) (place : Nat) : Defect → Violation → Prop
  | unusable (kindName : String) (other : entry.format = .other kindName) :
      Defective entry place (.unusableFormat place) (.notAPlugin entry.id kindName)

/-- What two of the bindings dispute, counted from a place on, and the violation that tells of
it. -/
inductive Binding.Disputed (bindings : List Binding) (place : Nat) : Defect → Violation → Prop
  | between (kind : String) (first second : Nat) (one other : Binding) (before : first < second)
      (there : bindings[first]? = some one) (also : bindings[second]? = some other)
      (dispute : one.Dispute kind other) :
      Disputed bindings place (.disputedKind kind (place + first) (place + second))
        (.kindConflict kind one.id other.id)

/-- The defects of a composition, each with the violation that tells of it. -/
inductive Defective (entries : List RuleEntry) (formats : List FormatEntry) :
    Defect → Violation → Prop
  | sharedRuleId (id : String) (shared : 1 < (entries.map (·.id)).count id) :
      Defective entries formats (.sharedRuleId id)
        (.duplicateRule id ((entries.map (·.id)).count id))
  | ofRule (place : Nat) (entry : RuleEntry) (defect : Defect) (violation : Violation)
      (there : entries[place]? = some entry) (own : entry.Defective place defect violation) :
      Defective entries formats defect violation
  | sharedFormatId (id : String) (shared : 1 < (formats.map (·.id)).count id) :
      Defective entries formats (.sharedFormatId id)
        (.duplicatePlugin id ((formats.map (·.id)).count id))
  | noFormat (nothing : formats = []) : Defective entries formats .noFormat .noPlugin
  | ofFormat (place : Nat) (entry : FormatEntry) (defect : Defect) (violation : Violation)
      (there : formats[place]? = some entry) (own : entry.Defective place defect violation) :
      Defective entries formats defect violation
  | ofBindings (defect : Defect) (violation : Violation)
      (disputed : Binding.Disputed (formats.filterMap FormatEntry.binding?) 0 defect violation) :
      Defective entries formats defect violation

def Undisputed (formats : List FormatEntry) : Prop :=
  (formats.filterMap FormatEntry.binding?).Pairwise fun one other => ∀ kind, ¬one.Dispute kind other

/-- A composition without a defect, said as one asks for it. -/
structure WellComposed (entries : List RuleEntry) (formats : List FormatEntry) : Prop where
  named : ∀ entry ∈ entries, entry.id ≠ ""
  distinct : (entries.map (·.id)).Nodup
  prepared : ∀ entry ∈ entries, ∃ rule, entry.rule = .proper rule ∧
    ∃ check, rule.prepare entry.options = .ok check
  some_format : formats ≠ []
  formats_distinct : (formats.map (·.id)).Nodup
  proper : ∀ entry ∈ formats, ∃ format, entry.format = .proper format
  undisputed : Undisputed formats

/-- That a format answers for every kind whether it accepts it. -/
def Format.Answers (format : Format) : Prop := ∀ kind, ∃ fits, format.accepts kind = .ok fits

/-! ## Lists that tell of defects -/

/-- That violations tell of the defects of some sort: each of them of one, and each defect at a
place of its own. -/
def Tells (violations : List Violation) (sort : Defect → Violation → Prop) : Prop :=
  ∃ told : List (Defect × Violation), told.map (·.2) = violations ∧
    ∀ defect violation, (defect, violation) ∈ told ↔ sort defect violation

section Telling

variable {violations more : List Violation} {sort other : Defect → Violation → Prop}

theorem tells_nothing (none : ∀ defect violation, ¬sort defect violation) : Tells [] sort :=
  ⟨[], rfl, fun defect violation => iff_of_false List.not_mem_nil (none defect violation)⟩

theorem tells_one {defect : Defect} {violation : Violation} (own : sort defect violation)
    (only : ∀ named told, sort named told → named = defect ∧ told = violation) :
    Tells [violation] sort := by
  refine ⟨[(defect, violation)], rfl, fun named told => ?_⟩
  rw [List.mem_singleton, Prod.mk.injEq]
  constructor
  · rintro ⟨rfl, rfl⟩
    exact own
  · exact only named told

theorem Tells.append (front : Tells violations sort) (back : Tells more other) :
    Tells (violations ++ more) fun defect violation => sort defect violation ∨
      other defect violation := by
  obtain ⟨told, rfl, exact_front⟩ := front
  obtain ⟨later, rfl, exact_back⟩ := back
  refine ⟨told ++ later, List.map_append, fun defect violation => ?_⟩
  rw [List.mem_append, exact_front, exact_back]

theorem Tells.congr (tells : Tells violations sort)
    (same : ∀ defect violation, sort defect violation ↔ other defect violation) :
    Tells violations other := by
  obtain ⟨told, spelt, exactly⟩ := tells
  exact ⟨told, spelt, fun defect violation =>
    (exactly defect violation).trans (same defect violation)⟩

theorem Tells.eq_nil_iff (tells : Tells violations sort) :
    violations = [] ↔ ∀ defect violation, ¬sort defect violation := by
  obtain ⟨told, rfl, exactly⟩ := tells
  rw [List.map_eq_nil_iff, List.eq_nil_iff_forall_not_mem]
  constructor
  · intro none defect violation own
    exact none (defect, violation) ((exactly defect violation).2 own)
  · intro none entry member
    exact none entry.1 entry.2 ((exactly entry.1 entry.2).1 member)

theorem tells_each {Item : Type} {items : List Item} {parts : List (List Violation)}
    {sort : Nat → Item → Defect → Violation → Prop}
    (related : List.Forall₂ (fun item part => ∀ place, Tells part (sort place item)) items parts)
    (offset : Nat) :
    Tells parts.flatten fun defect violation =>
      ∃ place item, items[place]? = some item ∧ sort (offset + place) item defect violation := by
  induction related generalizing offset with
  | nil => exact tells_nothing fun defect violation ⟨place, item, there, _⟩ => by simp at there
  | cons own _ induction =>
      refine ((own offset).append (induction (offset + 1))).congr fun defect violation => ?_
      constructor
      · rintro (here | ⟨place, item, there, later⟩)
        · exact ⟨0, _, rfl, here⟩
        · exact ⟨place + 1, item, there, by rwa [← Nat.add_assoc, Nat.add_right_comm]⟩
      · rintro ⟨place, item, there, told⟩
        cases place with
        | zero =>
            cases there
            exact .inl told
        | succ place => exact .inr ⟨place, item, there, by rwa [Nat.add_right_comm, Nat.add_assoc]⟩

theorem tells_flatMap {Item : Type} {tell : Item → List Violation}
    {sort : Nat → Item → Defect → Violation → Prop}
    (each : ∀ item place, Tells (tell item) (sort place item)) (items : List Item) :
    Tells (items.flatMap tell) fun defect violation =>
      ∃ place item, items[place]? = some item ∧ sort place item defect violation := by
  have related : List.Forall₂ (fun item part => ∀ place, Tells part (sort place item)) items
      (items.map tell) := by
    rw [List.forall₂_map_right_iff]
    exact List.forall₂_same.2 fun item _ => each item
  have told := tells_each related 0
  simp only [Nat.zero_add] at told
  exact told

end Telling

/-! ## The parts of the list -/

section Parts

theorem mem_repeated {names : List String} {name : String} {count : Nat} :
    (name, count) ∈ repeated names ↔ 1 < names.count name ∧ count = names.count name := by
  simp only [repeated, List.mem_filter, List.mem_map, List.mem_eraseDups, Prod.mk.injEq,
    decide_eq_true_eq]
  constructor
  · rintro ⟨⟨_, -, rfl, rfl⟩, several⟩
    exact ⟨several, rfl⟩
  · rintro ⟨several, rfl⟩
    exact ⟨⟨name, List.count_pos_iff.1 (Nat.zero_lt_of_lt several), rfl, rfl⟩, several⟩

theorem repeated_tells (names : List String) (defect : String → Defect)
    (tell : String → Nat → Violation) :
    Tells ((repeated names).map fun (name, count) => tell name count) fun named told =>
      ∃ name, 1 < names.count name ∧ named = defect name ∧ told = tell name (names.count name) := by
  refine ⟨(repeated names).map fun entry => (defect entry.1, tell entry.1 entry.2), ?_,
    fun named told => ?_⟩
  · rw [List.map_map]
    rfl
  · simp only [List.mem_map, Prod.mk.injEq, Prod.exists]
    constructor
    · rintro ⟨name, count, member, rfl, rfl⟩
      obtain ⟨several, rfl⟩ := mem_repeated.1 member
      exact ⟨name, several, rfl, rfl⟩
    · rintro ⟨name, several, rfl, rfl⟩
      exact ⟨name, names.count name, mem_repeated.2 ⟨several, rfl⟩, rfl, rfl⟩

theorem unnamed_tells (entry : RuleEntry) (place : Nat) :
    Tells (if entry.id.isEmpty then [Violation.emptyRuleId] else []) fun defect violation =>
      entry.id = "" ∧ defect = .unnamedRule place ∧ violation = .emptyRuleId := by
  split
  next empty => exact tells_one ⟨String.isEmpty_iff.1 empty, rfl, rfl⟩ fun _ _ same => same.2
  next named => exact tells_nothing fun _ _ same => named (String.isEmpty_iff.2 same.1)

/-- At most one thing keeps a rule from being enabled. -/
theorem RuleEntry.Defective.unique {entry : RuleEntry} {place : Nat} {defect other : Defect}
    {violation told : Violation} (own : entry.Defective place defect violation)
    (keeps : defect ≠ .unnamedRule place) (also : entry.Defective place other told)
    (keeps_too : other ≠ .unnamedRule place) :
    other = defect ∧ told = violation := by
  cases own with
  | unnamed => exact absurd rfl keeps
  | unusable kindName asked =>
      cases also with
      | unnamed => exact absurd rfl keeps_too
      | unusable => simp_all
      | refused => simp_all
      | failed => simp_all
  | refused rule owner fault asked stopped =>
      cases also with
      | unnamed => exact absurd rfl keeps_too
      | unusable => simp_all
      | refused => simp_all
      | failed other fault again stopped_too unlike =>
          cases asked.symm.trans again
          exact absurd (Except.error.inj (stopped_too.symm.trans stopped)) (unlike _ _)
  | failed rule fault asked stopped unlike =>
      cases also with
      | unnamed => exact absurd rfl keeps_too
      | unusable => simp_all
      | refused other owner cause again stopped_too =>
          cases asked.symm.trans again
          exact absurd (Except.error.inj (stopped.symm.trans stopped_too)) (unlike _ _)
      | failed => simp_all

theorem keeps_of_enable {entry : RuleEntry} {violation : Violation}
    (stopped : entry.enable = .error violation) (place : Nat) :
    ∃ defect, defect ≠ .unnamedRule place ∧ entry.Defective place defect violation := by
  unfold RuleEntry.enable at stopped
  split at stopped
  next kindName asked =>
    cases stopped
    exact ⟨_, Defect.noConfusion, .unusable kindName asked⟩
  next rule asked =>
    split at stopped
    next check prepared => cases stopped
    next owner cause prepared =>
      cases stopped
      exact ⟨_, Defect.noConfusion, .refused rule owner cause asked prepared⟩
    next fault unlike prepared =>
      cases stopped
      exact ⟨_, Defect.noConfusion, .failed rule fault asked prepared unlike⟩

theorem unnamed_of_enable {entry : RuleEntry} {rule : EnabledRule} (enabled : entry.Enables rule)
    {place : Nat} {defect : Defect} {violation : Violation}
    (own : entry.Defective place defect violation) :
    defect = .unnamedRule place := by
  cases own with
  | unnamed => rfl
  | unusable kindName other => simp [enabled.asked] at other
  | refused _ owner cause asked stopped =>
      cases enabled.asked.symm.trans asked
      simp [enabled.prepared] at stopped
  | failed _ fault asked stopped =>
      cases enabled.asked.symm.trans asked
      simp [enabled.prepared] at stopped

theorem disabled_tells (entry : RuleEntry) (place : Nat) :
    Tells (match entry.enable with | .ok _ => [] | .error violation => [violation])
      fun defect violation =>
        entry.Defective place defect violation ∧ defect ≠ .unnamedRule place := by
  cases enabled : entry.enable with
  | ok rule =>
      exact tells_nothing fun _ _ kept =>
        kept.2 (unnamed_of_enable (RuleEntry.enables_iff.1 enabled) kept.1)
  | error violation =>
      obtain ⟨defect, keeps, own⟩ := keeps_of_enable enabled place
      exact tells_one ⟨own, keeps⟩ fun _ _ also => own.unique keeps also.1 also.2

theorem rule_tells (entry : RuleEntry) (place : Nat) :
    Tells entry.violations (entry.Defective place) := by
  refine ((unnamed_tells entry place).append
    (disabled_tells entry place)).congr fun defect violation => ?_
  constructor
  · rintro (⟨unnamed, rfl, rfl⟩ | ⟨own, -⟩)
    · exact .unnamed unnamed
    · exact own
  · intro own
    by_cases keeps : defect = .unnamedRule place
    · subst keeps
      cases own with
      | unnamed unnamed => exact .inl ⟨unnamed, rfl, rfl⟩
    · exact .inr ⟨own, keeps⟩

theorem format_tells (entry : FormatEntry) (place : Nat) :
    Tells entry.violations (entry.Defective place) := by
  unfold FormatEntry.violations
  split
  next format asked =>
    apply tells_nothing
    rintro defect violation ⟨kindName, other⟩
    rw [asked] at other
    cases other
  next kindName asked =>
    apply tells_one (.unusable kindName asked)
    rintro defect violation ⟨other, named⟩
    rw [asked] at named
    cases named
    exact ⟨rfl, rfl⟩

/-! ## Disputed kinds -/

theorem accepted_of_answers {format : Format} (answers : format.Answers) (kinds : List String) :
    ∃ taken, Binding.accepted format kinds = .ok taken ∧
      ∀ kind, kind ∈ taken ↔ kind ∈ kinds ∧ format.accepts kind = .ok true := by
  induction kinds with
  | nil => exact ⟨[], rfl, fun kind => by simp⟩
  | cons first rest induction =>
      obtain ⟨taken, others, exactly⟩ := induction
      obtain ⟨fits, own⟩ := answers first
      refine ⟨if fits then first :: taken else taken,
        by rw [Binding.accepted, own, others]; rfl, fun kind => ?_⟩
      rw [List.mem_cons, or_and_right, ← exactly kind]
      cases fits with
      | true =>
          rw [if_pos rfl, List.mem_cons]
          exact or_congr_left ⟨fun same => ⟨same, same ▸ own⟩, And.left⟩
      | false =>
          rw [if_neg Bool.false_ne_true]
          refine ⟨.inr, ?_⟩
          rintro (⟨rfl, accepted⟩ | taken)
          · simp [own] at accepted
          · exact taken

theorem disputed_of_answers {first second : Binding} (one : first.format.Answers)
    (other : second.format.Answers) :
    ∃ kinds, Binding.disputed first second = .ok kinds ∧ ∀ kind, kind ∈ kinds ↔
      first.Dispute kind second := by
  obtain ⟨here, accepted_here, exact_here⟩ := accepted_of_answers other first.format.kinds
  obtain ⟨there, accepted_there, exact_there⟩ := accepted_of_answers one second.format.kinds
  refine ⟨_, by rw [Binding.disputed, accepted_here, accepted_there]; rfl, fun kind => ?_⟩
  rw [Binding.Dispute, ← exact_here, ← exact_there, List.mem_append, List.mem_filter]
  by_cases member : kind ∈ here <;> simp [member]

theorem pair_tells {first second : Binding} (one : first.format.Answers)
    (other : second.format.Answers) (place : Nat) :
    ∃ part, (do return (← Binding.disputed first second).map fun kind =>
      Violation.kindConflict kind first.id second.id) =
        Except.ok (ε := Fault) part ∧
      ∀ at_place, Tells part fun defect violation => ∃ kind, first.Dispute kind second ∧
        defect = .disputedKind kind place at_place ∧
        violation = .kindConflict kind first.id second.id := by
  obtain ⟨kinds, found, exactly⟩ := disputed_of_answers one other
  refine ⟨_, by rw [found]; rfl, fun at_place => ?_⟩
  refine ⟨kinds.map fun kind =>
    (.disputedKind kind place at_place, .kindConflict kind first.id second.id), ?_, ?_⟩
  · rw [List.map_map]
    rfl
  · intro defect violation
    simp only [List.mem_map, Prod.mk.injEq, exactly]
    constructor
    · rintro ⟨kind, dispute, rfl, rfl⟩
      exact ⟨kind, dispute, rfl, rfl⟩
    · rintro ⟨kind, dispute, rfl, rfl⟩
      exact ⟨kind, dispute, rfl, rfl⟩

/-- The first of the bindings disputes something with a later one, or two later ones do. -/
theorem disputed_cons {first : Binding} {rest : List Binding} {place : Nat} {defect : Defect}
    {violation : Violation} :
    Binding.Disputed (first :: rest) place defect violation ↔
      (∃ later second, rest[later]? = some second ∧ ∃ kind, first.Dispute kind second ∧
        defect = .disputedKind kind place (place + 1 + later) ∧
        violation = .kindConflict kind first.id second.id) ∨
      Binding.Disputed rest (place + 1) defect violation := by
  have behind : ∀ later, place + 1 + later = place + (later + 1) := fun later => by omega
  constructor
  · rintro ⟨kind, one, two, binding, other, before, there, also, dispute⟩
    obtain ⟨later, rfl⟩ := Nat.exists_eq_add_one_of_ne_zero (Nat.ne_zero_of_lt before)
    cases one with
    | zero =>
        cases there
        exact .inl ⟨later, other, also, kind, dispute, by rw [behind]; rfl, rfl⟩
    | succ one =>
        rw [← behind one, ← behind later]
        exact .inr (.between kind one later binding other
          (Nat.lt_of_succ_lt_succ before) there also dispute)
  · rintro (⟨later, second, there, kind, dispute, rfl, rfl⟩ | ⟨kind, one, two, binding, other,
      before, there, also, dispute⟩)
    · rw [behind]
      exact .between kind 0 (later + 1) first second (Nat.succ_pos later) rfl there dispute
    · rw [behind, behind]
      exact .between kind (one + 1) (two + 1) binding other
        (Nat.succ_lt_succ before) there also dispute

theorem conflicts_tell {bindings : List Binding}
    (answers : ∀ binding ∈ bindings, binding.format.Answers) (place : Nat) :
    ∃ disputes, Binding.conflicts bindings = .ok disputes ∧
      Tells disputes (Binding.Disputed bindings place) := by
  induction bindings generalizing place with
  | nil =>
      refine ⟨[], rfl, tells_nothing ?_⟩
      rintro defect violation ⟨kind, first, second, one, other, before, there, also, dispute⟩
      simp at there
  | cons first rest induction =>
      obtain ⟨own, others⟩ := List.forall_mem_cons.1 answers
      obtain ⟨parts, mapped, related⟩ :=
        mapM_of_pairs fun second member => pair_tells own (others second member) place
      obtain ⟨disputes, found, later⟩ := induction others (place + 1)
      refine ⟨parts.flatten ++ disputes, by rw [Binding.conflicts, mapped, found]; rfl, ?_⟩
      exact ((tells_each related (place + 1)).append later).congr fun defect violation =>
        disputed_cons.symm

/-! ## The whole list -/

theorem violations_tell {entries : List RuleEntry} {formats : List FormatEntry}
    {disputes : List Violation}
    (disputed : Tells disputes (Binding.Disputed (formats.filterMap FormatEntry.binding?) 0)) :
    Tells (Profile.violationsOf entries formats disputes) (Defective entries formats) := by
  have rule_ids := repeated_tells (entries.map (·.id)) .sharedRuleId .duplicateRule
  have format_ids := repeated_tells (formats.map (·.id)) .sharedFormatId .duplicatePlugin
  have missing :
      Tells (if formats.isEmpty then [Violation.noPlugin] else []) fun defect violation =>
      formats = [] ∧ defect = .noFormat ∧ violation = .noPlugin := by
    split
    next empty => exact tells_one ⟨List.isEmpty_iff.1 empty, rfl, rfl⟩ fun _ _ same => same.2
    next some_format => exact tells_nothing fun _ _ same => some_format (List.isEmpty_iff.2 same.1)
  refine (((((rule_ids.append (tells_flatMap rule_tells entries)).append format_ids).append
    missing).append (tells_flatMap format_tells formats)).append
      disputed).congr fun defect violation => ?_
  constructor
  · rintro (((((⟨id, several, rfl, rfl⟩ | ⟨place, entry, there, own⟩) | ⟨id, several, rfl,
      rfl⟩) | ⟨nothing, rfl, rfl⟩) |
      ⟨place, entry, there, own⟩) | dispute)
    · exact .sharedRuleId id several
    · exact .ofRule place entry _ _ there own
    · exact .sharedFormatId id several
    · exact .noFormat nothing
    · exact .ofFormat place entry _ _ there own
    · exact .ofBindings _ _ dispute
  · intro own
    cases own with
    | sharedRuleId id several => exact .inl (.inl (.inl (.inl (.inl ⟨id, several, rfl, rfl⟩))))
    | ofRule place entry _ _ there own =>
        exact .inl (.inl (.inl (.inl (.inr ⟨place, entry, there, own⟩))))
    | sharedFormatId id several => exact .inl (.inl (.inl (.inr ⟨id, several, rfl, rfl⟩)))
    | noFormat nothing => exact .inl (.inl (.inr ⟨nothing, rfl, rfl⟩))
    | ofFormat place entry _ _ there own => exact .inl (.inr ⟨place, entry, there, own⟩)
    | ofBindings _ _ dispute => exact .inr dispute

end Parts

section Judgement

variable {entries : List RuleEntry} {formats : List FormatEntry} {configuration : Entries}

theorem undisputed_iff :
    Undisputed formats ↔
      ∀ defect violation, ¬Binding.Disputed
        (formats.filterMap FormatEntry.binding?) 0 defect violation := by
  rw [Undisputed, List.pairwise_iff_getElem]
  constructor
  · rintro apart defect violation ⟨kind, first, second, one, other, before, there, also, dispute⟩
    obtain ⟨inside, rfl⟩ := List.getElem?_eq_some_iff.1 there
    obtain ⟨inside_too, rfl⟩ := List.getElem?_eq_some_iff.1 also
    exact apart first second inside inside_too before kind dispute
  · intro none first second inside inside_too before kind dispute
    exact none _ _ (.between kind first second _ _ before (List.getElem?_eq_getElem inside)
      (List.getElem?_eq_getElem inside_too) dispute)

theorem clean_of_well_composed (well : WellComposed entries formats) (defect : Defect)
    (violation : Violation) :
    ¬Defective entries formats defect violation := by
  intro own
  cases own with
  | sharedRuleId id shared =>
      exact absurd (List.nodup_iff_count.1 well.distinct id) (Nat.not_le.2 shared)
  | ofRule place entry _ _ there own =>
      have member := List.mem_of_getElem? there
      obtain ⟨rule, asked, check, prepared⟩ := well.prepared entry member
      have enabled : entry.Enables ⟨entry.id, rule, entry.options, entry.severity, check⟩ :=
        ⟨rfl, asked, rfl, rfl, prepared⟩
      obtain rfl := unnamed_of_enable enabled own
      cases own with
      | unnamed empty => exact well.named entry member empty
  | sharedFormatId id shared =>
      exact absurd (List.nodup_iff_count.1 well.formats_distinct id) (Nat.not_le.2 shared)
  | noFormat nothing => exact well.some_format nothing
  | ofFormat place entry _ _ there own =>
      obtain ⟨format, asked⟩ := well.proper entry (List.mem_of_getElem? there)
      obtain ⟨kindName, other⟩ := own
      rw [asked] at other
      cases other
  | ofBindings _ _ dispute => exact undisputed_iff.1 well.undisputed _ _ dispute

/-- Each condition on a composition is there to keep one sort of defect away. -/
theorem well_composed_of_clean
    (clean : ∀ defect violation, ¬Defective entries formats defect violation) :
    WellComposed entries formats where
  named := by
    intro entry member empty
    obtain ⟨place, there⟩ := List.getElem?_of_mem member
    exact clean _ _ (.ofRule place entry _ _ there (.unnamed empty))
  distinct :=
    List.nodup_iff_count.2 fun id => Nat.not_lt.1 fun shared => clean _ _ (.sharedRuleId id shared)
  prepared := by
    intro entry member
    obtain ⟨place, there⟩ := List.getElem?_of_mem member
    cases enabled : entry.enable with
    | ok rule =>
        exact ⟨_, (RuleEntry.enables_iff.1 enabled).asked, _,
          (RuleEntry.enables_iff.1 enabled).prepared⟩
    | error violation =>
        obtain ⟨defect, -, own⟩ := keeps_of_enable enabled place
        exact absurd (.ofRule place entry _ _ there own) (clean defect violation)
  some_format := fun nothing => clean _ _ (.noFormat nothing)
  formats_distinct :=
    List.nodup_iff_count.2 fun id => Nat.not_lt.1 fun shared =>
      clean _ _ (.sharedFormatId id shared)
  proper := by
    intro entry member
    obtain ⟨place, there⟩ := List.getElem?_of_mem member
    cases asked : entry.format with
    | proper format => exact ⟨format, rfl⟩
    | other kindName =>
        exact absurd (.ofFormat place entry _ _ there (.unusable kindName asked)) (clean _ _)
  undisputed := undisputed_iff.2 fun defect violation dispute => clean _ _ (.ofBindings _ _ dispute)

theorem conflict_iff {defect : Defect} {violation : Violation}
    (own : Defective entries formats defect violation) :
    violation.isConflict = true ↔ Binding.Disputed
      (formats.filterMap FormatEntry.binding?) 0 defect violation := by
  cases own with
  | ofBindings _ _ dispute => exact iff_of_true (by cases dispute; rfl) dispute
  | ofRule _ _ _ _ _ own => cases own <;> exact iff_of_false Bool.false_ne_true nofun
  | ofFormat _ _ _ _ _ own => cases own; exact iff_of_false Bool.false_ne_true nofun
  | _ => exact iff_of_false Bool.false_ne_true nofun

/-- That every format asked for answers for every kind whether it accepts it. -/
def AllAnswer (formats : List FormatEntry) : Prop :=
  ∀ entry ∈ formats, ∀ format, entry.format = .proper format → format.Answers

theorem build_by_violations (configuration : Entries) (answers : AllAnswer formats) :
    ∃ disputes, Tells (Profile.violationsOf entries formats disputes) (Defective entries formats) ∧
      Profile.build entries formats configuration =
        if (Profile.violationsOf entries formats disputes).isEmpty then
          .ok ⟨entries.filterMap fun entry => entry.enable.toOption,
            formats.filterMap FormatEntry.binding?, configuration⟩
        else .error (.composition (Profile.violationsOf entries formats disputes)) := by
  have bound : ∀ binding ∈ formats.filterMap FormatEntry.binding?, binding.format.Answers := by
    intro binding member
    obtain ⟨entry, asked, binds⟩ := List.mem_filterMap.1 member
    exact answers entry asked _ (FormatEntry.binds_iff.1 binds).asked
  obtain ⟨disputes, found, disputed⟩ := conflicts_tell bound 0
  exact ⟨disputes, violations_tell disputed, Profile.build_of_disputes found⟩

theorem build_of_well_composed (configuration : Entries) (answers : AllAnswer formats)
    (well : WellComposed entries formats) :
    Profile.build entries formats configuration =
      .ok ⟨entries.filterMap fun entry => entry.enable.toOption,
        formats.filterMap FormatEntry.binding?, configuration⟩ := by
  obtain ⟨disputes, whole, built⟩ := build_by_violations configuration answers
  rw [built, whole.eq_nil_iff.2 (clean_of_well_composed well)]
  rfl

theorem kind_of_told {told : List (Defect × Violation)}
    (exactly : ∀ defect violation, (defect, violation) ∈ told ↔
      Defective entries formats defect violation) :
    (¬Undisputed formats → (Fault.composition (told.map (·.2))).kind = "DuplicatePluginError") ∧
      (Undisputed formats → (Fault.composition (told.map (·.2))).kind =
        "DescriptorValidationError") := by
  have conflict : (told.map (·.2)).any (·.isConflict) = true ↔ ¬Undisputed formats := by
    simp only [List.any_map, List.any_eq_true, Function.comp_apply, Prod.exists, undisputed_iff,
      not_forall, not_not]
    constructor
    · rintro ⟨defect, violation, member, conflict⟩
      exact ⟨defect, violation, (conflict_iff ((exactly defect violation).1 member)).1 conflict⟩
    · rintro ⟨defect, violation, dispute⟩
      have own : Defective entries formats defect violation := .ofBindings defect violation dispute
      exact ⟨defect, violation, (exactly defect violation).2 own, (conflict_iff own).2 dispute⟩
  exact ⟨fun disputed => if_pos (conflict.2 disputed),
    fun undisputed => if_neg fun found => conflict.1 found undisputed⟩

theorem build_of_defective (configuration : Entries) (answers : AllAnswer formats)
    (defective : ¬WellComposed entries formats) :
    ∃ told : List (Defect × Violation),
      Profile.build entries formats configuration = .error (.composition (told.map (·.2))) ∧
        ∀ defect violation, (defect, violation) ∈ told ↔
          Defective entries formats defect violation := by
  obtain ⟨disputes, whole, built⟩ := build_by_violations configuration answers
  have some_violation : Profile.violationsOf entries formats disputes ≠ [] := fun nothing =>
    defective (well_composed_of_clean (whole.eq_nil_iff.1 nothing))
  obtain ⟨told, spelt, exactly⟩ := whole
  refine ⟨told, ?_, exactly⟩
  rw [built, spelt, if_neg (mt List.isEmpty_iff.1 some_violation)]

theorem well_composed_of_build (answers : AllAnswer formats) {profile : Profile}
    (built : Profile.build entries formats configuration = .ok profile) :
    WellComposed entries formats := by
  by_contra defective
  obtain ⟨told, refused, -⟩ := build_of_defective configuration answers defective
  rw [refused] at built
  cases built

theorem enables_each (well : WellComposed entries formats) :
    List.Forall₂ RuleEntry.Enables entries
      (entries.filterMap fun entry => entry.enable.toOption) := by
  apply RuleEntry.enables_all
  intro entry member
  obtain ⟨rule, asked, check, prepared⟩ := well.prepared entry member
  exact ⟨⟨entry.id, rule, entry.options, entry.severity, check⟩,
    RuleEntry.enables_iff.2 ⟨rfl, asked, rfl, rfl, prepared⟩⟩

theorem binds_each (well : WellComposed entries formats) :
    List.Forall₂ FormatEntry.Binds formats (formats.filterMap FormatEntry.binding?) := by
  apply forall₂_filterMap
  intro entry member
  obtain ⟨format, asked⟩ := well.proper entry member
  have binds : entry.Binds ⟨entry.id, format⟩ := ⟨rfl, asked⟩
  exact ⟨_, FormatEntry.binds_iff.2 binds, binds⟩

/-- A composition is accepted just if nothing is wrong with it, and then the profile holds its rules
and formats as they were asked for and in their order, each rule with the check its options give.
Otherwise everything that is wrong with it is told at once: the violations are told one each of its
defects, and the fault is one of disputed kinds just if some are. -/
theorem compositions_are_judged_exactly (answers : AllAnswer formats) :
    ((∃ profile, Profile.build entries formats configuration = .ok profile) ↔
      WellComposed entries formats) ∧
      (∀ profile, Profile.build entries formats configuration = .ok profile →
        List.Forall₂ RuleEntry.Enables entries profile.rules ∧
          List.Forall₂ FormatEntry.Binds formats profile.bindings ∧
          profile.configuration = configuration) ∧
      (¬WellComposed entries formats → ∃ told : List (Defect × Violation),
        Profile.build entries formats configuration = .error (.composition (told.map (·.2))) ∧
          (∀ defect violation, (defect, violation) ∈ told ↔
            Defective entries formats defect violation) ∧
          (¬Undisputed formats → (Fault.composition (told.map (·.2))).kind =
            "DuplicatePluginError") ∧
          (Undisputed formats → (Fault.composition (told.map (·.2))).kind =
            "DescriptorValidationError")) := by
  refine ⟨⟨?_, fun well => ⟨_, build_of_well_composed configuration answers well⟩⟩, ?_, ?_⟩
  · rintro ⟨profile, built⟩
    exact well_composed_of_build answers built
  · intro profile built
    have well := well_composed_of_build answers built
    rw [build_of_well_composed configuration answers well, Except.ok.injEq] at built
    rw [← built]
    exact ⟨enables_each well, binds_each well, rfl⟩
  · intro defective
    obtain ⟨told, refused, exactly⟩ := build_of_defective configuration answers defective
    exact ⟨told, refused, exactly, kind_of_told exactly⟩

end Judgement

/-- Plain text that declares a kind of Markdown as well, which it does not accept itself. -/
def Format.overclaiming : Format := { Format.plainText with kinds := ["text", "MD"] }

/-- A rule that is none and has no name, one with options it refuses, and a kind that two formats
claim in letters of different case: all of it is told at once. -/
theorem four_defects_are_told_at_once :
    ∃ told : List (Defect × Violation),
      Profile.build
          [⟨"", .other "object", .null, none⟩,
            ⟨"no-emoji", .proper (.document Emoji.rule), .string "bad", none⟩]
          [⟨"markdown", .proper (.markdown true)⟩, ⟨"text", .proper .overclaiming⟩] [] =
        .error (.composition (told.map (·.2))) ∧
      (.unnamedRule 0, .emptyRuleId) ∈ told ∧ (.unusableRule 0, .notARule "" "object") ∈ told ∧
      (.badOptions 1, .invalidOptions "no-emoji" .notATable) ∈ told ∧
      (.disputedKind "MD" 0 1, .kindConflict "MD" "markdown" "text") ∈ told ∧
      (Fault.composition (told.map (·.2))).kind = "DuplicatePluginError" := by
  have answers :
      AllAnswer [⟨"markdown", .proper (.markdown true)⟩, ⟨"text", .proper .overclaiming⟩] := by
    refine List.forall_mem_cons.2 ⟨?_, List.forall_mem_singleton.2 ?_⟩
    · rintro format ⟨rfl⟩ kind
      exact ⟨_, rfl⟩
    · rintro format ⟨rfl⟩ kind
      exact ⟨_, rfl⟩
  have claimed : Binding.Dispute "MD" ⟨"markdown", .markdown true⟩ ⟨"text", .overclaiming⟩ :=
    .inr ⟨by decide, by cbv⟩
  have dispute : Binding.Disputed [⟨"markdown", .markdown true⟩, ⟨"text", .overclaiming⟩] 0
      (.disputedKind "MD" 0 1) (.kindConflict "MD" "markdown" "text") :=
    .between "MD" 0 1 _ _ Nat.one_pos rfl rfl claimed
  obtain ⟨told, refused, exactly, disputed, -⟩ := (compositions_are_judged_exactly answers).2.2
    fun well => well.named ⟨"", .other "object", .null, none⟩ List.mem_cons_self rfl
  refine ⟨told, refused, ?_, ?_, ?_, ?_,
    disputed fun undisputed => undisputed_iff.1 undisputed _ _ dispute⟩
  · exact (exactly _ _).2 (.ofRule 0 _ _ _ rfl (.unnamed rfl))
  · exact (exactly _ _).2 (.ofRule 0 _ _ _ rfl (.unusable "object" rfl))
  · exact (exactly _ _).2 (.ofRule 1 _ _ _ rfl (.refused _ _ .notATable rfl (by cbv)))
  · exact (exactly _ _).2 (.ofBindings _ _ dispute)

end ProseLinter
