import Mathlib.Data.List.Forall2
import ProseLinter.Profile

/-!
# Profiles that were accepted

A profile is accepted if nothing is wrong with any of its rules and formats. Then each rule that was
asked for is there once, at its place, and would be accepted alone just as well.
-/

namespace ProseLinter

theorem repeated_eq_nil_iff (names : List String) : repeated names = [] ↔ names.Nodup := by
  rw [List.nodup_iff_count, repeated, List.filter_eq_nil_iff]
  constructor
  · intro single name
    by_cases member : name ∈ names
    · have once :=
        single (name, names.count name)
          (List.mem_map.mpr ⟨name, List.mem_eraseDups.mpr member, rfl⟩)
      simpa using once
    · rw [List.count_eq_zero_of_not_mem member]
      exact Nat.zero_le 1
  · intro single entry member
    obtain ⟨name, -, same⟩ := List.mem_map.mp member
    have once := single name
    rw [← same]
    simpa using once

namespace RuleEntry

/-- That an enabled rule is the one asked for by an entry, with the check that it made of the
options asked for. -/
structure Enables (entry : RuleEntry) (rule : EnabledRule) : Prop where
  same_id : rule.id = entry.id
  asked : entry.rule = .proper rule.rule
  same_options : rule.options = entry.options
  same_severity : rule.severity = entry.severity
  prepared : rule.rule.prepare entry.options = .ok rule.check

theorem violations_eq_nil_iff (entry : RuleEntry) :
    entry.violations = [] ↔ entry.id.isEmpty = false ∧ ∃ rule, entry.enable = .ok rule := by
  rw [violations, List.append_eq_nil_iff]
  cases entry.enable with
  | ok rule => simp
  | error violation => simp

theorem enables_iff {entry : RuleEntry} {rule : EnabledRule} :
    entry.enable = .ok rule ↔ entry.Enables rule := by
  constructor
  · intro enabled
    unfold enable at enabled
    split at enabled
    · cases enabled
    next own asked =>
      split at enabled
      next check prepared =>
        cases enabled
        exact ⟨rfl, asked, rfl, rfl, prepared⟩
      · cases enabled
      · cases enabled
  · rintro ⟨same_id, asked, same_options, same_severity, prepared⟩
    simp only [enable, asked, prepared]
    rw [← same_id, ← same_options, ← same_severity]

theorem id_of_enable {entry : RuleEntry} {rule : EnabledRule} (enabled : entry.enable = .ok rule) :
    rule.id = entry.id :=
  (enables_iff.mp enabled).same_id

theorem prepared_of_enable {entry : RuleEntry} {rule : EnabledRule}
    (enabled : entry.enable = .ok rule) :
    entry.rule = .proper rule.rule ∧ rule.rule.prepare rule.options = .ok rule.check := by
  obtain ⟨-, asked, same_options, -, prepared⟩ := enables_iff.mp enabled
  exact ⟨asked, same_options ▸ prepared⟩

end RuleEntry

/-- That a binding is the one asked for by an entry. -/
structure FormatEntry.Binds (entry : FormatEntry) (binding : Binding) : Prop where
  same_id : binding.id = entry.id
  asked : entry.format = .proper binding.format

theorem forall₂_filterMap {Item Made : Type} {make : Item → Option Made} {good : Item → Made → Prop}
    {items : List Item} (each : ∀ item ∈ items, ∃ made, make item = some made ∧ good item made) :
    List.Forall₂ good items (items.filterMap make) := by
  induction items with
  | nil => exact .nil
  | cons first rest induction =>
      obtain ⟨⟨made, same, fine⟩, others⟩ := List.forall_mem_cons.mp each
      rw [List.filterMap_cons_some same]
      exact .cons fine (induction others)

theorem RuleEntry.enables_all {entries : List RuleEntry}
    (each : ∀ entry ∈ entries, ∃ rule, entry.enable = .ok rule) :
    List.Forall₂ RuleEntry.Enables entries
      (entries.filterMap fun entry => entry.enable.toOption) := by
  apply forall₂_filterMap
  intro entry member
  obtain ⟨rule, enabled⟩ := each entry member
  exact ⟨rule, by rw [enabled]; rfl, enables_iff.mp enabled⟩

theorem FormatEntry.binds_iff {entry : FormatEntry} {binding : Binding} :
    entry.binding? = some binding ↔ entry.Binds binding := by
  constructor
  · intro bound
    obtain ⟨format, asked, rfl⟩ := Option.map_eq_some_iff.mp bound
    cases supplied : entry.format with
    | proper own =>
        rw [supplied] at asked
        cases asked
        exact ⟨rfl, supplied⟩
    | other kindName =>
        rw [supplied] at asked
        cases asked
  · rintro ⟨same_id, asked⟩
    rw [binding?, asked, ← same_id]
    rfl

/-- That nothing is wrong with the formats of a profile. -/
structure FormatEntry.Fit (formats : List FormatEntry) : Prop where
  undisputed : Binding.conflicts (formats.filterMap FormatEntry.binding?) = .ok []
  distinct : repeated (formats.map (·.id)) = []
  present : formats.isEmpty = false
  proper : formats.flatMap FormatEntry.violations = []

namespace Profile

variable {entries : List RuleEntry} {formats : List FormatEntry} {configuration : Entries}
  {profile : Profile}

/-- Everything that is wrong with a composition whose formats dispute some kinds. -/
def violationsOf (entries : List RuleEntry) (formats : List FormatEntry)
    (disputes : List Violation) : List Violation :=
  (repeated (entries.map (·.id))).map (fun (id, count) => Violation.duplicateRule id count) ++
    entries.flatMap RuleEntry.violations ++
    (repeated (formats.map (·.id))).map (fun (id, count) => Violation.duplicatePlugin id count) ++
    (if formats.isEmpty then [.noPlugin] else []) ++
    formats.flatMap FormatEntry.violations ++ disputes

theorem build_of_disputes {disputes : List Violation}
    (found : Binding.conflicts (formats.filterMap FormatEntry.binding?) = .ok disputes) :
    build entries formats configuration =
      if (violationsOf entries formats disputes).isEmpty then
        .ok ⟨entries.filterMap fun entry => entry.enable.toOption,
          formats.filterMap FormatEntry.binding?, configuration⟩
      else .error (.composition (violationsOf entries formats disputes)) := by
  rw [build, found]
  rfl

theorem violationsOf_eq_nil_iff {disputes : List Violation} :
    violationsOf entries formats disputes = [] ↔
      (entries.map (·.id)).Nodup ∧ (∀ entry ∈ entries, entry.violations = []) ∧
      repeated (formats.map (·.id)) = [] ∧
        formats.isEmpty = false ∧ formats.flatMap FormatEntry.violations = [] ∧ disputes = [] := by
  rw [violationsOf]
  simp only [List.append_eq_nil_iff, List.map_eq_nil_iff, List.flatMap_eq_nil_iff (l := entries),
    repeated_eq_nil_iff (entries.map _), and_assoc, ite_eq_right_iff, reduceCtorEq, imp_false,
    Bool.not_eq_true]

theorem build_eq_ok_iff :
    build entries formats configuration = .ok profile ↔
      (entries.map (·.id)).Nodup ∧ (∀ entry ∈ entries, entry.violations = []) ∧
      FormatEntry.Fit formats ∧
        profile =
          ⟨entries.filterMap fun entry => entry.enable.toOption,
            formats.filterMap FormatEntry.binding?, configuration⟩ := by
  cases found : Binding.conflicts (formats.filterMap FormatEntry.binding?) with
  | error fault =>
      have refused : build entries formats configuration = .error fault := by
        rw [build, found]
        rfl
      constructor
      · intro accepted
        rw [refused] at accepted
        cases accepted
      · rintro ⟨-, -, fit, -⟩
        have undisputed := fit.undisputed
        rw [found] at undisputed
        cases undisputed
  | ok disputes =>
      rw [build_of_disputes found]
      constructor
      · intro accepted
        split at accepted
        · rename_i spotless
          rw [List.isEmpty_iff, violationsOf_eq_nil_iff] at spotless
          obtain ⟨distinct, clean, formats_distinct, present, proper, undisputed⟩ := spotless
          rw [Except.ok.injEq] at accepted
          exact ⟨distinct, clean, ⟨undisputed ▸ found, formats_distinct, present, proper⟩,
            accepted.symm⟩
        · cases accepted
      · rintro ⟨distinct, clean, fit, same⟩
        have undisputed := fit.undisputed
        rw [found, Except.ok.injEq] at undisputed
        have spotless : violationsOf entries formats disputes = [] :=
          violationsOf_eq_nil_iff.mpr
            ⟨distinct, clean, fit.distinct, fit.present, fit.proper, undisputed⟩
        rw [spotless, same]
        rfl

theorem exists_rule (accepted : build entries formats configuration = .ok profile)
    {entry : RuleEntry} (member : entry ∈ entries) :
    ∃ rule ∈ profile.rules, entry.enable = .ok rule := by
  obtain ⟨-, clean, -, same⟩ := build_eq_ok_iff.mp accepted
  obtain ⟨-, rule, enabled⟩ := entry.violations_eq_nil_iff.mp (clean entry member)
  refine ⟨rule, ?_, enabled⟩
  rw [same]
  exact List.mem_filterMap.mpr ⟨entry, member, by rw [enabled]; rfl⟩

theorem rule_asked (accepted : build entries formats configuration = .ok profile)
    {rule : EnabledRule} (member : rule ∈ profile.rules) :
    ∃ entry ∈ entries, entry.rule = .proper rule.rule ∧
      rule.rule.prepare rule.options = .ok rule.check := by
  obtain ⟨-, -, -, same⟩ := build_eq_ok_iff.mp accepted
  rw [same] at member
  obtain ⟨entry, asked, enabled⟩ := List.mem_filterMap.mp member
  refine ⟨entry, asked, RuleEntry.prepared_of_enable ?_⟩
  cases made : entry.enable with
  | ok other =>
      rw [made] at enabled
      exact congrArg Except.ok (Option.some.inj enabled)
  | error violation =>
      rw [made] at enabled
      cases enabled

theorem binding_asked (accepted : build entries formats configuration = .ok profile)
    {binding : Binding} (member : binding ∈ profile.bindings) :
    ∃ entry ∈ formats, entry.format = .proper binding.format := by
  obtain ⟨-, -, -, same⟩ := build_eq_ok_iff.mp accepted
  rw [same] at member
  obtain ⟨entry, asked, bound⟩ := List.mem_filterMap.mp member
  exact ⟨entry, asked, (FormatEntry.binds_iff.mp bound).asked⟩

theorem rule_ids (accepted : build entries formats configuration = .ok profile) :
    profile.rules.map (·.id) = entries.map (·.id) := by
  obtain ⟨-, clean, -, same⟩ := build_eq_ok_iff.mp accepted
  have enabled :=
    RuleEntry.enables_all fun entry member =>
      (entry.violations_eq_nil_iff.mp (clean entry member)).2
  have alike := enabled.flip.imp fun rule entry enables => enables.same_id
  rw [same, ← List.forall₂_eq_eq_eq, List.forall₂_map_left_iff, List.forall₂_map_right_iff]
  exact alike

theorem rules_distinct (accepted : build entries formats configuration = .ok profile) :
    (profile.rules.map (·.id)).Nodup := by
  rw [rule_ids accepted]
  exact (build_eq_ok_iff.mp accepted).1

theorem ruleOrder_of_place (distinct : (profile.rules.map (·.id)).Nodup) {place : Nat}
    {rule : EnabledRule} (there : profile.rules[place]? = some rule) :
    profile.ruleOrder rule.id = place := by
  obtain ⟨inside, same⟩ := List.getElem?_eq_some_iff.mp there
  rw [ruleOrder, List.findIdx_eq inside]
  refine ⟨by rw [same]; exact beq_self_eq_true _, ?_⟩
  intro earlier before
  rw [beq_eq_false_iff_ne]
  intro alike
  have twice : (profile.rules.map (·.id))[earlier]? = (profile.rules.map (·.id))[place]? := by
    rw [List.getElem?_map, List.getElem?_map, there,
      List.getElem?_eq_getElem (Nat.lt_trans before inside), Option.map_some, Option.map_some,
      alike]
  have some_place : earlier < (profile.rules.map (·.id)).length := by
    rw [List.length_map]
    exact Nat.lt_trans before inside
  exact Nat.ne_of_lt before ((List.getElem?_inj some_place distinct).mp twice)

def alone (profile : Profile) (rule : EnabledRule) : Profile := { profile with rules := [rule] }

theorem build_alone (accepted : build entries formats configuration = .ok profile)
    {entry : RuleEntry} {rule : EnabledRule} (member : entry ∈ entries)
    (enabled : entry.enable = .ok rule) :
    build [entry] formats configuration = .ok (profile.alone rule) := by
  obtain ⟨-, clean, fit, same⟩ := build_eq_ok_iff.mp accepted
  refine build_eq_ok_iff.mpr ⟨by simp, ?_, fit, ?_⟩
  · intro other only
    rw [List.mem_singleton.mp only]
    exact clean entry member
  · rw [same, alone, List.filterMap_cons_some (by rw [enabled]; rfl), List.filterMap_nil]

end Profile

end ProseLinter
