import ProseLinter.Proofs.Configuration.LongNumbers
import ProseLinter.Proofs.Attempt
import ProseLinter.Proofs.Profile.Defects

/-!
# How configurations fail

Whatever the table of a configuration holds, each of its settings is read or refused as malformed,
but for three cases that are told in other words: a message would have to show a whole number of too
many digits, a list of presets holds something that cannot be a name, or a timeout in whole seconds
is beyond the range of floating-point numbers.
-/

namespace ProseLinter

/-- The faults that a configuration with the given table tells of: it is malformed, or a number in
it is too long to be shown. -/
inductive Fault.Tells (whole : Value) : Fault → Prop
  | malformed (cause : ConfigurationFault) : Tells whole (.configuration cause)
  | tooLong (long : whole.HoldsLong) : Tells whole .numberTooLong

namespace Configuration

variable {α : Type} {whole value setting : Value} {key : Key} {name ruleId : String}
  {entries settings merged : Entries}
  {switches : List (Key × Value)} {configuration : Configuration} {registry : Registry}

theorem fail_fails (cause : ConfigurationFault) :
    FailsAs (Fault.Tells whole) (fail (α := α) cause) :=
  .error (.malformed cause)

theorem refuse_fails (shape : SettingShape) (within : value.Within whole) :
    FailsAs (Fault.Tells whole) (refuse (α := α) shape value) := by
  rw [refuse]
  split
  · exact fail_fails _
  next unwritable =>
    rw [Bool.not_eq_true] at unwritable
    exact .error (.tooLong ((Value.long_of_unwritable unwritable).of_within within))

theorem nameOf_fails (within : key.value.Within whole) :
    FailsAs (Fault.Tells whole) (nameOf key) := by
  rw [nameOf]
  split
  · exact .ok _
  next unwritable =>
    rw [Bool.not_eq_true] at unwritable
    exact .error (.tooLong ((Value.long_of_unwritable_key unwritable).of_within within))

theorem lookUps_fails (configuration : Configuration) :
    FailsAs (Fault.Tells whole) configuration.lookUps := by
  rw [lookUps]
  split
  · exact .ok _
  · exact fail_fails _

theorem registry_lookUp_fails {what : Capability} {table : Table String α} :
    FailsAs (Fault.Tells whole) (Registry.lookUp what table name) := by
  rw [Registry.lookUp]
  split
  · exact .ok _
  · exact .error (.malformed _)

/-! ## Single settings -/

theorem positiveInteger_fails (configuration : Configuration) (key : String) (fallback : Int) :
    FailsAs (Fault.Tells (.table configuration.entries))
    (configuration.positiveInteger key fallback) := by
  rw [positiveInteger]
  split
  · exact .ok _
  next n found =>
    split
    · exact refuse_fails _ (Value.get?_within found)
    · exact .ok _
  next value _ found => exact refuse_fails _ (Value.get?_within found)

theorem formatter_fails (configuration : Configuration) :
    FailsAs (Fault.Tells (.table configuration.entries)) configuration.formatter := by
  rw [formatter]
  split
  · exact .ok _
  next name found =>
    split
    · exact refuse_fails _ (Value.get?_within found)
    · exact .ok _
  next value _ found => exact refuse_fails _ (Value.get?_within found)

/-- That the timeout is a whole number of seconds for which there is no floating-point number. -/
def HasBoundlessTimeout (configuration : Configuration) : Prop :=
  ∃ n, configuration.entries.get? "timeout" = some (.int n) ∧ 0 < n ∧ floatOfInt? n = none

theorem timeout_fails (configuration : Configuration) :
    FailsAs (fun fault => Fault.Tells (.table configuration.entries) fault ∨
      fault = .timeoutTooLarge ∧ configuration.HasBoundlessTimeout) configuration.timeout := by
  rw [timeout]
  split
  · exact .ok _
  · exact .ok _
  next n found =>
    split
    · exact (refuse_fails _ (Value.get?_within found)).mono fun _ => .inl
    next positive =>
      split
      · exact .ok _
      next boundless => exact .error (.inr ⟨rfl, n, found, Int.not_le.mp positive, boundless⟩)
  next x found =>
    split
    · exact (refuse_fails _ (Value.get?_within found)).mono fun _ => .inl
    · exact .ok _
  next value _ _ _ found => exact (refuse_fails _ (Value.get?_within found)).mono fun _ => .inl

theorem timeout_of_boundless (boundless : configuration.HasBoundlessTimeout) :
    configuration.timeout = .error .timeoutTooLarge := by
  obtain ⟨n, found, positive, none_there⟩ := boundless
  simp [timeout, found, none_there, Int.not_le.mpr positive]

/-! ## Presets and rules -/

/-- That the presets are a list in which something cannot be a name, as a list or a table cannot. -/
def ListsNoName (configuration : Configuration) : Prop :=
  ∃ listed names, configuration.entries.get? "presets" = some listed ∧ listed.untied = .list names ∧
    ∃ name ∈ names, (Value.unhashable? name).isSome

/-- The faults of reading the presets and of all that goes on from there. -/
def PresetFault (configuration : Configuration) (fault : Fault) : Prop :=
  Fault.Tells (.table configuration.entries) fault ∨
    (∃ kindName, fault = .unhashable kindName) ∧ configuration.ListsNoName

theorem setting_within (configuration : Configuration) (key : String) (fallback : Value)
    (plain : fallback.Within (.table configuration.entries)) :
    (((configuration.entries.get? key).getD fallback).untied).Within
      (.table configuration.entries) := by
  cases found : configuration.entries.get? (key : Key) with
  | none => exact (Value.untied_within _).trans plain
  | some value => exact (Value.untied_within value).trans (Value.get?_within found)

theorem switchedOn_within {keys : List Key} (each : ∀ key ∈ keys, key.value.Within whole) :
    (Value.table (switchedOn keys)).Within whole :=
  Value.merge_within Value.empty_within (Value.switches_within each)

theorem switchOn_within (names : List String) :
    (Value.table (Registry.switchOn names)).Within whole := by
  have same : Registry.switchOn names = (names.map Key.text).map fun key => (key, .bool true) := by
    rw [List.map_map]
    rfl
  rw [same]
  apply Value.switches_within
  intro key member
  obtain ⟨name, -, rfl⟩ := List.mem_map.mp member
  exact Value.text_within

theorem key_of_name_within (within : value.Within whole) :
    (value.key?.getD (.text value.written)).value.Within whole := by
  cases value with
  | list _ | pair _ _ | set _ | table _ | knot _ _ => exact Value.text_within
  | _ => exact within

theorem default_presets_within : (Value.record [(defaultPreset, .bool true)]).Within whole :=
  switchOn_within [defaultPreset]

theorem presetSwitches_fails (configuration : Configuration) :
    FailsAs configuration.PresetFault configuration.presetSwitches := by
  rw [presetSwitches]
  split
  · exact .ok _
  next names listed =>
    split
    next kindName found =>
      obtain ⟨name, member, own⟩ := List.exists_of_findSome?_eq_some found
      refine .error (.inr ⟨⟨kindName, rfl⟩, ?_⟩)
      cases given : configuration.entries.get? "presets" with
      | none =>
          rw [given] at listed
          cases listed
      | some value =>
          rw [given] at listed
          exact ⟨value, names, given, listed, name, member, by rw [own]; rfl⟩
    · exact .ok _
  · exact (fail_fails _).mono fun _ => .inl

theorem presetSwitches_of_no_name (lists : configuration.ListsNoName) :
    ∃ kindName, configuration.presetSwitches = .error (.unhashable kindName) := by
  obtain ⟨listed, names, given, spelt, name, member, part⟩ := lists
  cases found : names.findSome? (·.unhashable?) with
  | none =>
      rw [List.findSome?_eq_none_iff.mp found name member] at part
      cases part
  | some kindName =>
      exact ⟨kindName, by simp only [presetSwitches, given, Option.getD_some, spelt, found]⟩

theorem presetSwitches_within (read : configuration.presetSwitches = .ok settings) :
    (Value.table settings).Within (.table configuration.entries) := by
  have within := setting_within configuration "presets" _ default_presets_within
  rw [presetSwitches] at read
  split at read
  next entries asked =>
    cases read
    exact asked ▸ within
  next names asked =>
    rw [asked] at within
    split at read
    · cases read
    · cases read
      apply switchedOn_within
      intro key member
      obtain ⟨name, known, rfl⟩ := List.mem_map.mp member
      exact key_of_name_within ((Value.item_within known).trans within)
  · cases read

theorem ruleTable_fails (configuration : Configuration) :
    FailsAs (Fault.Tells whole) configuration.ruleTable := by
  rw [ruleTable]
  split
  · exact .ok _
  · exact fail_fails _

theorem ruleTable_within (read : configuration.ruleTable = .ok settings) :
    (Value.table settings).Within (.table configuration.entries) := by
  have within := setting_within configuration "rules" _ Value.empty_within
  rw [ruleTable] at read
  split at read
  next entries asked =>
    cases read
    exact asked ▸ within
  · cases read

theorem name_within {entry : Key × Value}
    (within : (Value.table (entry :: switches)).Within whole) :
    entry.1.value.Within whole :=
  (Value.key_within List.mem_cons_self).trans within

theorem registry_lookUp_mem {what : Capability} {table : Table String α} {thing : α}
    (found : Registry.lookUp what table name = .ok thing) : ∃ known, (known, thing) ∈ table := by
  rw [Registry.lookUp] at found
  split at found
  next own there =>
    cases found
    exact Table.mem_of_get? there
  · cases found

theorem preset_within (found : Registry.builtin.preset name = .ok settings) :
    (Value.table settings).Within whole := by
  obtain ⟨known, member⟩ := registry_lookUp_mem found
  simp only [Registry.builtin, List.mem_cons, Prod.mk.injEq, List.not_mem_nil, or_false] at member
  rcases member with ⟨-, rfl⟩ | ⟨-, rfl⟩
  · exact switchOn_within _
  · exact switchOn_within _

theorem expand_fails (configuration : Configuration)
    (within : (Value.table switches).Within whole) :
    FailsAs (Fault.Tells whole) (configuration.expand settings switches) := by
  fun_induction expand configuration settings switches with
  | case1 settings => exact .ok _
  | case2 settings key rest induction =>
      exact (lookUps_fails _).bind fun _ _ => (nameOf_fails (name_within within)).bind fun _ _ =>
        registry_lookUp_fails.bind fun preset _ => induction preset (Value.rest_within.trans within)
  | case3 settings key rest induction => exact induction (Value.rest_within.trans within)
  | case4 settings key switch rest on off =>
      exact (nameOf_fails (name_within within)).bind fun _ _ => fail_fails _

/-- What the presets come to holds no number of its own: in the built-in ones nothing but names are
switched on. -/
theorem expand_within (builtIn : configuration.registry = some .builtin)
    (within : (Value.table settings).Within whole)
    (expanded : configuration.expand settings switches = .ok merged) :
    (Value.table merged).Within whole := by
  fun_induction expand configuration settings switches with
  | case1 settings =>
      cases expanded
      exact within
  | case2 settings key rest induction =>
      obtain ⟨registry, known, expanded⟩ := ok_of_bind expanded
      rw [lookUps, builtIn, Except.ok.injEq] at known
      subst known
      obtain ⟨name, -, expanded⟩ := ok_of_bind expanded
      obtain ⟨preset, found, expanded⟩ := ok_of_bind expanded
      exact induction preset (Value.merge_within within (preset_within found)) expanded
  | case3 settings key rest induction => exact induction within expanded
  | case4 settings key switch rest on off =>
      obtain ⟨name, -, expanded⟩ := ok_of_bind expanded
      cases expanded

/-! ## The members that are made of these -/

theorem ruleSettings_fails (configuration : Configuration) :
    FailsAs configuration.PresetFault configuration.ruleSettings := by
  refine (presetSwitches_fails configuration).bind fun presets read => ?_
  refine ((ruleTable_fails configuration).mono fun _ => .inl).bind fun rules _ => ?_
  exact ((expand_fails configuration (presetSwitches_within read)).mono fun _ =>
    .inl).bind fun _ _ => .ok _

theorem ruleSettings_within (builtIn : configuration.registry = some .builtin)
    (read : configuration.ruleSettings = .ok settings) :
    (Value.table settings).Within (.table configuration.entries) := by
  obtain ⟨presets, -, read⟩ := ok_of_bind read
  obtain ⟨rules, asked, read⟩ := ok_of_bind read
  obtain ⟨expanded, made, read⟩ := ok_of_bind read
  cases read
  exact Value.merge_within (expand_within builtIn Value.empty_within made) (ruleTable_within asked)

theorem severityOf_fails (ruleId : String) (value : Value) :
    FailsAs (Fault.Tells whole) (severityOf ruleId value) := by
  rw [severityOf]
  split
  · exact .ok _
  · exact fail_fails _

theorem splitSetting_fails (ruleId : String) (within : setting.Within whole) :
    FailsAs (Fault.Tells whole) (splitSetting ruleId setting) := by
  rw [splitSetting]
  split
  · exact .ok _
  · exact .ok _
  · exact (severityOf_fails ruleId _).bind fun _ _ => .ok _
  · dsimp only
    split
    · exact .ok _
    · exact ((severityOf_fails ruleId _).map some).bind fun _ _ => .ok _
  · exact refuse_fails _ within

theorem ruleUnder_fails (registry : Registry) (key : Key) :
    FailsAs (Fault.Tells whole) (ruleUnder registry key) := by
  rw [ruleUnder.eq_def]
  split
  · exact registry_lookUp_fails
  · exact fail_fails _

theorem entriesOf_fails (registry : Registry) (within : (Value.table switches).Within whole) :
    FailsAs (Fault.Tells whole) (entriesOf registry switches) := by
  fun_induction entriesOf registry switches with
  | case1 => exact .ok _
  | case2 key rest induction => exact induction (Value.rest_within.trans within)
  | case3 key setting rest on induction =>
      have here : (key, setting) ∈ (key, setting) :: rest := List.mem_cons_self
      have setting_within := (Value.value_within here).trans within
      exact (nameOf_fails (name_within within)).bind fun ruleId _ =>
        (splitSetting_fails ruleId setting_within).bind fun _ _ =>
          (ruleUnder_fails registry key).bind fun _ _ =>
            (induction (Value.rest_within.trans within)).bind fun _ _ => .ok _

theorem ruleEntries_fails (builtIn : configuration.registry = some .builtin) :
    FailsAs configuration.PresetFault configuration.ruleEntries := by
  refine ((lookUps_fails configuration).mono fun _ => .inl).bind fun registry _ => ?_
  refine (ruleSettings_fails configuration).bind fun settings read => ?_
  exact (entriesOf_fails registry (ruleSettings_within builtIn read)).mono fun _ => .inl

theorem formatSwitches_fails (configuration : Configuration) (registry : Registry) :
    FailsAs (Fault.Tells (.table configuration.entries))
    (configuration.formatSwitches registry) := by
  have within := setting_within configuration "plugins" .null nofun
  rw [formatSwitches]
  split
  · exact .ok _
  next names asked =>
    rw [asked] at within
    refine FailsAs.bind (FailsAs.mapM fun name member => ?_) fun _ _ => .ok _
    rw [formatKey]
    split
    · exact .ok _
    next unwritable =>
      rw [Bool.not_eq_true] at unwritable
      have long := Value.long_of_unwritable unwritable
      exact .error (.tooLong (long.of_within ((Value.item_within member).trans within)))
  · exact .ok _
  · exact fail_fails _

theorem formatSwitches_within (read : configuration.formatSwitches registry = .ok settings) :
    (Value.table settings).Within (.table configuration.entries) := by
  have within := setting_within configuration "plugins" .null nofun
  rw [formatSwitches] at read
  split at read
  · cases read
    exact switchOn_within _
  next names asked =>
    obtain ⟨keys, made, read⟩ := ok_of_bind read
    cases read
    apply switchedOn_within
    intro key member
    obtain ⟨name, -, named⟩ := exists_left (mapM_ok made) member
    rw [formatKey] at named
    split at named
    · cases named
      exact Value.text_within
    · cases named
  next entries asked =>
    cases read
    exact asked ▸ within
  · cases read

theorem makeFormat_fails (registry : Registry) (name : String) (options : Entries) :
    FailsAs (Fault.Tells whole) (registry.makeFormat name options) := by
  refine registry_lookUp_fails.bind fun make _ => ?_
  split
  · exact .ok _
  · exact .error (.malformed _)

theorem formatUnder_fails (registry : Registry) (key : Key) (options : Entries) :
    FailsAs (Fault.Tells whole) (formatUnder registry key options) := by
  rw [formatUnder.eq_def]
  split
  · exact makeFormat_fails registry _ options
  · exact fail_fails _

theorem bindingsOf_fails (registry : Registry) (within : (Value.table switches).Within whole) :
    FailsAs (Fault.Tells whole) (bindingsOf registry switches) := by
  fun_induction bindingsOf registry switches with
  | case1 => exact .ok _
  | case2 key rest induction => exact induction (Value.rest_within.trans within)
  | case3 key switch rest on induction =>
      refine (nameOf_fails (name_within within)).bind fun name _ => ?_
      have made (options : Entries) :
          FailsAs (Fault.Tells whole) (formatUnder registry key options) :=
        formatUnder_fails registry key options
      have bound (options : Entries) := (made options).bind fun format _ =>
        (induction (Value.rest_within.trans within)).bind fun others _ =>
          .ok (Binding.mk name format :: others)
      dsimp only
      split
      · exact bound []
      · exact bound _
      · exact fail_fails _

theorem bindings_fails (configuration : Configuration) :
    FailsAs (Fault.Tells (.table configuration.entries)) configuration.bindings := by
  refine (lookUps_fails configuration).bind fun registry _ => ?_
  exact (formatSwitches_fails configuration registry).bind fun _ read =>
    bindingsOf_fails registry (formatSwitches_within read)

theorem makeFormat_answers {format : Format} {options : Entries}
    (made : Registry.builtin.makeFormat name options = .ok format) : format.Answers := by
  obtain ⟨make, found, made⟩ := ok_of_bind made
  obtain ⟨known, member⟩ := registry_lookUp_mem found
  split at made
  next format own =>
    cases made
    simp only [Registry.builtin, List.mem_cons, Prod.mk.injEq, List.not_mem_nil, or_false] at member
    rcases member with ⟨-, rfl⟩ | ⟨-, rfl⟩
    · obtain ⟨named, -, own⟩ := ok_of_bind own
      split at own
      · cases own
      · cases own
      · cases own
        exact fun _ => ⟨_, rfl⟩
    · obtain ⟨named, -, own⟩ := ok_of_bind own
      split at own
      · cases own
        exact fun _ => ⟨_, rfl⟩
      · cases own
  · cases made

theorem formatUnder_answers {format : Format} {options : Entries}
    (made : formatUnder .builtin key options = .ok format) :
    format.Answers := by
  rw [formatUnder.eq_def] at made
  split at made
  · exact makeFormat_answers made
  · cases made

theorem bindingsOf_answer {bindings : List Binding}
    (bound : bindingsOf .builtin switches = .ok bindings) :
    ∀ binding ∈ bindings, binding.format.Answers := by
  fun_induction bindingsOf Registry.builtin switches generalizing bindings with
  | case1 =>
      cases bound
      exact nofun
  | case2 key rest induction => exact induction bound
  | case3 key switch rest on induction =>
      obtain ⟨name, -, bound⟩ := ok_of_bind bound
      have listed {options : Entries} {bindings : List Binding} (made : (do
          let format ← formatUnder .builtin key options
          let others ← bindingsOf .builtin rest
          return Binding.mk name format :: others) = .ok bindings) : ∀ binding ∈ bindings,
            binding.format.Answers := by
        obtain ⟨format, read, later⟩ := ok_of_bind made
        obtain ⟨others, bound, same⟩ := ok_of_bind later
        cases same
        exact List.forall_mem_cons.mpr ⟨formatUnder_answers read, induction bound⟩
      dsimp only at bound
      split at bound
      · exact listed bound
      · exact listed bound
      · cases bound

theorem bindings_answer (builtIn : configuration.registry = some .builtin) {bindings : List Binding}
    (bound : configuration.bindings = .ok bindings) :
    ∀ binding ∈ bindings, binding.format.Answers := by
  obtain ⟨registry, known, bound⟩ := ok_of_bind bound
  rw [lookUps, builtIn, Except.ok.injEq] at known
  subst known
  obtain ⟨switches, -, bound⟩ := ok_of_bind bound
  exact bindingsOf_answer bound

/-- The faults of putting the profile together: those of the presets and all that follows, and what
is wrong with the composition. -/
def ProfileFault (configuration : Configuration) (fault : Fault) : Prop :=
  configuration.PresetFault fault ∨ ∃ violations, fault = .composition violations

theorem profile_fails (builtIn : configuration.registry = some .builtin) :
    FailsAs configuration.ProfileFault configuration.profile := by
  refine ((ruleEntries_fails builtIn).mono fun _ => .inl).bind fun rules _ => ?_
  refine ((bindings_fails configuration).mono fun _ tells =>
    .inl (.inl tells)).bind fun bindings bound => ?_
  have answers : AllAnswer (bindings.map fun binding => ⟨binding.id, .proper binding.format⟩) := by
    intro entry member format asked
    obtain ⟨binding, own, rfl⟩ := List.mem_map.mp member
    cases asked
    exact bindings_answer builtIn bound binding own
  obtain ⟨disputes, -, built⟩ := @build_by_violations rules _ configuration.entries answers
  rw [built]
  split
  · exact .ok _
  · exact .error (.inr ⟨_, rfl⟩)

/-! ## When a fault is told in other words -/

theorem timeout_too_large_iff : configuration.timeout = .error .timeoutTooLarge ↔
    configuration.HasBoundlessTimeout := by
  constructor
  · intro failed
    rcases timeout_fails configuration _ failed with tells | ⟨-, boundless⟩
    · cases tells
    · exact boundless
  · exact timeout_of_boundless

theorem listsNoName_of_profileFault {kindName : String}
    (fault : configuration.ProfileFault (.unhashable kindName)) :
    configuration.ListsNoName := by
  rcases fault with (tells | ⟨-, lists⟩) | ⟨violations, other⟩
  · cases tells
  · exact lists
  · cases other

theorem ruleSettings_of_no_name (lists : configuration.ListsNoName) :
    ∃ kindName, configuration.ruleSettings = .error (.unhashable kindName) := by
  obtain ⟨kindName, refused⟩ := presetSwitches_of_no_name lists
  exact ⟨kindName, by rw [ruleSettings, refused]; rfl⟩

theorem ruleEntries_of_no_name (builtIn : configuration.registry = some .builtin)
    (lists : configuration.ListsNoName) :
    ∃ kindName, configuration.ruleEntries = .error (.unhashable kindName) := by
  obtain ⟨kindName, refused⟩ := ruleSettings_of_no_name lists
  exact ⟨kindName, by rw [ruleEntries, lookUps, builtIn, refused]; rfl⟩

theorem profile_of_no_name (builtIn : configuration.registry = some .builtin)
    (lists : configuration.ListsNoName) :
    ∃ kindName, configuration.profile = .error (.unhashable kindName) := by
  obtain ⟨kindName, refused⟩ := ruleEntries_of_no_name builtIn lists
  exact ⟨kindName, by rw [profile, refused]; rfl⟩

end Configuration

/-- Every setting of every table is read or refused as malformed, and the profile may be refused for
its composition. There are three exceptions, each with its own cause: a number in the table that is
too long to be shown, a timeout beyond the range of floating-point numbers, and a list of presets
with something in it that cannot be a name. The values in the table are not nested so deeply that
they cannot be shown. -/
theorem configurations_fail_in_known_ways (entries : Entries) :
    let configuration : Configuration := ⟨entries, some .builtin⟩
    let malformed := Fault.Tells (.table entries)
    let unnameable := fun fault => ∃ kindName, fault = Fault.unhashable kindName
    FailsAs malformed configuration.maxPasses ∧ FailsAs malformed configuration.workers ∧
      FailsAs malformed configuration.formatter ∧ FailsAs malformed configuration.bindings ∧
      FailsAs (fun fault => malformed fault ∨ fault = .timeoutTooLarge) configuration.timeout ∧
      FailsAs (fun fault => malformed fault ∨ unnameable fault) configuration.ruleSettings ∧
      FailsAs (fun fault => malformed fault ∨ unnameable fault) configuration.ruleEntries ∧
      FailsAs (fun fault => malformed fault ∨ unnameable fault ∨
        ∃ violations, fault = .composition violations)
        configuration.profile ∧
      (configuration.timeout = .error .timeoutTooLarge ↔ configuration.HasBoundlessTimeout) ∧
      ((∃ kindName, configuration.ruleSettings = .error (.unhashable kindName)) ↔
        configuration.ListsNoName) ∧
      ((∃ kindName, configuration.ruleEntries = .error (.unhashable kindName)) ↔
        configuration.ListsNoName) ∧
      ((∃ kindName, configuration.profile = .error (.unhashable kindName)) ↔
        configuration.ListsNoName) := by
  intro configuration malformed unnameable
  have builtIn : configuration.registry = some .builtin := rfl
  have presets : ∀ fault, configuration.PresetFault fault → malformed fault ∨ unnameable fault :=
    fun _ own => own.imp_right And.left
  refine ⟨configuration.positiveInteger_fails _ _, configuration.positiveInteger_fails _ _,
    configuration.formatter_fails, configuration.bindings_fails,
    configuration.timeout_fails.mono fun _ own => own.imp_right And.left,
    configuration.ruleSettings_fails.mono presets,
    (Configuration.ruleEntries_fails builtIn).mono presets, ?_, Configuration.timeout_too_large_iff,
    ⟨?_, Configuration.ruleSettings_of_no_name⟩, ⟨?_, Configuration.ruleEntries_of_no_name builtIn⟩,
    ⟨?_, Configuration.profile_of_no_name builtIn⟩⟩
  · refine (Configuration.profile_fails builtIn).mono fun fault own => ?_
    rcases own with preset | composed
    · exact (presets fault preset).imp_right .inl
    · exact .inr (.inr composed)
  · rintro ⟨kindName, failed⟩
    exact Configuration.listsNoName_of_profileFault
      (.inl (configuration.ruleSettings_fails _ failed))
  · rintro ⟨kindName, failed⟩
    exact Configuration.listsNoName_of_profileFault
      (.inl (Configuration.ruleEntries_fails builtIn _ failed))
  · rintro ⟨kindName, failed⟩
    exact Configuration.listsNoName_of_profileFault (Configuration.profile_fails builtIn _ failed)

/-- A list among the presets, a timeout of ten to the four hundredth seconds, and a number of
workers of 4301 digits below zero. -/
theorem malformed_is_told_in_other_words :
    (Configuration.mk (.ofNames [("presets", .list [.list [.string "x"]])])
      (some .builtin)).ruleSettings =
        .error (.unhashable "list") ∧
      (Fault.unhashable "list").kind = "TypeError" ∧
      (Configuration.mk (.ofNames [("timeout", .int (10 ^ 400))]) (some .builtin)).timeout =
        .error .timeoutTooLarge ∧
      Fault.timeoutTooLarge.kind = "OverflowError" ∧
      (Configuration.mk (.ofNames [("workers", .int (-10 ^ 4300))]) (some .builtin)).workers =
        .error .numberTooLong ∧
      Fault.numberTooLong.kind = "ValueError" := by
  refine ⟨rfl, rfl, ?_, rfl, by decide +kernel, rfl⟩
  exact Configuration.timeout_of_boundless ⟨10 ^ 400, rfl, by decide +kernel, by decide +kernel⟩

end ProseLinter
