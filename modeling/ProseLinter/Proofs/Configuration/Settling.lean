import Mathlib
import ProseLinter.Configuration
import ProseLinter.Proofs.Attempt
import ProseLinter.Proofs.Tables

/-!
# Which rules a configuration settles on

The presets that are switched on and the table of rules are written one over the other. So each id
has the place of its first mention, and its value is that of the table of rules, or else of the last
preset with the id. The rules are the ids whose value is not false, in that order, each with what
its own value splits into.
-/

namespace ProseLinter

def Value.isOff : Value → Bool
  | .bool false => true
  | _ => false

namespace Configuration

/-- The presets that a setting switches on: those that a table has true for, or those that a list
names. -/
inductive SwitchesOn : Value → List Key → Prop
  | table (switches : List (Key × Bool)) :
      SwitchesOn (.table (switches.map fun switch => (switch.1, .bool switch.2)))
        ((switches.filter Prod.snd).map Prod.fst)
  | list (names : List Value) (hashable : ∀ name ∈ names, name.unhashable? = none) :
      SwitchesOn (.list names) (names.map fun name => name.key?.getD (.text name.written)).eraseDups

/-- That a preset is registered under the name that a key is written as. -/
def NamesPreset (registry : Registry) (key : Key) (preset : Table String Value) : Prop :=
  Value.writableKey key = true ∧ registry.presets.get? key.written = some (.ofNames preset) ∧
    preset.keys.Nodup

/-- The ids that presets and a table of rules mention, in order of first mention. -/
def firstMentions (presets : List (Table String Value)) (rules : Table String Value) :
    List String :=
  ((presets ++ [rules]).flatMap Table.keys).eraseDups

/-- The final value of an id: that of the table of rules, or else of the last preset with the id. -/
def finalValue? (presets : List (Table String Value)) (rules : Table String Value) (id : String) :
    Option Value :=
  (rules.get? id).or (presets.reverse.findSome? (·.get? id))

def settledIds (presets : List (Table String Value)) (rules : Table String Value) : List String :=
  (firstMentions presets rules).filter fun id => !(finalValue? presets rules id).any Value.isOff

/-- The options in a table: it loses its severity, and a table with nothing else gives no
options. -/
def optionsOf (entries : Entries) : Value :=
  let options := entries.filter fun entry => !(Key.text "severity" == entry.1)
  if options.isEmpty then .null else .table options

/-- What a setting splits into: its options and its severity. -/
inductive Splits : Value → Value → Option Severity → Prop
  | on : Splits (.bool true) .null none
  | missing : Splits .null .null none
  | severity (name : String) (severity : Severity)
      (named : Severity.read (.string name) = .ok severity) :
      Splits (.string name) .null (some severity)
  | options (entries : Entries)
      (unset : (Table.get? entries (.text "severity")).getD .null = .null) :
      Splits (.table entries) (optionsOf entries) none
  | both (entries : Entries) (value : Value) (severity : Severity)
      (own : Table.get? entries (.text "severity") = some value)
      (named : Severity.read value = .ok severity) :
      Splits (.table entries) (optionsOf entries) (some severity)

/-- That an entry asks for the registered rule, with the options and the severity of a value. -/
def Settles (registry : Registry) (id : String) (value : Value) (entry : RuleEntry) : Prop :=
  entry.id = id ∧ (∃ rule, registry.rules.get? id = some rule ∧ entry.rule = .proper rule) ∧
    Splits value.untied entry.options entry.severity

theorem ofNames_cons (field : String × Value) (rest : Table String Value) :
    Entries.ofNames (field :: rest) = (.text field.1, field.2) :: Entries.ofNames rest := rfl

/-! ## One setting -/

section Settings

variable {registry : Registry} {ruleId : String} {value setting options : Value}
  {severity : Option Severity} {entries : List RuleEntry}

theorem severityOf_ok_iff {own : Severity} :
    severityOf ruleId value = .ok own ↔ Severity.read value = .ok own := by
  rw [severityOf]
  cases Severity.read value with
  | ok severity => rfl
  | error fault => exact ⟨nofun, nofun⟩

theorem read_null (own : Severity) : Severity.read .null ≠ .ok own := by
  have refused : Severity.read .null = .error (.unknownSeverity (Value.written .null)) := rfl
  rw [refused]
  exact nofun

theorem severity_given {given : Option Severity}
    (found : some <$> severityOf ruleId value = .ok given) :
    ∃ own, given = some own ∧ Severity.read value = .ok own := by
  cases named : severityOf ruleId value with
  | error fault =>
      rw [named] at found
      cases found
  | ok own =>
      rw [named] at found
      exact ⟨own, (Except.ok.inj found).symm, severityOf_ok_iff.mp named⟩

theorem splits_of_made (made : splitSetting ruleId setting = .ok (options, severity)) :
    Splits setting.untied options severity := by
  rw [splitSetting] at made
  split at made
  next asked =>
    cases made
    exact asked ▸ .on
  next asked =>
    cases made
    exact asked ▸ .missing
  next name asked =>
    obtain ⟨own, named, made⟩ := ok_of_bind made
    cases made
    exact asked ▸ .severity name own (severityOf_ok_iff.mp named)
  next table asked =>
    dsimp only at made
    rw [asked]
    split at made
    next unset =>
      cases made
      exact .options table unset
    next set =>
      obtain ⟨given, found, made⟩ := ok_of_bind made
      cases made
      obtain ⟨own, rfl, named⟩ := severity_given found
      cases known : Table.get? table (.text "severity") with
      | none =>
          -- A severity that is missing would be read from nothing at all.
          rw [known] at named
          exact absurd named (read_null own)
      | some value =>
          rw [known] at named
          exact .both table value own known named
  next =>
    rw [refuse] at made
    split at made
    · cases made
    · cases made

theorem made_of_splits (splits : Splits setting.untied options severity) :
    splitSetting ruleId setting = .ok (options, severity) := by
  rw [splitSetting]
  generalize setting.untied = value at splits
  cases splits with
  | on => rfl
  | missing => rfl
  | severity name own named =>
      dsimp only
      rw [severityOf_ok_iff.mpr named]
      rfl
  | options table unset =>
      dsimp only
      rw [unset]
      rfl
  | both table value own set named =>
      have given : some <$> severityOf ruleId value = .ok (some own) := by
        rw [severityOf_ok_iff.mpr named]
        rfl
      dsimp only
      rw [set, Option.getD_some]
      split
      · exact absurd named (read_null own)
      · rw [given]
        rfl

theorem splitSetting_ok_iff :
    splitSetting ruleId setting = .ok (options, severity) ↔
      Splits setting.untied options severity :=
  ⟨splits_of_made, made_of_splits⟩

theorem ruleUnder_ok_iff {rule : Rule} :
    ruleUnder registry (.text ruleId) = .ok rule ↔ registry.rules.get? ruleId = some rule := by
  change Registry.lookUp .rule registry.rules ruleId = .ok rule ↔
    registry.rules.get? ruleId = some rule
  rw [Registry.lookUp]
  cases registry.rules.get? ruleId with
  | none => exact ⟨nofun, nofun⟩
  | some known => rw [Except.ok.injEq, Option.some.injEq]

theorem entriesOf_off (off : value.isOff = true) (rest : Entries) :
    entriesOf registry ((.text ruleId, value) :: rest) = entriesOf registry rest := by
  cases value with
  | bool b =>
      cases b with
      | false => rw [entriesOf]
      | true => cases off
  | _ => cases off

theorem entriesOf_on (on : value.isOff = false) (rest : Entries) :
    entriesOf registry ((.text ruleId, value) :: rest) = .ok entries ↔
      ∃ first later, entries = first :: later ∧
      Settles registry ruleId value first ∧ entriesOf registry rest = .ok later := by
  rw [entriesOf]
  swap
  · intro isFalse
    rw [isFalse] at on
    cases on
  -- A text is written as it is, so the name of the rule is there at once.
  change (splitSetting ruleId value >>= _) = _ ↔ _
  constructor
  · intro made
    obtain ⟨⟨options, severity⟩, split, made⟩ := ok_of_bind made
    obtain ⟨rule, known, made⟩ := ok_of_bind made
    obtain ⟨later, listed, made⟩ := ok_of_bind made
    cases made
    exact ⟨_, later, rfl,
      ⟨rfl, ⟨rule, ruleUnder_ok_iff.mp known, rfl⟩, splitSetting_ok_iff.mp split⟩, listed⟩
  · intro made
    obtain ⟨⟨id, unit, options, severity⟩, later, rfl, ⟨rfl, ⟨rule, known, rfl⟩, splits⟩,
      listed⟩ := made
    rw [splitSetting_ok_iff.mpr splits, listed]
    dsimp only [bind, Except.bind]
    rw [ruleUnder_ok_iff.mpr known]
    rfl

theorem entriesOf_ok_iff (settings : Table String Value) :
    entriesOf registry (Entries.ofNames settings) = .ok entries ↔
      List.Forall₂ (fun setting entry => Settles registry setting.1 setting.2 entry)
        (settings.filter fun setting => !setting.2.isOff) entries := by
  induction settings generalizing entries with
  | nil =>
      rw [List.filter_nil, List.forall₂_nil_left_iff]
      exact ⟨fun made => (Except.ok.inj made).symm, fun empty => empty ▸ rfl⟩
  | cons setting rest induction =>
      rw [ofNames_cons]
      cases off : setting.2.isOff with
      | true => rw [entriesOf_off off, induction, List.filter_cons_of_neg (by simp [off])]
      | false =>
          rw [entriesOf_on off, List.filter_cons_of_pos (by simp [off]), List.forall₂_cons_left_iff]
          simp only [induction]
          constructor
          · intro made
            obtain ⟨first, later, rfl, settles, listed⟩ := made
            exact ⟨first, later, settles, listed, rfl⟩
          · intro listed
            obtain ⟨first, later, settles, listed, rfl⟩ := listed
            exact ⟨first, later, rfl, settles, listed⟩

end Settings

/-! ## The presets and the table of rules -/

section Presets

variable {configuration : Configuration} {registry : Registry} {keys : List Key}
  {presets : List (Table String Value)} {rules : Table String Value}

theorem ofNames_set (name : String) (value : Value) (table : Table String Value) :
    Table.set (.text name) value (Entries.ofNames table) =
      Entries.ofNames (table.set name value) := by
  induction table with
  | nil => rfl
  | cons entry rest induction =>
      have same : (Key.text name == Key.text entry.1) = (name == entry.1) := rfl
      rw [ofNames_cons, Table.set, Table.set, same, induction]
      split <;> rfl

theorem ofNames_merge (table later : Table String Value) :
    Table.merge (Entries.ofNames table)
    (Entries.ofNames later) = Entries.ofNames (table.merge later) := by
  induction later generalizing table with
  | nil => rfl
  | cons entry rest induction =>
      have step : Table.merge (Entries.ofNames table) (Entries.ofNames (entry :: rest)) =
          Table.merge (Table.set (.text entry.1) entry.2 (Entries.ofNames table))
            (Entries.ofNames rest) := rfl
      rw [step, ofNames_set, induction]
      rfl

/-- Presets that are switched on are written over the settings, one after the other. -/
theorem expand_switches (given : configuration.registry = some registry)
    {switches : List (Key × Bool)}
    (named : List.Forall₂ (NamesPreset registry) ((switches.filter Prod.snd).map Prod.fst) presets)
    (settings : Table String Value) :
    configuration.expand (Entries.ofNames settings)
    (switches.map fun switch => (switch.1, .bool switch.2)) =
      .ok (Entries.ofNames (presets.foldl Table.merge settings)) := by
  induction switches generalizing presets settings with
  | nil =>
      cases named
      rfl
  | cons switch rest induction =>
      obtain ⟨key, on⟩ := switch
      cases on with
      | false =>
          rw [List.map_cons, expand]
          exact induction named settings
      | true =>
          rw [List.filter_cons_of_pos rfl, List.map_cons] at named
          cases named with
          | @cons _ preset _ _ own others =>
              obtain ⟨writable, registered, -⟩ := own
              have name : nameOf key = .ok key.written := by rw [nameOf, if_pos writable]
              have preset : registry.preset key.written = .ok (.ofNames preset) := by
                rw [Registry.preset, Registry.lookUp, registered]
              rw [List.map_cons, expand, lookUps, given, name]
              dsimp only [bind, Except.bind]
              rw [preset]
              dsimp only
              rw [ofNames_merge]
              exact induction others _

theorem presetSwitches_of_switchesOn
    (switched : SwitchesOn
      ((configuration.entries.get? "presets").getD
        (.record [(defaultPreset, .bool true)])).untied keys) :
    ∃ switches : List (Key × Bool), configuration.presetSwitches =
      .ok (switches.map fun switch => (switch.1, .bool switch.2)) ∧
        (switches.filter Prod.snd).map Prod.fst = keys := by
  rw [presetSwitches]
  generalize ((configuration.entries.get? "presets").getD
    (.record [(defaultPreset, .bool true)])).untied = setting at switched
  cases switched with
  | table switches => exact ⟨switches, rfl, rfl⟩
  | list names hashable =>
      have all_names : names.findSome? (·.unhashable?) = none :=
        List.findSome?_eq_none_iff.mpr hashable
      let mentioned := (names.map fun name => name.key?.getD (.text name.written)).eraseDups
      refine ⟨mentioned.map fun key => (key, true), ?_, ?_⟩
      · dsimp only
        rw [all_names, switchedOn, Table.ofEntries_constant, List.map_map]
        rfl
      · rw [List.filter_eq_self.mpr (by simp), List.map_map]
        exact List.map_id mentioned

theorem ruleSettings_of_presets (given : configuration.registry = some registry)
    (switched : SwitchesOn
      ((configuration.entries.get? "presets").getD
        (.record [(defaultPreset, .bool true)])).untied keys)
    (named : List.Forall₂ (NamesPreset registry) keys presets)
    (table : ((configuration.entries.get? "rules").getD (.table [])).untied =
      .table (Entries.ofNames rules)) :
    configuration.ruleSettings = .ok (.ofNames ((presets ++ [rules]).foldl Table.merge [])) := by
  obtain ⟨switches, read, rfl⟩ := presetSwitches_of_switchesOn switched
  have asked : configuration.ruleTable = .ok (.ofNames rules) := by rw [ruleTable, table]
  have expanded : configuration.expand [] (switches.map fun switch => (switch.1, .bool switch.2)) =
      .ok (.ofNames (presets.foldl Table.merge [])) := expand_switches given named []
  rw [ruleSettings, read, asked]
  dsimp only [bind, Except.bind]
  rw [expanded]
  dsimp only
  rw [ofNames_merge, List.foldl_append]
  rfl

end Presets

/-! ## Places and values -/

section Places

variable {presets : List (Table String Value)} {rules : Table String Value}

theorem keys_settings (presets : List (Table String Value)) (rules : Table String Value) :
    ((presets ++ [rules]).foldl Table.merge []).keys = firstMentions presets rules := by
  rw [Table.foldl_merge_eq_ofEntries, Table.keys_ofEntries, firstMentions, Table.keys,
    List.map_flatten, List.flatMap_def]
  rfl

theorem distinct_settings (presets : List (Table String Value)) (rules : Table String Value) :
    ((presets ++ [rules]).foldl Table.merge []).keys.Nodup := by
  have none_before : (Table.keys ([] : Table String Value)).Nodup := List.nodup_nil
  rw [Table.foldl_merge_eq_ofEntries]
  exact Table.distinct_merge none_before _

theorem get?_settings (distinct : ∀ preset ∈ presets, preset.keys.Nodup)
    (rules_distinct : rules.keys.Nodup) (id : String) :
    ((presets ++ [rules]).foldl Table.merge []).get? id = finalValue? presets rules id := by
  have all_distinct : ∀ table ∈ presets ++ [rules], table.keys.Nodup := by
    intro table member
    rcases List.mem_append.mp member with preset | last
    · exact distinct table preset
    · rw [List.mem_singleton.mp last]
      exact rules_distinct
  have nothing : Table.get? ([] : Table String Value) id = none := rfl
  rw [Table.get?_foldl_merge all_distinct, nothing, Option.or_none, List.reverse_append,
    List.reverse_singleton, List.findSome?_append, List.findSome?_singleton, finalValue?]

theorem settledIds_eq (distinct : ∀ preset ∈ presets, preset.keys.Nodup)
    (rules_distinct : rules.keys.Nodup) :
    (((presets ++ [rules]).foldl Table.merge []).filter fun setting =>
      !setting.2.isOff).map Prod.fst =
      settledIds presets rules := by
  have value := get?_settings distinct rules_distinct
  have own := Table.get?_of_mem (distinct_settings presets rules)
  rw [settledIds, ← keys_settings, Table.keys, List.filter_map]
  apply congrArg
  apply List.filter_congr
  intro setting member
  rw [Function.comp_apply, ← value, own setting member, Option.any_some]

end Places

theorem forall₂_congr_of_mem {α β : Type} {R S : α → β → Prop} {items : List α} {others : List β}
    (same : ∀ item ∈ items, ∀ other, R item other ↔ S item other) :
    List.Forall₂ R items others ↔ List.Forall₂ S items others := by
  induction items generalizing others with
  | nil => rw [List.forall₂_nil_left_iff, List.forall₂_nil_left_iff]
  | cons first rest induction =>
      rw [List.forall_mem_cons] at same
      simp only [List.forall₂_cons_left_iff, same.1, induction same.2]

theorem exists_forall₂_iff {α β : Type} {R : α → β → Prop} {items : List α} :
    (∃ others, List.Forall₂ R items others) ↔ ∀ item ∈ items, ∃ other, R item other := by
  induction items with
  | nil => exact ⟨fun _ => nofun, fun _ => ⟨[], .nil⟩⟩
  | cons first rest induction =>
      rw [List.forall_mem_cons, ← induction]
      constructor
      · intro related
        obtain ⟨others, related⟩ := related
        cases related with
        | cons own later => exact ⟨⟨_, own⟩, ⟨_, later⟩⟩
      · intro related
        obtain ⟨⟨other, own⟩, ⟨others, later⟩⟩ := related
        exact ⟨other :: others, .cons own later⟩

end Configuration

open ProseLinter.Configuration

/-- Where the presets are registered, the rules of a configuration are the ids whose final value is
not false, each once and in order of first mention, each the registered one with what its final
value splits into. They are listed unless one of these ids is not registered, or its final value
does not split. -/
theorem rules_settle_by_first_mention_and_final_value {configuration : Configuration}
    {registry : Registry} {keys : List Key} {presets : List (Table String Value)}
    {rules : Table String Value} (given : configuration.registry = some registry)
    (switched : SwitchesOn
      ((configuration.entries.get? "presets").getD (.record [(defaultPreset, .bool true)])).untied
        keys) (named : List.Forall₂ (NamesPreset registry) keys presets)
    (table : ((configuration.entries.get? "rules").getD (.table [])).untied =
      .table (Entries.ofNames rules))
    (distinct : rules.keys.Nodup) :
    (settledIds presets rules).Nodup ∧
      (∀ entries, configuration.ruleEntries = .ok entries ↔ List.Forall₂ (fun id entry =>
        ∃ value, finalValue? presets rules id = some value ∧ Settles registry id value entry)
        (settledIds presets rules) entries) ∧
      ((∃ entries, configuration.ruleEntries = .ok entries) ↔ ∀ id ∈ settledIds presets rules,
        ∃ value rule options severity,
        finalValue? presets rules id = some value ∧ registry.rules.get? id = some rule ∧
          Splits value.untied options severity) := by
  have presets_distinct : ∀ preset ∈ presets, preset.keys.Nodup := by
    intro preset member
    obtain ⟨key, -, -, -, own⟩ := exists_left named member
    exact own
  let settings := (presets ++ [rules]).foldl Table.merge []
  -- Ids are distinct in the settings, so what stands beside an id is its final value.
  have value : ∀ setting ∈ settings, finalValue? presets rules setting.1 = some setting.2 := by
    intro setting member
    rw [← get?_settings presets_distinct distinct]
    exact Table.get?_of_mem (distinct_settings presets rules) setting member
  have listed : ∀ entries, configuration.ruleEntries = .ok entries ↔ List.Forall₂ (fun id entry =>
      ∃ value, finalValue? presets rules id = some value ∧ Settles registry id value entry)
      (settledIds presets rules) entries := by
    intro entries
    have whole : configuration.ruleEntries = entriesOf registry (Entries.ofNames settings) := by
      rw [ruleEntries, lookUps, given, ruleSettings_of_presets given switched named table]
      rfl
    rw [whole, entriesOf_ok_iff, ← settledIds_eq presets_distinct distinct,
      List.forall₂_map_left_iff]
    apply forall₂_congr_of_mem
    intro setting member entry
    rw [value setting (List.mem_of_mem_filter member)]
    simp only [Option.some.injEq, exists_eq_left']
  refine ⟨?_, listed, ?_⟩
  · have mentioned := distinct_settings presets rules
    rw [keys_settings] at mentioned
    exact mentioned.filter _
  · simp only [listed, exists_forall₂_iff]
    constructor
    · intro settled id member
      obtain ⟨entry, value, own, -, ⟨rule, known, -⟩, splits⟩ := settled id member
      exact ⟨value, rule, _, _, own, known, splits⟩
    · intro settled id member
      obtain ⟨value, rule, options, severity, own, known, splits⟩ := settled id member
      exact ⟨⟨id, .proper rule, options, severity⟩, value, own, rfl, ⟨rule, known, rfl⟩, splits⟩

/-- The second preset changes the value of one rule of the first and switches the other off, and the
table of rules switches that one on again. None of it changes their places. -/
theorem later_settings_keep_the_places :
    let base : Table String Value := [("no-emoji", .bool true), ("no-todo", .string "info")]
    let strict : Table String Value := [("no-todo", .string "error"), ("no-emoji", .bool false)]
    let rules : Table String Value := [("no-emoji", .record [("severity", .string "warning")])]
    let switches : Table String Value :=
      [("base", .bool true), ("other", .bool false), ("strict", .bool true)]
    let registry : Registry :=
      { rules := Registry.builtin.rules, presets :=
        [("base", .ofNames base), ("strict", .ofNames strict)] }
    let configuration : Configuration :=
      ⟨.ofNames [("presets", .record switches), ("rules", .record rules)], some registry⟩
    configuration.ruleEntries = .ok
      [⟨"no-emoji", .proper (.document Emoji.rule), .null, some .warning⟩,
        ⟨"no-todo", .proper (.document Marker.rule), .null, some .error⟩] := by
  intro base strict rules switches registry configuration
  have switched : SwitchesOn
      ((configuration.entries.get? "presets").getD
        (.record [(defaultPreset, .bool true)])).untied ["base", "strict"] :=
    .table [("base", true), ("other", false), ("strict", true)]
  have named : List.Forall₂ (NamesPreset registry) ["base", "strict"] [base, strict] :=
    .cons ⟨rfl, rfl, by decide⟩ (.cons ⟨rfl, rfl, by decide⟩ .nil)
  have table : ((configuration.entries.get? "rules").getD (.table [])).untied =
      .table (Entries.ofNames rules) := rfl
  have settled := rules_settle_by_first_mention_and_final_value rfl switched named table (by decide)
  have emoji : Splits (.record [("severity", .string "warning")]) .null (some .warning) :=
    .both _ (.string "warning") .warning rfl (by cbv)
  have marker : Splits (.string "error") .null (some .error) := .severity "error" .error (by cbv)
  have ids : settledIds [base, strict] rules = ["no-emoji", "no-todo"] := by cbv
  apply (settled.2.1 _).mpr
  rw [ids]
  exact .cons ⟨_, rfl, rfl, ⟨_, rfl, rfl⟩, emoji⟩ (.cons ⟨_, rfl, rfl, ⟨_, rfl, rfl⟩, marker⟩ .nil)

end ProseLinter
