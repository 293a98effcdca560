import ProseLinter.Number.Reading
import ProseLinter.Registry
import ProseLinter.Text.Blank

/-!
Configurations: what the table of a configuration file means. Presets are expanded first and the
table of rules overrides them; each rule is switched on or off, given a severity, or given options
among which may be a severity. Whatever has the wrong shape is a fault that says what was found
instead.
-/

namespace ProseLinter

namespace Severity

def read (value : Value) : Except Fault Severity :=
  if !value.isWritable then .error .numberTooLong
  else
    let name := lowerCase (String.ofList (Text.trim value.written.toList))
    match all.find? (·.name == name) with
    | some severity => .ok severity
    | none => .error (.unknownSeverity value.written)

end Severity

namespace Value

def unhashable? : Value → Option String
  | pair first second => first.unhashable?.or second.unhashable?
  | list items => some (list items).kindName
  | set members => some (set members).kindName
  | table entries => some (table entries).kindName
  | knot _ content => content.unhashable?
  | _ => none

end Value

/-- A configuration: its table, and the registry in which it looks up names. -/
structure Configuration where
  entries : Entries
  registry : Option Registry

namespace Configuration

def defaultPasses : Int := 10

def defaultFormatter : String := "stylish"

def defaultPreset : String := "recommended"

def fail {α : Type} (fault : ConfigurationFault) : Except Fault α := .error (.configuration fault)

def refuse {α : Type} (shape : SettingShape) (value : Value) : Except Fault α :=
  if value.isWritable then fail (.wrongShape shape value.shown) else .error .numberTooLong

def nameOf (key : Key) : Except Fault String :=
  if Value.writableKey key then .ok key.written else .error .numberTooLong

def lookUps (configuration : Configuration) : Except Fault Registry :=
  match configuration.registry with
  | some registry => .ok registry
  | none => fail .noRegistry

def positiveInteger (configuration : Configuration) (key : String) (fallback : Int) :
    Except Fault Int :=
  match configuration.entries.get? key with
  | none => .ok fallback
  | some (.int n) => if n < 1 then refuse (.positiveInteger key) (.int n) else .ok n
  | some value => refuse (.positiveInteger key) value

def maxPasses (configuration : Configuration) : Except Fault Int :=
  configuration.positiveInteger "max_fix_iterations" defaultPasses

def workers (configuration : Configuration) : Except Fault Int :=
  configuration.positiveInteger "workers" 1

def timeout (configuration : Configuration) : Except Fault (Option Float) :=
  match configuration.entries.get? "timeout" with
  | none | some .null => .ok none
  | some (.int n) =>
      if n ≤ 0 then refuse .seconds (.int n)
      else match floatOfInt? n with
        | some seconds => .ok (some seconds)
        | none => .error .timeoutTooLarge
  | some (.float x) => if x ≤ 0 then refuse .seconds (.float x) else .ok (some x)
  | some value => refuse .seconds value

def formatter (configuration : Configuration) : Except Fault String :=
  match configuration.entries.get? "formatter" with
  | none => .ok defaultFormatter
  | some (.string name) => if name.isEmpty then refuse .formatter (.string name) else .ok name
  | some value => refuse .formatter value

def switchedOn (keys : List Key) : Entries :=
  Table.ofEntries (keys.map fun key => (key, .bool true))

/-- The presets with their switches. A list switches on each preset that it names. -/
def presetSwitches (configuration : Configuration) : Except Fault Entries :=
  match ((configuration.entries.get? "presets").getD (.record [(defaultPreset, .bool true)])).untied
  with
  | .table entries => .ok entries
  | .list names =>
      match names.findSome? (·.unhashable?) with
      | some kindName => .error (.unhashable kindName)
      | none => .ok (switchedOn (names.map fun name => name.key?.getD (.text name.written)))
  | _ => fail .presetsShape

def ruleTable (configuration : Configuration) : Except Fault Entries :=
  match ((configuration.entries.get? "rules").getD (.table [])).untied with
  | .table entries => .ok entries
  | _ => fail .rulesShape

/-- The settings of the presets that are switched on, the later ones written over the earlier. -/
def expand (configuration : Configuration) (settings : Entries) :
    List (Key × Value) → Except Fault Entries
  | [] => .ok settings
  | (key, .bool true) :: rest => do
      let preset ← (← configuration.lookUps).preset (← nameOf key)
      expand configuration (settings.merge preset) rest
  | (_, .bool false) :: rest => expand configuration settings rest
  | (key, _) :: _ => do fail (.presetSwitch (← nameOf key))

def ruleSettings (configuration : Configuration) : Except Fault Entries := do
  let presets ← configuration.presetSwitches
  let rules ← configuration.ruleTable
  return (← configuration.expand [] presets).merge rules

def severityOf (ruleId : String) (value : Value) : Except Fault Severity :=
  match Severity.read value with
  | .ok severity => .ok severity
  | .error fault => fail (.ruleSeverity ruleId fault.message)

def splitSetting (ruleId : String) (setting : Value) : Except Fault (Value × Option Severity) :=
  match setting.untied with
  | .bool true | .null => .ok (.null, none)
  | .string name => do return (.null, some (← severityOf ruleId (.string name)))
  | .table entries => do
      let severity ← match (Table.get? entries (.text "severity")).getD .null with
        | .null => pure none
        | value => some <$> severityOf ruleId value
      let options := Table.erase entries (.text "severity")
      return (if options.isEmpty then .null else .table options, severity)
  | _ => refuse (.ruleValue ruleId) setting

def ruleUnder (registry : Registry) (key : Key) : Except Fault Rule :=
  match key with
  | .text name => registry.rule name
  | key => fail (.unknown .rule key.written registry.rules.keys)

def entriesOf (registry : Registry) : List (Key × Value) → Except Fault (List RuleEntry)
  | [] => .ok []
  | (_, .bool false) :: rest => entriesOf registry rest
  | (key, setting) :: rest => do
      let ruleId ← nameOf key
      let (options, severity) ← splitSetting ruleId setting
      let rule ← ruleUnder registry key
      return ⟨ruleId, .proper rule, options, severity⟩ :: (← entriesOf registry rest)

def ruleEntries (configuration : Configuration) : Except Fault (List RuleEntry) := do
  let registry ← configuration.lookUps
  entriesOf registry (← configuration.ruleSettings)

def formatKey (name : Value) : Except Fault Key :=
  if name.isWritable then .ok (.text name.written) else .error .numberTooLong

def formatSwitches (configuration : Configuration) (registry : Registry) : Except Fault Entries :=
  match ((configuration.entries.get? "plugins").getD .null).untied with
  | .null => .ok (Registry.switchOn registry.formats.keys)
  | .list names => do return switchedOn (← names.mapM formatKey)
  | .table entries => .ok entries
  | _ => fail .pluginsShape

def formatUnder (registry : Registry) (key : Key) (options : Entries) : Except Fault Format :=
  match key with
  | .text name => registry.makeFormat name options
  | key => fail (.unknown .plugin key.written registry.formats.keys)

def bindingsOf (registry : Registry) : List (Key × Value) → Except Fault (List Binding)
  | [] => .ok []
  | (_, .bool false) :: rest => bindingsOf registry rest
  | (key, switch) :: rest => do
      let name ← nameOf key
      let options ← match switch.untied with
        | .bool true => pure []
        | .table options => pure options
        | _ => fail (.pluginSwitch name)
      let format ← formatUnder registry key options
      return ⟨name, format⟩ :: (← bindingsOf registry rest)

def bindings (configuration : Configuration) : Except Fault (List Binding) := do
  let registry ← configuration.lookUps
  bindingsOf registry (← configuration.formatSwitches registry)

def profile (configuration : Configuration) : Except Fault Profile := do
  let rules ← configuration.ruleEntries
  let bindings ← configuration.bindings
  Profile.build rules (bindings.map fun binding => ⟨binding.id, .proper binding.format⟩)
    configuration.entries

end Configuration

end ProseLinter
