import ProseLinter.Profile
import ProseLinter.Rule.Duplicate
import ProseLinter.Rule.Emoji
import ProseLinter.Rule.Marker
import ProseLinter.Rule.SentenceLength
import ProseLinter.Rule.TrailingSpace

/-!
The registry: the rules, formats and presets that a configuration can name. Each name is given once,
and the names are listed in the order in which they were given.
-/

namespace ProseLinter

abbrev FormatMaker := Entries → Except Format.OptionFault Format

structure Registry where
  rules : Table String Rule := []
  formats : Table String FormatMaker := []
  presets : Table String Entries := []

namespace Registry

def register {α : Type} (what : Capability) (name : String) (thing : α) (table : Table String α) :
    Except Fault (Table String α) :=
  if table.has name then .error (.taken what name) else .ok (table ++ [(name, thing)])

/-- Registers a rule under a name, or under its own id if the name is missing or empty. -/
def addRule (registry : Registry) (rule : Rule) (name : Option String) : Except Fault Registry := do
  let key := ((name.filter fun name => !name.isEmpty).getD rule.id)
  return { registry with rules := ← register .rule key rule registry.rules }

def addFormat (registry : Registry) (name : String) (make : FormatMaker) :
    Except Fault Registry := do
  return { registry with formats := ← register .plugin name make registry.formats }

def addPreset (registry : Registry) (name : String) (settings : Entries) :
    Except Fault Registry := do
  return { registry with presets := ← register .preset name settings registry.presets }

def lookUp {α : Type} (what : Capability) (table : Table String α) (name : String) :
    Except Fault α :=
  match table.get? name with
  | some thing => .ok thing
  | none => .error (.configuration (.unknown what name table.keys))

def rule (registry : Registry) (name : String) : Except Fault Rule :=
  lookUp .rule registry.rules name

def preset (registry : Registry) (name : String) : Except Fault (Entries) :=
  lookUp .preset registry.presets name

def makeFormat (registry : Registry) (name : String) (options : Entries) : Except Fault Format := do
  let make ← lookUp .plugin registry.formats name
  match make options with
  | .ok format => return format
  | .error fault => throw (.configuration (.pluginOptions name fault.message))

def builtinRules : List Rule :=
  [.document Emoji.rule, .document TrailingSpace.rule, .document SentenceLength.rule,
    .document Marker.rule, .session Duplicate.rule]

def recommended : List String :=
  [Emoji.ruleId, TrailingSpace.ruleId, SentenceLength.ruleId, Duplicate.ruleId]

def switchOn (ruleIds : List String) : Entries :=
  ruleIds.map fun ruleId => (.text ruleId, .bool true)

def builtin : Registry where
  rules := builtinRules.map fun rule => (rule.id, rule)
  formats := [("markdown", Format.makeMarkdown), ("text", Format.makePlainText)]
  presets := [("recommended", switchOn recommended), ("all", switchOn (builtinRules.map (·.id)))]

end Registry

end ProseLinter
