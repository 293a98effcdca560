import ProseLinter.CommandLine.Arguments
import ProseLinter.ConfigFile
import ProseLinter.FileRun
import ProseLinter.Rendering
import ProseLinter.RuleGuide
import ProseLinter.Text.Styling

/-!
The command line: what a request does to the files, what it prints, and the code with which the
program ends. A run that finds errors ends with one, and a configuration that cannot be used ends it
with two before anything is checked. Any other fault breaks the run off, with no conclusion. What is
printed has no styling.
-/

namespace ProseLinter

namespace Configuration

def resolved (rules : List RuleEntry) (bindings : List Binding) : LogRecord :=
  ⟨.debug, .configuration, "Resolved " ++ toString rules.length ++ " rule(s) and " ++
    toString bindings.length ++ " plugin(s) from configuration"⟩

def built (profile : Profile) : LogRecord :=
  let listed (ids : List String) : String := (Value.list (ids.map .string)).shown
  ⟨.debug, .profile, "Descriptor built: rules=" ++ listed (profile.rules.map (·.id)) ++
    " plugins=" ++ listed (profile.bindings.map (·.id))⟩

def log (configuration : Configuration) : List LogRecord :=
  match configuration.ruleEntries, configuration.bindings, configuration.profile with
  | .ok rules, .ok bindings, .ok profile => [resolved rules bindings, built profile]
  | .ok rules, .ok bindings, .error _ => [resolved rules bindings]
  | _, _, _ => []

end Configuration

namespace CommandLine

structure Conclusion where
  exitCode : Nat
  output : String
  errors : String
  files : FileSystem

def exitClean : Nat := 0

def exitProblems : Nat := 1

def exitRefused : Nat := 2

/-- The records that are shown, as lines: all of them if that is asked for, and otherwise those that
matter. -/
def logText (verbose : Bool) (records : List LogRecord) : String :=
  String.join ((records.filter fun record => verbose || record.level.isGrave).map fun record =>
    record.line ++ "\n")

def printed (text : String) : String := String.ofList (Text.unstyled text.toList)

def complaint (fault : Fault) : String :=
  let line := printed ("prosecheck: configuration error: " ++ fault.message ++ "\n")
  String.ofList (Text.withEscapes line.toList)

def isOfConfiguration : Fault → Bool
  | .configuration _ | .composition _ | .options _ _ | .unsupportedKind _ | .parse _
  | .rule _ => true
  | _ => false

/-- Whether a fault before a run over files is reported as one of the configuration: values that are
out of place are, too. -/
def isRefusal (fault : Fault) : Bool :=
  isOfConfiguration fault || ["ValueError", "UnicodeDecodeError"].contains fault.kind

def stopped (isRefused : Fault → Bool) (files : FileSystem) (log : String) (fault : Fault) :
    Except Fault Conclusion :=
  if isRefused fault then .ok ⟨exitRefused, "", log ++ complaint fault, files⟩ else .error fault

structure Plan where
  profile : Profile
  formatter : Formatter
  runner : Runner

/-- The plan for a request. What the request says goes before what the configuration says. -/
def plan (request : LintRequest) (configuration : Configuration) : Except Fault Plan := do
  let profile ← configuration.profile
  let name ← match request.formatter.filter fun name => !name.isEmpty with
    | some name => pure name
    | none => configuration.formatter
  let formatter ← Formatter.named name
  let limit ← match request.maxPasses with
    | some limit => pure limit
    | none => configuration.maxPasses
  let workers ← match request.workers with
    | some workers => pure workers
    | none => configuration.workers
  let timeout ← configuration.timeout
  return ⟨profile, formatter, ← Runner.make limit workers (timeout.map .fractional)⟩

variable (readYaml : YamlReader) (system : FileSystem)

def prepare (request : LintRequest) : List LogRecord × Except Fault Plan :=
  match ConfigFile.locate readYaml system.disk request.config with
  | .error fault => ([], .error fault)
  | .ok found =>
      let log := found.toList.map ConfigFile.record
      match ConfigFile.tableOf found with
      | .error fault => (log, .error fault)
      | .ok entries =>
          let configuration : Configuration := ⟨entries, some Registry.builtin⟩
          (log ++ configuration.log, plan request configuration)

def lint (request : LintRequest) : Except Fault Conclusion :=
  let (log, plan) := prepare readYaml system request
  let before := logText request.verbose (.handshake :: log)
  match plan with
  | .error fault => stopped isRefusal system before fault
  | .ok plan => do
      let mode := if request.fix then Mode.fix else Mode.lint
      let paths := request.paths.map (·.written)
      let (files, run) ← FileRun.perform plan.runner plan.profile mode system paths
        FileRun.defaultPatterns
      let text := plan.formatter.render false run.results
      return ⟨if run.results.hasErrors then exitProblems else exitClean,
        if text.isEmpty then "" else printed (text ++ "\n"),
        before ++ logText request.verbose run.log, files⟩

/-- The lines about a rule: whether it is switched on, and what there is to say about it. -/
def ruleLines (verbose : Bool) (enabled : List String) (id : String) (rule : Rule) :
    Except Fault String := do
  let mark := if enabled.contains id then "*" else " "
  let fixable := if rule.fixable? == some true then "fixable" else ""
  let description ← RuleGuide.builtin.description id rule.description
  let instructions ← RuleGuide.builtin.instructions id
  let line := String.intercalate " "
    [mark, Phrase.atLeft 24 id, Phrase.atLeft 8 rule.defaultSeverity.name, Phrase.atLeft 8 fixable,
      description]
  return line ++ "\n" ++
    if verbose && !instructions.isEmpty then "    " ++ instructions ++ "\n" else ""

def enabledRules (config : Option Path) : Except Fault (List String) := do
  let entries ← ConfigFile.tableOf (← ConfigFile.locate readYaml system.disk config)
  return (← Configuration.ruleEntries ⟨entries, some Registry.builtin⟩).map (·.id)

def listRules (request : RulesRequest) : Except Fault Conclusion :=
  match enabledRules readYaml system request.config with
  | .error fault => stopped isOfConfiguration system "" fault
  | .ok enabled => do
      let lines ← Registry.builtin.rules.mapM fun (id, rule) =>
        ruleLines request.verbose enabled id rule
      return ⟨exitClean,
        printed (String.join lines ++ "\n* enabled by the current configuration\n"), "", system⟩

def usage : String := "Usage: prosecheck (lint | rules) [OPTIONS] [PATHS]...\n"

def conclude : Request → Except Fault Conclusion
  | .lint request => lint readYaml system request
  | .rules request => listRules readYaml system request
  | .help => .ok ⟨exitClean, usage, "", system⟩

/-- Runs the program with arguments; none if they make no request. -/
def run? (arguments : List String) : Option (Except Fault Conclusion) :=
  (request? arguments).map (conclude readYaml system)

end CommandLine

end ProseLinter
