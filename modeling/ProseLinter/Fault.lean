import ProseLinter.Finding
import ProseLinter.Supplied
import ProseLinter.Unreadable

/-!
Faults: everything that can go wrong, as causes. Each cause has one wording, and each fault has the
word by which reports name its kind. A fault of a configuration stops a session before it starts; a
fault of a document or of a rule becomes a finding of that document.
-/

namespace ProseLinter

/-- A family of things that are registered under names. -/
inductive Capability where
  | rule
  | plugin
  | preset
deriving Repr, DecidableEq

namespace Capability

def name : Capability → String
  | rule => "rule"
  | plugin => "plugin"
  | preset => "preset"

def title : Capability → String
  | rule => "Rule"
  | plugin => "Plugin"
  | preset => "Preset"

end Capability

/-- A limit of a session that must be positive. -/
inductive Limit where
  | passes
  | workers
  | timeout
deriving Repr, DecidableEq

inductive OptionFault where
  | notATable
  | unknownKeys (keys : List String)
  | notStrings (key : String)
  | notABoolean (key : String)
  | notPositive (key : String)
  | negative (key : String)
  | notTerms (key : String)
  | keyNotText (kindName : String)
  | keysNotOrdered (later earlier : String)
  /-- Unknown keys are moments, and the distance from universal time is known of some of them
  only. -/
  | keysPartlyZoned
  | keysPartlyTimed
  | other (reason : String)
deriving Repr, DecidableEq

namespace OptionFault

def message : OptionFault → String
  | notATable => "options must be a table"
  | unknownKeys keys => "unknown option(s): " ++ String.intercalate ", " keys
  | notStrings key => "'" ++ key ++ "' must be a list of strings"
  | notABoolean key => "'" ++ key ++ "' must be a boolean"
  | notPositive key => "'" ++ key ++ "' must be a positive integer"
  | negative key => "'" ++ key ++ "' must be a non-negative integer"
  | notTerms key => "'" ++ key ++ "' must be a non-empty list of strings"
  | keyNotText kindName => "sequence item 0: expected str instance, " ++ kindName ++ " found"
  | keysNotOrdered later earlier =>
      "'<' not supported between instances of '" ++ later ++ "' and '" ++ earlier ++ "'"
  | keysPartlyZoned => "can't compare offset-naive and offset-aware datetimes"
  | keysPartlyTimed => "can't compare datetime.datetime to datetime.date"
  | other reason => reason

def isOfChecking : OptionFault → Bool
  | keyNotText _ | keysNotOrdered _ _ | keysPartlyZoned | keysPartlyTimed => true
  | _ => false

end OptionFault

inductive ParseCause where
  | unclosedFence
  | binaryContent
  | pluginFailed (pluginId reason : String)
  | notSpanning (pluginId : String)
  | other (reason : String)
deriving Repr, DecidableEq

namespace ParseCause

def message : ParseCause → String
  | unclosedFence => "Unclosed code fence"
  | binaryContent => "Binary content (NUL byte) in text document"
  | pluginFailed pluginId reason => "Plugin '" ++ pluginId ++ "' failed: " ++ reason
  | notSpanning pluginId =>
      "Plugin '" ++ pluginId ++ "' produced a tree that does not span the source text"
  | other reason => reason

end ParseCause

/-- Why a text cannot be read as a tree, and where, if that is known. -/
structure ParseFault where
  cause : ParseCause
  position : Option Position := none
deriving Repr, DecidableEq

namespace ParseFault

def message (fault : ParseFault) : String :=
  match fault.position with
  | none => fault.cause.message
  | some position => fault.cause.message ++ " (at " ++ position.written ++ ")"

end ParseFault

inductive RuleCause where
  | notAFinding (kindName : String)
  | spanOutside (span : Span) (length : Nat)
  | fixOutside (span : Span) (length : Nat)
  | unknownDocument (documentId : String)
  | raised (kind message : String)
  | other (reason : String)
deriving Repr, DecidableEq

namespace RuleCause

def outside (what : String) (span : Span) (length : Nat) : String :=
  what ++ " range [" ++ toString span.start ++ ", " ++ toString span.stop ++
    ") is outside the document (length " ++ toString length ++ ")"

def message : RuleCause → String
  | notAFinding kindName => "returned " ++ kindName ++ " instead of a Message"
  | spanOutside span length => outside "message" span length
  | fixOutside span length => outside "fix" span length
  | unknownDocument documentId => "reported unknown document '" ++ documentId ++ "'"
  | raised kind message => kind ++ ": " ++ message
  | other reason => reason

end RuleCause

structure RuleFault where
  ruleId : String
  cause : RuleCause
deriving Repr, DecidableEq

namespace RuleFault

def message (fault : RuleFault) : String :=
  "Rule '" ++ fault.ruleId ++ "' failed: " ++ fault.cause.message

end RuleFault

/-- A way in which rules and plugins cannot be put together. -/
inductive Violation where
  | duplicateRule (ruleId : String) (count : Nat)
  | emptyRuleId
  | notARule (ruleId kindName : String)
  | invalidOptions (ruleId : String) (fault : OptionFault)
  | optionCheckFailed (ruleId reason : String)
  | duplicatePlugin (pluginId : String) (count : Nat)
  | noPlugin
  | notAPlugin (pluginId kindName : String)
  | kindConflict (kind first second : String)
deriving Repr, DecidableEq

namespace Violation

def message : Violation → String
  | duplicateRule ruleId count =>
    "duplicate rule id '" ++ ruleId ++ "' (" ++ toString count ++ " times)"
  | emptyRuleId => "rule id must be a non-empty string"
  | notARule ruleId kindName =>
      "rule '" ++ ruleId ++ "': " ++ kindName ++ " implements neither evaluate nor evaluate_batch"
  | invalidOptions ruleId fault => "rule '" ++ ruleId ++ "': invalid options: " ++ fault.message
  | optionCheckFailed ruleId reason => "rule '" ++ ruleId ++ "': option check failed: " ++ reason
  | duplicatePlugin pluginId count =>
      "duplicate plugin id '" ++ pluginId ++ "' (" ++ toString count ++ " times)"
  | noPlugin => "at least one format plugin is required"
  | notAPlugin pluginId kindName =>
      "plugin '" ++ pluginId ++ "': " ++ kindName ++ " is not a format plugin"
  | kindConflict kind first second =>
      "kind '" ++ kind ++ "' is claimed by plugins '" ++ first ++ "' and '" ++ second ++ "'"

def isConflict : Violation → Bool
  | kindConflict _ _ _ => true
  | _ => false

end Violation

/-- What the system says when a file cannot be read or written. -/
inductive FileCause where
  | missing
  | notADirectory
  | isADirectory
  | nameTooLong
  /-- Any other error of the system, as where a permission is lacking. -/
  | other (number : Nat) (kind reason : String)
deriving Repr, DecidableEq

namespace FileCause

def number : FileCause → Nat
  | missing => 2
  | notADirectory => 20
  | isADirectory => 21
  | nameTooLong => 36
  | other number _ _ => number

def reason : FileCause → String
  | missing => "No such file or directory"
  | notADirectory => "Not a directory"
  | isADirectory => "Is a directory"
  | nameTooLong => "File name too long"
  | other _ _ reason => reason

def kind : FileCause → String
  | missing => "FileNotFoundError"
  | notADirectory => "NotADirectoryError"
  | isADirectory => "IsADirectoryError"
  | nameTooLong => "OSError"
  | other _ kind _ => kind

/-- Whether the cause only says that there is nothing to look at: something on the way is missing or
is no folder, is not open, or leads round in a circle. -/
def isAbsence (cause : FileCause) : Bool := [2, 9, 20, 40].contains cause.number

end FileCause

/-- A file that cannot be read or written, and why. -/
structure FileFault where
  cause : FileCause
  path : String
deriving Repr, DecidableEq

namespace FileFault

def message (fault : FileFault) : String :=
  "[Errno " ++ toString fault.cause.number ++ "] " ++ fault.cause.reason ++ ": " ++
    quotedString fault.path

def kind (fault : FileFault) : String := fault.cause.kind

end FileFault

inductive DecodingCause where
  | invalidStart
  | invalidContinuation
  | unexpectedEnd
deriving Repr, DecidableEq

/-- Bytes that are not UTF-8: the offsets of the first of them, the first byte itself, and what is
wrong with it. -/
structure DecodingFault where
  start : Nat
  stop : Nat
  byte : UInt8
  cause : DecodingCause
deriving Repr, DecidableEq

namespace DecodingFault

def message (fault : DecodingFault) : String :=
  let reason := match fault.cause with
    | .invalidStart => "invalid start byte"
    | .invalidContinuation => "invalid continuation byte"
    | .unexpectedEnd => "unexpected end of data"
  let place :=
    if fault.stop - fault.start = 1 then
      "byte 0x" ++ String.ofList (hexDigits 2 fault.byte.toNat) ++ " in position " ++
        toString fault.start
    else "bytes in position " ++ toString fault.start ++ "-" ++ toString (fault.stop - 1)
  "'utf-8' codec can't decode " ++ place ++ ": " ++ reason

end DecodingFault

/-- The part of a configuration that holds a value of the wrong shape. -/
inductive SettingShape where
  | positiveInteger (key : String)
  | seconds
  | formatter
  | ruleValue (ruleId : String)
deriving Repr, DecidableEq

inductive ConfigurationFault where
  | wrongShape (shape : SettingShape) (got : String)
  | presetsShape
  | rulesShape
  | pluginsShape
  | presetSwitch (name : String)
  | pluginSwitch (pluginId : String)
  | ruleSeverity (ruleId reason : String)
  | noRegistry
  | unknown (what : Capability) (name : String) (known : List String)
  | pluginOptions (pluginId reason : String)
  | unsupportedFormat (path suffix : String)
  | unreadable (path : String) (fault : FileFault)
  | malformed (path : String)
  | malformedToml (path : String)
  | notATable (path : String)
  | other (reason : String)
deriving Repr, DecidableEq

namespace ConfigurationFault

def shapeMessage (shape : SettingShape) (got : String) : String :=
  match shape with
  | .positiveInteger key => "'" ++ key ++ "' must be a positive integer, got " ++ got
  | .seconds => "'timeout' must be a positive number of seconds, got " ++ got
  | .formatter => "'formatter' must be a formatter name, got " ++ got
  | .ruleValue ruleId =>
      "Rule '" ++ ruleId ++ "' must be true, false, a severity name or a table, got " ++ got

def message : ConfigurationFault → String
  | wrongShape shape got => shapeMessage shape got
  | presetsShape => "'presets' must be a table or a list of preset names"
  | rulesShape => "'rules' must be a table"
  | pluginsShape => "'plugins' must be a list of plugin ids or a table"
  | presetSwitch name => "Preset '" ++ name ++ "' must be true or false"
  | pluginSwitch pluginId => "Plugin '" ++ pluginId ++ "' must be true, false or a table"
  | ruleSeverity ruleId reason => "Rule '" ++ ruleId ++ "': " ++ reason
  | noRegistry => "No capability registry configured"
  | unknown what name known =>
      "Unknown " ++ what.name ++ " '" ++ name ++ "' (known " ++ what.name ++ "s: " ++
        (if known.isEmpty then "none" else String.intercalate ", " known) ++ ")"
  | pluginOptions pluginId reason => "Invalid options for plugin '" ++ pluginId ++ "': " ++ reason
  | unsupportedFormat path suffix =>
      path ++ ": unsupported config format '" ++ suffix ++ "' (use .toml, .json, .yaml or .yml)"
  | unreadable path fault => path ++ ": cannot read configuration: " ++ fault.message
  | malformed path => path ++ ": invalid configuration"
  | malformedToml path => path ++ ": invalid TOML"
  | notATable path => path ++ ": configuration must be a table/mapping"
  | other reason => reason

end ConfigurationFault

/-- A fault is what its kind and its wording say. What a rule or a format raises is taken to have a
wording: an exception whose own text cannot be made is left out. -/
inductive Fault where
  | invalidSpan (start stop : Int)
  | position (fault : PositionFault)
  | unknownSeverity (written : String)
  | unknownMode (name : String)
  | unknownFormatter (name : String) (known : List String)
  | limit (limit : Limit)
  | taken (what : Capability) (name : String)
  | unregistered (service : String)
  | configuration (fault : ConfigurationFault)
  | composition (violations : List Violation)
  | options (ruleId : Option String) (fault : OptionFault)
  | unsupportedKind (kind : String)
  | parse (fault : ParseFault)
  | rule (fault : RuleFault)
  | file (fault : FileFault)
  | decoding (fault : DecodingFault)
  | unhashable (kindName : String)
  | notIterable (kindName : String)
  | noLookup (kindName : String)
  | timeoutTooLarge
  /-- A whole number has too many digits to be written into a text. -/
  | numberTooLong
  | embeddedNul
  | unreadable (fault : Unreadable)
  | raised (kind message : String)
deriving Repr, DecidableEq

namespace Fault

def positionMessage : PositionFault → String
  | .offsetOutside offset length =>
    "Offset " ++ toString offset ++ " outside text of length " ++ toString length
  | .lineOutside line => "Line " ++ toString line ++ " outside text"
  | .columnOutside place => "Position " ++ place.written ++ " outside text"

def limitMessage : Limit → String
  | .passes => "max_fix_iterations must be at least 1"
  | .workers => "workers must be at least 1"
  | .timeout => "timeout must be positive"

def compositionMessage (violations : List Violation) : String :=
  "Invalid descriptor (" ++ toString violations.length ++ " problem(s)): " ++
    String.intercalate "; " (violations.map (·.message))

def message : Fault → String
  | invalidSpan start stop => "Invalid range [" ++ toString start ++ ", " ++ toString stop ++ ")"
  | position fault => positionMessage fault
  | unknownSeverity written =>
      "Unknown severity '" ++ written ++ "' (expected one of: " ++
        String.intercalate ", " (Severity.all.map (·.name)) ++ ")"
  | unknownMode name => quotedString name ++ " is not a valid LintMode"
  | unknownFormatter name known =>
      "Unknown formatter '" ++ name ++ "' (available: " ++ String.intercalate ", " known ++ ")"
  | limit which => limitMessage which
  | taken what name => what.title ++ " '" ++ name ++ "' already registered."
  | unregistered service => "Dependency '" ++ service ++ "' not registered."
  | configuration fault => fault.message
  | composition violations => compositionMessage violations
  | options ruleId fault =>
      match ruleId with
      | none => fault.message
      | some ruleId => if ruleId.isEmpty then fault.message else ruleId ++ ": " ++ fault.message
  | unsupportedKind kind => "No format plugin is bound for kind '" ++ kind ++ "'"
  | parse fault => fault.message
  | rule fault => fault.message
  | file fault => fault.message
  | decoding fault => fault.message
  | unhashable kindName => "unhashable type: '" ++ kindName ++ "'"
  | notIterable kindName => "argument of type '" ++ kindName ++ "' is not iterable"
  | noLookup kindName => "'" ++ kindName ++ "' object has no attribute 'get'"
  | timeoutTooLarge => "int too large to convert to float"
  | numberTooLong => NumberFault.overLimit ++ NumberFault.remedy
  | embeddedNul => "embedded null byte"
  | unreadable fault => fault.message
  | raised _ message => message

def kind : Fault → String
  | invalidSpan _ _ | position _ | unknownSeverity _ | unknownMode _ | unknownFormatter _ _
  | limit _ | taken _ _
  | unregistered _ | numberTooLong | embeddedNul => "ValueError"
  | configuration _ => "ConfigurationError"
  | composition violations =>
      if violations.any (·.isConflict) then "DuplicatePluginError" else "DescriptorValidationError"
  | options _ _ => "InvalidOptionsError"
  | unsupportedKind _ => "UnsupportedKindError"
  | parse _ => "ParseError"
  | rule _ => "RuleExecutionError"
  | file fault => fault.kind
  | decoding _ => "UnicodeDecodeError"
  | unhashable _ | notIterable _ => "TypeError"
  | noLookup _ => "AttributeError"
  | timeoutTooLarge => "OverflowError"
  | unreadable fault => fault.kind
  | raised kind _ => kind

def spanOf (start stop : Int) : Except Fault Span :=
  match Span.ofBounds? start stop with
  | some span => .ok span
  | none => .error (.invalidSpan start stop)

end Fault

def liftPosition {α : Type} : Except PositionFault α → Except Fault α
  | .ok a => .ok a
  | .error fault => .error (.position fault)

end ProseLinter
