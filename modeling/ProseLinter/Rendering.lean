import ProseLinter.Fault
import ProseLinter.Rendering.Data
import ProseLinter.Rendering.Lines
import ProseLinter.Rendering.Markup

/-!
Rendering: the results of a batch as text, in one of several formats.
-/

namespace ProseLinter

inductive Formatter where
  | stylish
  | compact
  | json
  | checkstyle
  | junit
  | tap
deriving Repr, DecidableEq

namespace Formatter

def all : List Formatter := [stylish, compact, json, checkstyle, junit, tap]

def name : Formatter → String
  | stylish => "stylish"
  | compact => "compact"
  | json => "json"
  | checkstyle => "checkstyle"
  | junit => "junit"
  | tap => "tap"

def named (name : String) : Except Fault Formatter :=
  match all.find? (·.name == name) with
  | some formatter => .ok formatter
  | none => .error (.unknownFormatter name (all.map (·.name)))

/-- The results of a batch in the format. Only the report for people has colours. -/
def render (formatter : Formatter) (color : Bool) (batch : BatchResult) : String :=
  match formatter with
  | stylish => Stylish.render color batch
  | compact => Compact.render batch
  | json => Json.pretty batch.value
  | checkstyle => Checkstyle.render batch
  | junit => JUnit.render batch
  | tap => Tap.render batch

end Formatter

end ProseLinter
