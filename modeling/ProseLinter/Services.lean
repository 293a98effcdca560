import ProseLinter.Fault
import ProseLinter.Table

/-!
Services: the parts that the program is put together from, under the names by which they are asked
for. Any of them can be exchanged, and further ones can be added.
-/

namespace ProseLinter

inductive Service where
  | telemetry
  | fileSystem
  | configFiles
  | registry
  | ruleGuide
  | supplied (text : String)
deriving Repr, DecidableEq

abbrev Services := Table String Service

namespace Services

def initial : Services :=
  [("TelemetryPort", .telemetry), ("FileSystemGateway", .fileSystem),
    ("ConfigFileLoader", .configFiles), ("CapabilityRegistry", .registry),
    ("RuleCatalog", .ruleGuide)]

def find (services : Services) (name : String) : Except Fault Service :=
  match Table.get? services name with
  | some service => .ok service
  | none => .error (.unregistered name)

def register (services : Services) (name text : String) : Services :=
  Table.set name (.supplied text) services

end Services

end ProseLinter
