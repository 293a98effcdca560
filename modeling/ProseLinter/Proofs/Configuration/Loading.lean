import Mathlib
import ProseLinter.ConfigFile
import ProseLinter.Proofs.Attempt
import ProseLinter.Proofs.Text.Utf8

/-!
# What configuration files let out

A file that cannot be opened, is malformed, or holds no table is refused as a configuration. What
else can go wrong on the way to its table gets out as it is: a path with a null byte, bytes that are
no UTF-8, a fault by which a text is well formed and yet cannot be read, and in TOML an entry for
tools that is no table.
-/

namespace ProseLinter

/-- Whether a fault is that of a configuration. -/
def Fault.isRefusal : Fault → Bool
  | configuration _ => true
  | _ => false

/-- That an attempt fails with a fault that is not of a configuration. -/
def LetsOut {α : Type} (attempt : Except Fault α) (fault : Fault) : Prop :=
  attempt = .error fault ∧ fault.isRefusal = false

namespace LetsOut

variable {α β : Type} {fault own : Fault}

theorem not_ok (made : α) : ¬LetsOut (.ok made) fault := nofun

end LetsOut

namespace ConfigFile

def load (readYaml : YamlReader) (disk : Disk) (written : String) : Except Fault Entries := do
  (← read readYaml disk written).table

/-- The table of the nearest project file in a folder and those above it, and an empty one if there
is none. -/
def search (disk : Disk) (start : Path) : Except Fault Entries := do tableOf (← find disk start)

/-! ## What is let out -/

section Texts

variable {α : Type} {read : Text → Except Unreadable α} {bytes : List UInt8} {fault : Fault}
  {malformed : ConfigurationFault}

end Texts

/-! ## Tools, and tables -/

section Tools

variable {fault : Fault}

end Tools

/-! ## A named file -/

section Named

variable {readYaml : YamlReader} {disk : Disk} {written : String} {language : ConfigLanguage}
  {fault : Fault}

end Named

/-! ## A search -/

section Search

variable {disk : Disk} {folder : List String} {folders : List (List String)} {start : Path}
  {fault : Fault}

end Search

end ConfigFile

end ProseLinter
