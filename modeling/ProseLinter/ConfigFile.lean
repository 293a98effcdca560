import ProseLinter.Configuration
import ProseLinter.Files
import ProseLinter.Log
import ProseLinter.Text.Line
import ProseLinter.Toml.Reader

/-!
Configuration files. A file in one of three languages is the configuration, or, in TOML, holds it in
a table of tools. If no file is named, the nearest project file in the folders above that has such a
table is taken. How YAML is read is left open: whoever reads configurations brings a reader for it.
-/

namespace ProseLinter

/-- A reader of YAML: it gives the value that a text writes, or says why there is none. -/
abbrev YamlReader := Text → Except Unreadable Value

inductive ConfigLanguage where
  | toml
  | json
  | yaml
deriving Repr, DecidableEq

namespace ConfigLanguage

def ofSuffix? (suffix : String) : Option ConfigLanguage :=
  if suffix = ".toml" then some toml
  else if suffix = ".json" then some json
  else if suffix = ".yaml" ∨ suffix = ".yml" then some yaml
  else none

/-- The value that a text in the language writes. In YAML a value that is as good as none is an
empty table. -/
def read (readYaml : YamlReader) (language : ConfigLanguage) (text : Text) :
    Except Unreadable Value :=
  match language with
  | toml => (Toml.read text).map .table
  | json => Json.read text.withLineFeeds
  | yaml =>
      (readYaml text.withLineFeeds).map fun value => if value.isPresent then value else .table []

end ConfigLanguage

/-- A configuration that was found: the path of its file, and what the file says. -/
structure ConfigFile where
  path : String
  content : Value

namespace ConfigFile

def sectionName : String := "prosecheck"

def projectFile : String := "pyproject.toml"

def sectionKey : Key := .text sectionName

/-- The entry for tools of a project file; nothing and everything empty counts as no tools. -/
def tools (entries : Entries) : Value :=
  match entries.get? (.text "tool") with
  | some value => if value.isPresent then value else .table []
  | none => .table []

/-- The configuration in a TOML file: what its table of tools holds under the name, or else the
whole file. A list or a text in place of that table has no entries, but may contain the name. -/
def inTools (entries : Entries) : Except Fault Value :=
  let whole := Value.table entries
  match tools entries with
  | .table tools => .ok ((Table.get? tools sectionKey).getD whole)
  | .string text =>
      if Text.contains text.toList sectionName.toList then
        .error (.raised "TypeError" "string indices must be integers, not 'str'")
      else .ok whole
  | .list items =>
      if items.any fun item => item.key? == some sectionKey then
        .error (.raised "TypeError" "list indices must be integers or slices, not str")
      else .ok whole
  | other => .error (.notIterable other.kindName)

/-- Why a text holds no configuration: where it is malformed, that is said in words of its own. -/
def refusal (malformed : ConfigurationFault) : Unreadable → Fault
  | .malformed => .configuration malformed
  | fault => .unreadable fault

variable (readYaml : YamlReader) (disk : Disk)

def read (written : String) : Except Fault ConfigFile := do
  let path := Path.ofString written
  match ConfigLanguage.ofSuffix? path.suffix with
  | none => throw (.configuration (.unsupportedFormat path.written path.suffix))
  | some language =>
      let text ← match disk.readText path.written with
        | .error (.file fault) => throw (.configuration (.unreadable path.written fault))
        | result => result
      let value ← (language.read readYaml text).mapError (refusal (.malformed path.written))
      match language, value with
      | .toml, .table entries => return ⟨path.written, ← inTools entries⟩
      | _, value => return ⟨path.written, value⟩

/-- The path of the project file in a folder. -/
def projectPath (folder : List String) : String :=
  disk.root ++ "/" ++ String.intercalate "/" (folder ++ [projectFile])

/-- What the project file of a folder says, if there is one; one that cannot be opened says
nothing. -/
def projectEntries (folder : List String) : Except Fault (Option Entries) := do
  let path := projectPath disk folder
  let names := folder ++ [projectFile]
  if ← (disk.isFileAt path names).mapError (.file ⟨·, path⟩) then
    match disk.bytesAt path names with
    | .error _ => return some []
    | .ok bytes =>
        let text ← (Utf8.decode bytes).mapError .decoding
        some <$> (Toml.read text).mapError (refusal (.malformedToml path))
  else return none

def inFolder (folder : List String) : Except Fault (Option ConfigFile) := do
  match ← projectEntries disk folder with
  | none => return none
  | some entries =>
      match tools entries with
      | .table tools =>
          return (Table.get? tools sectionKey).map fun value => ⟨projectPath disk folder, value⟩
      | other => throw (.noLookup other.kindName)

def inFolders : List (List String) → Except Fault (Option ConfigFile)
  | [] => .ok none
  | folder :: rest => do
      match ← inFolder disk folder with
      | some file => return some file
      | none => inFolders rest

def upward (folder : List String) : List (List String) :=
  (List.range (folder.length + 1)).map fun count => folder.take (folder.length - count)

/-- The folder that parts of a path lead to, whether it exists or not; none beyond the root. -/
def resolve (folder : List String) : List String → Option (List String)
  | [] => some folder
  | part :: parts =>
      if part = ".." then if folder.isEmpty then none else resolve folder.dropLast parts
      else resolve (folder ++ [part]) parts

/-- The folder in which a search begins, unless the start leads to where nothing is known of. -/
def startFolder? (start : Path) : Option (List String) :=
  if start.isAbsolute then (disk.namesBelowRoot? start).bind (resolve [])
  else resolve disk.working start.parts

def find (start : Path) : Except Fault (Option ConfigFile) :=
  if Path.hasNul start.written then .error .embeddedNul
  else match startFolder? disk start with
    | some names => inFolders disk (upward names)
    | none => .ok none

/-- The configuration in the named file, or else in the nearest project file above the working
folder. -/
def locate : Option Path → Except Fault (Option ConfigFile)
  | some path => some <$> read readYaml disk path.written
  | none => find disk (Path.ofString "")

def record (file : ConfigFile) : LogRecord :=
  ⟨.debug, .configFile, "Using configuration from " ++ file.path⟩

def table (file : ConfigFile) : Except Fault Entries :=
  match file.content.untied with
  | .table entries => .ok entries
  | _ => .error (.configuration (.notATable file.path))

def tableOf : Option ConfigFile → Except Fault Entries
  | some file => file.table
  | none => .ok []

end ConfigFile

end ProseLinter
