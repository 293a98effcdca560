import ProseLinter.Files
import ProseLinter.Session

/-!
Runs over files: the files that paths stand for are read, processed as one batch, and written back
if a fix run changed them. A file that cannot be read has one error for a result and takes no part
in the batch; the results stand in the order of the files.
-/

namespace ProseLinter

structure Reading where
  path : String
  text : Except Fault Text

namespace Reading

/-- The kind of document that a path is: that of a format for its ending, or else the ending
itself. -/
def kindOf (profile : Profile) (path : String) : String :=
  let suffix := (Path.ofString path).suffix
  let bare := String.ofList (suffix.toList.dropWhile (· == '.'))
  match (profile.kindForExtension suffix).filter fun kind => !kind.isEmpty with
  | some kind => kind
  | none => if bare.isEmpty then "unknown" else bare

/-- Reads a file. What a file says or lacks is part of the reading; a path that can be of no file is
refused. -/
def ofFile (system : FileSystem) (path : String) : Except Fault Reading :=
  match system.readText path with
  | .error .embeddedNul => .error .embeddedNul
  | text => .ok ⟨path, text⟩

def source? (profile : Profile) (reading : Reading) : Option Source :=
  match reading.text with
  | .ok text => some ⟨reading.path, text, kindOf profile reading.path⟩
  | .error _ => none

def log (reading : Reading) : List LogRecord :=
  match reading.text with
  | .ok _ => []
  | .error fault => [⟨.info, .files, "Cannot read " ++ reading.path ++ ": " ++ fault.message⟩]

def failure (path : String) (fault : Fault) : DocumentResult :=
  .failure path Notice.readError.ruleId ("Cannot read file: " ++ fault.message) none

/-- The results of files, given the results of those that could be read, in their order. -/
def weave : List Reading → List DocumentResult → List DocumentResult
  | [], _ => []
  | reading :: readings, results =>
      match reading.text, results with
      | .error fault, _ => failure reading.path fault :: weave readings results
      | .ok _, result :: rest => result :: weave readings rest
      | .ok _, [] => []

end Reading

structure FileRun where
  results : BatchResult
  changed : List DocumentResult
  log : List LogRecord

namespace FileRun

def defaultPatterns : List String := ["**/*.md", "**/*.txt"]

/-- The files that paths stand for, each once; without paths, those of the working folder. -/
def discover (system : FileSystem) (paths patterns : List String) : Except Fault (List String) := do
  let found ← (if paths.isEmpty then ["."] else paths).mapM fun path =>
    system.discover path patterns
  return found.flatten.foldl
    (fun files path => if files.contains path then files else files ++ [path]) []

def discovered (files : List String) : LogRecord :=
  ⟨.debug, .files, "Discovered " ++ toString files.length ++ " file(s)"⟩

def fixed (result : DocumentResult) : LogRecord :=
  .step ("Fixed " ++ result.documentId ++ " (" ++ toString result.applied.length ++ " change(s))")

def ofReadings (runner : Runner) (profile : Profile) (mode : Mode) (readings : List Reading) :
    Except Fault FileRun := do
  let session ← Session.run runner profile mode (readings.filterMap (·.source? profile))
  let changed := if mode = .fix then session.results.fixedDocuments else []
  return ⟨Reading.weave readings session.results, changed,
    readings.flatMap (·.log) ++ session.log ++ changed.map fixed⟩

def writeBack (system : FileSystem) : List DocumentResult → Except Fault FileSystem
  | [] => .ok system
  | result :: rest => do
      writeBack (← system.writeText result.documentId (result.fixedText.getD [])) rest

/-- Runs a profile over the files that paths stand for; the files afterwards, and what came of the
run. -/
def perform (runner : Runner) (profile : Profile) (mode : Mode) (system : FileSystem)
    (paths patterns : List String) :
    Except Fault (FileSystem × FileRun) := do
  let files ← discover system paths patterns
  let run ← ofReadings runner profile mode (← files.mapM (Reading.ofFile system))
  return (← writeBack system run.changed, { run with log := discovered files :: run.log })

end FileRun

end ProseLinter
