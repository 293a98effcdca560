import ProseLinter.CommandLine
import ProseLinter.Yaml.Reader

/-!
The program: it reads the files that a request can reach, does what is asked, writes back the files
that changed, and prints what there is to say.
-/

namespace ProseLinter

namespace Program

def written (names : List String) : String := "/" ++ String.intercalate "/" names

/-- Adds the files at the names, and those below them, to a file system; what cannot be read is left
out. -/
def load : Nat → List String → FileSystem → IO FileSystem
  | 0, _, system => return system
  | depth + 1, names, system => do
      let place := (← IO.currentDir) / written names
      try
        if ← place.isDir then
          let entries ← place.readDir
          entries.foldlM (fun system entry => load depth (names ++ [entry.fileName]) system)
            { system with folders := names :: system.folders }
        else if ← place.pathExists then
          let bytes ← IO.FS.readBinFile place
          return { system with files := FileSystem.replace names bytes.toList system.files }
        else return system
      catch _ => return system

def paths : CommandLine.Request → List Path
  | .lint request =>
    (if request.paths.isEmpty then [Path.ofString "."] else request.paths) ++ request.config.toList
  | .rules request => request.config.toList
  | .help => []

def namesOf (working : List String) (path : Path) : List String :=
  (ConfigFile.resolve (if path.isAbsolute then [] else working) path.parts).getD []

/-- The files that a request can reach: those that it names, and the project files above the working
folder. -/
def reach (request : CommandLine.Request) : IO FileSystem := do
  let working := (Path.ofString (← IO.currentDir).toString).parts
  let projects := (ConfigFile.upward working).map (· ++ [ConfigFile.projectFile])
  let system : FileSystem := ⟨"", [], [working], working⟩
  ((paths request).map (namesOf working) ++ projects).foldlM
    (fun system names => load 64 names system) system

def writeChanged (before after : FileSystem) : IO Unit :=
  after.files.forM fun (names, bytes) =>
    if before.bytes? names = some bytes then pure ()
    else IO.FS.writeBinFile (written names) (ByteArray.mk bytes.toArray)

def perform (request : CommandLine.Request) : IO UInt32 := do
  let system ← reach request
  match CommandLine.conclude Yaml.read system request with
  | .ok conclusion => do
      writeChanged system conclusion.files
      IO.print conclusion.output
      IO.eprint conclusion.errors
      return conclusion.exitCode.toUInt32
  | .error fault => do
      IO.eprintln (fault.kind ++ ": " ++ fault.message)
      return CommandLine.exitProblems.toUInt32

end Program

end ProseLinter

/-- Runs the program; arguments that make no request are answered with how it is used. -/
def main (arguments : List String) : IO UInt32 :=
  match ProseLinter.CommandLine.request? arguments with
  | some request => ProseLinter.Program.perform request
  | none => do
      IO.eprint ProseLinter.CommandLine.usage
      return ProseLinter.CommandLine.exitRefused.toUInt32
