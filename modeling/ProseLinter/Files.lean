import ProseLinter.Files.Glob
import ProseLinter.Text.Utf8

/-!
File systems: files with their bytes, below one root, and the folder from which relative paths
start. A folder exists if a file lies below it. Of what is outside the root nothing is known but
that there are folders above it. There are no links.

A disk is a file system that does not answer everything: whether there is a file at a path, and what
a file holds, may be refused with an error of the system, whatever the reason.
-/

namespace ProseLinter

structure FileSystem where
  root : String
  files : List (List String × List UInt8)
  folders : List (List String)
  working : List String

namespace FileSystem

def bytes? (system : FileSystem) (names : List String) : Option (List UInt8) :=
  system.files.lookup names

def aboveName : String := ".."

def above (names : List String) : List String :=
  if names.all (· == aboveName) then names ++ [aboveName] else names.dropLast

def isFolder (system : FileSystem) (names : List String) : Bool :=
  names.all (· == aboveName) || system.folders.any (fun folder => names.isPrefixOf folder) ||
    system.files.any fun file => names.isPrefixOf file.1 && file.1 != names

def isFile (system : FileSystem) (names : List String) : Bool := (system.bytes? names).isSome

def nameLimit : Nat := 255

def pathLimit : Nat := 4095

def follow (system : FileSystem) (names : List String) :
    List String → Except FileCause (List String)
  | [] => .ok names
  | part :: parts =>
      if !system.isFolder names then
        .error (if system.isFile names then .notADirectory else .missing)
      else if part.isEmpty || part = "." then follow system names parts
      else if part = aboveName then follow system (above names) parts
      else if nameLimit < part.utf8ByteSize then .error .nameTooLong
      else follow system (names ++ [part]) parts

def namesBelowRoot? (system : FileSystem) (path : Path) : Option (List String) :=
  let root := Path.ofString (system.root ++ "/")
  if root.isAbsolute && root.parts.isPrefixOf path.parts then
    some (path.parts.drop root.parts.length)
  else none

/-- The pieces of a path after those of its first `count` parts; empty pieces and those that lead
nowhere are no parts. -/
def piecesAfter : Nat → List String → List String
  | count + 1, piece :: rest =>
    piecesAfter (if piece.isEmpty || piece = "." then count + 1 else count) rest
  | _, pieces => pieces

def locate (system : FileSystem) (pieces : List String) : Except FileCause (List String) :=
  if pieces.head? == some "" then
    match system.namesBelowRoot?
      ⟨"/", pieces.filter fun piece => !piece.isEmpty && piece != "."⟩ with
    | some _ => system.follow [] (piecesAfter (Path.ofString system.root).parts.length pieces)
    | none => system.follow [aboveName] pieces
  else system.follow system.working pieces

def find (system : FileSystem) (path : String) : Except FileCause (List String) :=
  if path.isEmpty then .error .missing
  else if pathLimit < path.utf8ByteSize then .error .nameTooLong
  else system.locate (Path.pieces path)

/-- The names that a path leads to, if there is anything; refused where even that cannot be found
out. -/
def look (system : FileSystem) (path : Path) : Except Fault (Option (List String)) :=
  if Path.hasNul path.written then .ok none
  else match system.find path.written with
    | .ok names => .ok (if system.isFolder names || system.isFile names then some names else none)
    | .error .nameTooLong => .error (.file ⟨.nameTooLong, path.written⟩)
    | .error _ => .ok none

def readBytes (system : FileSystem) (path : String) : Except Fault (List UInt8) :=
  if Path.hasNul path then .error .embeddedNul
  else match system.find path with
    | .error cause => .error (.file ⟨cause, path⟩)
    | .ok names =>
        match system.bytes? names with
        | some bytes => .ok bytes
        | none => .error (.file ⟨if system.isFolder names then .isADirectory else .missing, path⟩)

def readText (system : FileSystem) (path : String) : Except Fault Text := do
  (Utf8.decode (← system.readBytes path)).mapError .decoding

/-- Files with one of them written anew: in its place, or at the end if it is a new one. -/
def replace (names : List String) (bytes : List UInt8) :
    List (List String × List UInt8) → List (List String × List UInt8)
  | [] => [(names, bytes)]
  | file :: rest =>
      if file.1 = names then (names, bytes) :: rest else file :: replace names bytes rest

theorem lookup_replace_self (names : List String) (bytes : List UInt8)
    (files : List (List String × List UInt8)) :
    (replace names bytes files).lookup names = some bytes := by
  induction files with
  | nil => simp [replace]
  | cons file rest induction => grind [replace]

theorem lookup_replace_of_ne {names other : List String} (bytes : List UInt8)
    (distinct : other ≠ names) (files : List (List String × List UInt8)) :
    (replace names bytes files).lookup other = files.lookup other := by
  induction files with
  | nil => grind [replace]
  | cons file rest induction => grind [replace]

/-- Why nothing can be written to a path that leads nowhere: one that ends in a slash asks for a
folder. -/
def writingCause (system : FileSystem) (path : String) (cause : FileCause) : FileCause :=
  let pieces := Path.pieces (String.ofList (Text.dropEndWhile (· == '/') path.toList))
  let isNamed := pieces.getLast?.any fun name => name ∉ ["", ".", aboveName]
  let hasFolder :=
    match if pieces.length ≤ 1 then .ok system.working else system.locate pieces.dropLast with
    | .ok names => system.isFolder names
    | .error _ => false
  if path.toList.getLast? == some '/' && path.utf8ByteSize ≤ pathLimit && isNamed && hasFolder then
    .isADirectory
  else cause

/-- Writes a text to the file at a written path. The folder of the file has to exist. -/
def writeText (system : FileSystem) (path : String) (text : Text) : Except Fault FileSystem :=
  if Path.hasNul path then .error .embeddedNul
  else match system.find path with
    | .error cause => .error (.file ⟨system.writingCause path cause, path⟩)
    | .ok names =>
        if system.isFolder names then .error (.file ⟨.isADirectory, path⟩)
        else .ok { system with files := replace names (Utf8.encode text) system.files }

def namesIn (system : FileSystem) (folder : List String) : List String :=
  let next (names : List String) : Option String :=
    if folder.isPrefixOf names then (names.drop folder.length).head? else none
  (system.files.filterMap (next ·.1) ++ system.folders.filterMap next).eraseDups

def allFolders (system : FileSystem) : List (List String) :=
  let around (names : List String) : List (List String) := (List.range names.length).map names.take
  system.files.flatMap (around ·.1) ++
    system.folders.flatMap fun folder => around folder ++ [folder]

def foldersBelow (system : FileSystem) (folder : List String) : List (List String) :=
  ([] :: (system.allFolders.filter folder.isPrefixOf).map (·.drop folder.length)).eraseDups

/-- The paths below one that a pattern stands for. Where more of the pattern follows, only folders
count. -/
def select (system : FileSystem) : Glob → Path → Except Fault (List Path)
  | [], path | .itself :: _, path => .ok [path]
  | .exactly name :: rest, path => do
      let child := path.below [name]
      match ← system.look child with
      | some names =>
          if rest.isEmpty || system.isFolder names then system.select rest child else return []
      | none => return []
  | .named pieces :: rest, path => do
      match ← system.look path with
      | some folder =>
          let matching := (system.namesIn folder).filter fun name =>
            NamePiece.matchAll pieces name.toList &&
              (rest.isEmpty || system.isFolder (folder ++ [name]))
          return (← matching.mapM fun name => system.select rest (path.below [name])).flatten
      | none => return []
  | .anyFolders :: rest, path => do
      match ← system.look path with
      | some folder =>
          return (← (system.foldersBelow folder).mapM fun parts =>
            system.select rest (path.below parts)).flatten
      | none => return []

def namesOrdered : List String → List String → Bool
  | [], _ => true
  | _ :: _, [] => false
  | a :: as, b :: bs => decide (a < b) || (a == b && namesOrdered as bs)

def matching (system : FileSystem) (start : Path) (pattern : String) :
    Except Fault (List Path) := do
  let found ← system.select (← Glob.ofString pattern) start
  found.filterM fun path => return (← system.look path).any system.isFile

/-- The files that a path stands for: those in the folder that match one of the patterns, sorted;
any other path stands for itself. -/
def discover (system : FileSystem) (path : String) (patterns : List String) :
    Except Fault (List String) := do
  let start := Path.ofString path
  match ← system.look start with
  | some folder =>
      if system.isFolder folder then
        let found ← patterns.mapM (system.matching start)
        return (found.flatten.eraseDups.mergeSort fun a b =>
          namesOrdered a.parts b.parts).map (·.written)
      else return [start.written]
  | none => return [start.written]

end FileSystem

/-- A file system that refuses paths for causes of its own: some it does not look at when asked
whether there is a file, and some it does not open. -/
structure Disk extends FileSystem where
  unseen : String → Option FileCause
  unopened : String → Option FileCause

/-- The disk on which nothing is refused. -/
def FileSystem.disk (system : FileSystem) : Disk := ⟨system, fun _ => none, fun _ => none⟩

namespace Disk

/-- Whether a path leads to a file by names, as far as the system tells. -/
def lookAt (disk : Disk) (path : String) (names : List String) : Except FileCause Bool :=
  match disk.unseen path with
  | some cause => .error cause
  | none => (disk.follow [] names).map disk.isFile

/-- Where there is nothing to look at there is no file; any other error of the system is let out. -/
def isFileAt (disk : Disk) (path : String) (names : List String) : Except FileCause Bool :=
  match disk.lookAt path names with
  | .ok found => .ok found
  | .error cause => if cause.isAbsence then .ok false else .error cause

def bytesAt (disk : Disk) (path : String) (names : List String) : Except FileCause (List UInt8) :=
  match disk.unopened path, disk.bytes? names with
  | some cause, _ => .error cause
  | none, some bytes => .ok bytes
  | none, none => .error .missing

def readBytes (disk : Disk) (path : String) : Except Fault (List UInt8) :=
  if Path.hasNul path then .error .embeddedNul
  else match disk.unopened path with
    | some cause => .error (.file ⟨cause, path⟩)
    | none => disk.toFileSystem.readBytes path

def readText (disk : Disk) (path : String) : Except Fault Text := do
  (Utf8.decode (← disk.readBytes path)).mapError .decoding

end Disk

end ProseLinter
