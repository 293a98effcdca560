import ProseLinter.FileRun

/-!
# File systems of one shape

Two file systems have one shape if they hold the same files and folders, whatever is in the files.
Where a path leads, what is found there and which files a pattern stands for depend on the shape
alone, so what is written into files that exist already changes none of it.
-/

namespace ProseLinter

namespace FileSystem

/-- That two file systems have the same files and folders; what the files hold may differ. -/
structure Alike (system other : FileSystem) : Prop where
  root : other.root = system.root
  names : other.files.map (·.1) = system.files.map (·.1)
  folders : other.folders = system.folders
  working : other.working = system.working

variable {system other third : FileSystem} {names : List String} {bytes : List UInt8}
  {files : List (List String × List UInt8)}

theorem Alike.refl (system : FileSystem) : system.Alike system := ⟨rfl, rfl, rfl, rfl⟩

theorem Alike.trans (first : system.Alike other) (second : other.Alike third) :
    system.Alike third :=
  ⟨second.root.trans first.root, second.names.trans first.names, second.folders.trans first.folders,
    second.working.trans first.working⟩

theorem isFile_iff : system.isFile names = true ↔ names ∈ system.files.map (·.1) := by
  rw [isFile, bytes?, List.lookup_isSome_iff, List.mem_map]
  simp only [beq_iff_eq, eq_comm (a := names)]

theorem names_replace (known : names ∈ files.map (·.1)) :
    (replace names bytes files).map (·.1) = files.map (·.1) := by
  induction files with
  | nil => cases known
  | cons file rest induction =>
      rw [replace]
      split
      next same => rw [List.map_cons, List.map_cons, same]
      next different =>
        rw [List.map_cons, List.map_cons] at *
        rw [induction ((List.mem_cons.mp known).resolve_left (Ne.symm different))]

section

variable (alike : system.Alike other)

include alike

theorem Alike.isFile : other.isFile = system.isFile := by
  funext names
  rw [Bool.eq_iff_iff, isFile_iff, isFile_iff, alike.names]

theorem Alike.any_file (p : List String → Bool) :
    (other.files.any fun file => p file.1) = system.files.any fun file => p file.1 := by
  have by_names (files : List (List String × List UInt8)) :
      (files.any fun file => p file.1) = (files.map (·.1)).any p := by
    rw [List.any_map]
    rfl
  rw [by_names, by_names, alike.names]

theorem Alike.isFolder : other.isFolder = system.isFolder := by
  funext names
  rw [FileSystem.isFolder, FileSystem.isFolder, alike.folders,
    alike.any_file fun name => names.isPrefixOf name && name != names]

theorem Alike.follow (names parts : List String) :
    other.follow names parts = system.follow names parts := by
  induction parts generalizing names with
  | nil => rfl
  | cons part parts induction =>
      simp only [FileSystem.follow, alike.isFolder, alike.isFile, induction]

theorem Alike.locate (pieces : List String) : other.locate pieces = system.locate pieces := by
  simp only [FileSystem.locate, namesBelowRoot?, alike.root, alike.working, alike.follow]

theorem Alike.find (path : String) : other.find path = system.find path := by
  simp only [FileSystem.find, alike.locate]

theorem Alike.look (path : Path) : other.look path = system.look path := by
  simp only [FileSystem.look, alike.find, alike.isFolder, alike.isFile]

/-! ## Discovery -/

theorem Alike.namesIn (folder : List String) : other.namesIn folder = system.namesIn folder := by
  let next (names : List String) : Option String :=
    if folder.isPrefixOf names then (names.drop folder.length).head? else none
  have by_names (files : List (List String × List UInt8)) :
      (files.filterMap fun file => next file.1) = (files.map (·.1)).filterMap next := by
    rw [List.filterMap_map]
    rfl
  change ((other.files.filterMap fun file => next file.1) ++
    other.folders.filterMap next).eraseDups =
    ((system.files.filterMap fun file => next file.1) ++ system.folders.filterMap next).eraseDups
  rw [by_names, by_names, alike.names, alike.folders]

theorem Alike.allFolders : other.allFolders = system.allFolders := by
  let around (names : List String) : List (List String) := (List.range names.length).map names.take
  have by_names (files : List (List String × List UInt8)) :
      (files.flatMap fun file => around file.1) = (files.map (·.1)).flatMap around := by
    rw [List.flatMap_map]
  let itself (folder : List String) : List (List String) := around folder ++ [folder]
  change (other.files.flatMap fun file => around file.1) ++ other.folders.flatMap itself =
    (system.files.flatMap fun file => around file.1) ++ system.folders.flatMap itself
  rw [by_names, by_names, alike.names, alike.folders]

theorem Alike.foldersBelow (folder : List String) :
    other.foldersBelow folder = system.foldersBelow folder := by
  rw [FileSystem.foldersBelow, FileSystem.foldersBelow, alike.allFolders]

theorem Alike.select (glob : Glob) (path : Path) :
    other.select glob path = system.select glob path := by
  induction glob generalizing path with
  | nil => rw [FileSystem.select.eq_def, FileSystem.select.eq_def]
  | cons part rest induction =>
      cases part with
      | itself => rw [FileSystem.select.eq_def, FileSystem.select.eq_def]
      | exactly name => simp only [FileSystem.select, alike.look, alike.isFolder, induction]
      | named pieces =>
          simp only [FileSystem.select, alike.look, alike.isFolder, alike.namesIn, induction]
      | anyFolders => simp only [FileSystem.select, alike.look, alike.foldersBelow, induction]

theorem Alike.matching (start : Path) (pattern : String) :
    other.matching start pattern = system.matching start pattern := by
  simp only [FileSystem.matching, alike.select, alike.look, alike.isFile]

theorem Alike.discover (path : String) (patterns : List String) :
    other.discover path patterns = system.discover path patterns := by
  simp only [FileSystem.discover, alike.look, alike.isFolder, funext (alike.matching _)]

end

end FileSystem

theorem FileRun.discover_of_alike {system other : FileSystem} (alike : system.Alike other)
    (paths patterns : List String) :
    discover other paths patterns = discover system paths patterns := by
  simp only [discover, alike.discover]

end ProseLinter
