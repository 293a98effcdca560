import Mathlib.Data.List.Nodup
import ProseLinter.Proofs.Attempt
import ProseLinter.Proofs.Files.Path

/-!
# Finding files

A search by wildcards comes to an end, with a list of what it found, wherever no name on its way is
too long for the system. Each path on that way is the start with names of the system below it, and
it leads to these very names below what the start leads to.
-/

namespace ProseLinter

/-- That no part of a pattern is a name that is to be taken as it stands. -/
def Glob.IsWild (glob : Glob) : Prop := ∀ part ∈ glob, ∀ name, part ≠ .exactly name

def Glob.AllWild (patterns : List String) : Prop :=
  ∀ pattern ∈ patterns, ∃ glob, Glob.ofString pattern = .ok glob ∧ glob.IsWild

namespace FileSystem

def known (system : FileSystem) : List (List String) := system.files.map (·.1) ++ system.folders

/-- That what a system has goes by names that can be parts of a path, and none of them is that of
the folder above. -/
def Named (system : FileSystem) : Prop :=
  ∀ names ∈ system.known, ∀ name ∈ names, Path.IsPart name ∧ name ≠ aboveName

/-- What a system has at a path and below it, by the names that lead there from the path. -/
inductive HasBelow (system : FileSystem) (path : Path) : List String → Prop
  | itself : HasBelow system path []
  | within {folder names whole : List String} (leads : system.find path.written = .ok folder)
      (known : whole ∈ system.known)
      (below : folder ++ names <+: whole) : HasBelow system path names

/-- That a system can be asked for a path and for everything below it: there is no null byte in the
path, and no name is too long. Of any other path nothing is found: a run over it fails. -/
structure Takes (system : FileSystem) (path : String) : Prop where
  proper : Path.hasNul path = false
  finds : ∀ names, system.HasBelow (.ofString path) names →
    system.find ((Path.ofString path).below names).written ≠ .error .nameTooLong

/-- That a path is one with which something goes on that a system has at or below another. -/
def Reaches (system : FileSystem) (start : String) (path : Path) : Prop :=
  ∃ names, system.HasBelow (.ofString start) names ∧ path = (Path.ofString start).below names

variable {system : FileSystem} {start path : Path} {folder names whole origin : List String}

/-! ## The way to a path -/

theorem follow_append (first others : List String) :
    system.follow origin (first ++ others) =
      system.follow origin first >>= fun names => system.follow names others := by
  induction first generalizing origin with
  | nil => rfl
  | cons piece first induction =>
      rw [List.cons_append, follow, follow]
      split
      · rfl
      · split
        · exact induction
        · split
          · exact induction
          · split
            · rfl
            · exact induction

theorem follow_resume {first idle others : List String}
    (idles : ∀ piece ∈ idle, piece = "" ∨ piece = ".")
    (led : system.follow origin (first ++ idle) = .ok folder) :
    system.follow origin (first ++ others) = system.follow folder others := by
  rw [follow_append] at led
  obtain ⟨names, there, stayed⟩ := ok_of_bind led
  have same : names = folder := by
    clear led there
    induction idle with
    | nil =>
        rw [follow, Except.ok.injEq] at stayed
        exact stayed
    | cons piece idle induction =>
        obtain ⟨own, others⟩ := List.forall_mem_cons.mp idles
        rw [follow] at stayed
        split at stayed
        · cases stayed
        · rw [if_pos (by simpa using own)] at stayed
          exact induction others stayed
  rw [follow_append, there, ← same]
  rfl

theorem follow_outside {pieces : List String}
    (led : system.follow (aboveName :: origin) pieces = .ok folder) :
    folder.head? = some aboveName := by
  induction pieces generalizing origin with
  | nil =>
      rw [follow, Except.ok.injEq] at led
      rw [← led]
      rfl
  | cons piece pieces induction =>
      rw [follow] at led
      split at led
      · cases led
      · split at led
        · exact induction led
        · split at led
          · rw [above] at led
            split at led
            · exact induction led
            next inside =>
              cases origin with
              | nil => exact absurd rfl inside
              | cons next rest => exact induction led
          · split at led
            · cases led
            · exact induction led

theorem isFolder_of_prefix (known : whole ∈ system.known) (below : names <+: whole)
    (more : names ≠ whole) :
    system.isFolder names = true := by
  rw [isFolder, Bool.or_eq_true, Bool.or_eq_true, List.any_eq_true, List.any_eq_true]
  rcases List.mem_append.mp known with file | folder
  · obtain ⟨entry, member, rfl⟩ := List.mem_map.mp file
    refine .inr ⟨entry, member, ?_⟩
    rw [Bool.and_eq_true, List.isPrefixOf_iff_prefix, bne_iff_ne]
    exact ⟨below, more.symm⟩
  · exact .inl (.inr ⟨whole, folder, List.isPrefixOf_iff_prefix.mpr below⟩)

theorem follow_names (named : system.Named) (known : whole ∈ system.known)
    (below : folder ++ names <+: whole) :
    system.follow folder names = .ok (folder ++ names) ∨
      system.follow folder names = .error .nameTooLong := by
  induction names generalizing folder with
  | nil => exact .inl (by rw [follow, List.append_nil])
  | cons name names induction =>
      have shorter : folder <+: whole := (List.prefix_append folder (name :: names)).trans below
      have more : folder ≠ whole := by
        rintro rfl
        have lengths := below.length_le
        rw [List.length_append, List.length_cons] at lengths
        omega
      have inside : name ∈ whole := below.subset (List.mem_append_right folder List.mem_cons_self)
      obtain ⟨⟨some_name, moves, -⟩, other⟩ := named whole known name inside
      have stays : ¬(name.isEmpty || decide (name = ".")) = true := by
        simpa using ⟨some_name, moves⟩
      rw [follow, isFolder_of_prefix known shorter more, Bool.not_true, if_neg Bool.false_ne_true,
        if_neg stays, if_neg other]
      split
      · exact .inr rfl
      · rw [List.append_cons folder name names] at *
        exact induction below

theorem piecesAfter_zero (pieces : List String) : piecesAfter 0 pieces = pieces := by
  cases pieces <;> rfl

theorem piecesAfter_append {count : Nat} {first : List String} (others : List String)
    (enough : count ≤ (first.filter Path.isReal).length) :
    piecesAfter count (first ++ others) = piecesAfter count first ++ others := by
  induction first generalizing count with
  | nil =>
      obtain rfl : count = 0 := Nat.le_zero.mp enough
      rw [piecesAfter_zero, piecesAfter_zero]
  | cons piece first induction =>
      cases count with
      | zero => rw [piecesAfter_zero, piecesAfter_zero]
      | succ count =>
          rw [List.cons_append, piecesAfter, piecesAfter]
          have either : Path.isReal piece = !(piece.isEmpty || decide (piece = ".")) :=
            (Bool.not_or _ _).symm
          rw [List.filter_cons, either] at enough
          cases idle : piece.isEmpty || decide (piece = ".") with
          | true =>
              rw [idle] at enough
              exact induction enough
          | false =>
              rw [idle] at enough
              exact induction (Nat.le_of_succ_le_succ enough)

/-- Whether a path with these parts is at the root or below it. -/
def atRoot (system : FileSystem) (parts : List String) : Bool :=
  (Path.ofString (system.root ++ "/")).isAbsolute &&
    (Path.ofString (system.root ++ "/")).parts.isPrefixOf parts

theorem locate_written (plain : path.Plain) : system.locate (Path.pieces path.written) =
    if path.isAbsolute then
      if system.atRoot path.parts then
        system.follow []
        (piecesAfter (Path.ofString system.root).parts.length (Path.pieces path.written))
      else system.follow [aboveName] (Path.pieces path.written)
    else system.follow system.working (Path.pieces path.written) := by
  have real : (Path.pieces path.written).filter (fun piece => !piece.isEmpty && piece != ".") =
      path.parts :=
    plain.filter_pieces
  rw [locate, plain.head_pieces, real]
  split
  · rw [namesBelowRoot?, atRoot]
    split
    next found =>
      split at found
      next inside => rw [if_pos inside]
      next => cases found
    next none_found =>
      split at none_found
      next => cases none_found
      next outside => rw [if_neg outside]
  · rfl

theorem HasBelow.parts (named : system.Named) (has : system.HasBelow path names) :
    ∀ name ∈ names, Path.IsPart name := by
  cases has with
  | itself => exact List.forall_mem_nil _
  | within leads known below =>
      intro name member
      exact (named _ known name (below.subset (List.mem_append_right _ member))).1

theorem locate_below (named : system.Named) (plain : start.Plain)
    (plain_below : (start.below names).Plain) (known : whole ∈ system.known)
    (below : folder ++ names <+: whole)
    (located : system.locate (Path.pieces start.written) = .ok folder) :
    system.locate (Path.pieces (start.below names).written) = system.follow folder names := by
  cases names with
  | nil => rw [Path.below_nil, located, follow]
  | cons name names =>
      have cut : Path.pieces (start.below (name :: names)).written =
          start.lead ++ start.parts ++ (name :: names) := by
        rw [plain_below.pieces_written]
        simp [Path.lead, Path.filler, Path.below]
      rw [locate_written plain, plain.pieces_written] at located
      rw [locate_written plain_below, cut]
      have idles := start.filler_idle
      change (if start.isAbsolute = true then _ else _) = _
      split at located
      next absolute =>
        rw [if_pos absolute]
        split at located
        next inside =>
          obtain ⟨absolute_root, part_of⟩ := Bool.and_eq_true_iff.mp inside
          rw [List.isPrefixOf_iff_prefix] at part_of
          have still : system.atRoot (start.below (name :: names)).parts = true :=
            Bool.and_eq_true_iff.mpr
              ⟨absolute_root, List.isPrefixOf_iff_prefix.mpr
                (part_of.trans (List.prefix_append start.parts _))⟩
          have enough : (Path.ofString system.root).parts.length ≤
              ((start.lead ++ start.parts).filter Path.isReal).length := by
            rw [plain.filter_lead, ← Path.parts_of_slash]
            exact part_of.length_le
          rw [piecesAfter_append _ enough] at located
          rw [if_pos still, piecesAfter_append _ enough]
          exact follow_resume idles located
        next outside =>
          have first := List.mem_of_mem_head? (follow_outside located)
          have among := below.subset (List.mem_append_left _ first)
          exact absurd rfl (named whole known aboveName among).2
      next relative =>
        rw [if_neg relative]
        exact follow_resume idles located

theorem locate_of_find {text : String} (found : system.find text = .ok folder) :
    system.locate (Path.pieces text) = .ok folder := by
  rw [find] at found
  split at found
  · cases found
  · split at found
    · cases found
    · exact found

theorem find_below (named : system.Named) (plain : start.Plain) (known : whole ∈ system.known)
    (below : folder ++ names <+: whole) (leads : system.find start.written = .ok folder)
    (short : system.find (start.below names).written ≠ .error .nameTooLong) :
    system.find (start.below names).written = .ok (folder ++ names) := by
  have plain_below := plain.below (HasBelow.within leads known below |>.parts named)
  have walk := locate_below named plain plain_below known below (locate_of_find leads)
  have some_path : (start.below names).written.isEmpty = false := by
    simpa using plain_below.written_ne_empty
  rw [find, some_path, if_neg Bool.false_ne_true] at short ⊢
  split
  next long => exact absurd (if_pos long) short
  next fits =>
    rw [if_neg fits, walk] at short
    rw [walk]
    exact (follow_names named known below).resolve_right short

/-! ## The search -/

section

variable {text : String}

/-- Below a path that is taken everything can be looked up, and is where its names lead from what
the path leads to. -/
theorem look_below (named : system.Named) (takes : system.Takes text)
    (has : system.HasBelow (.ofString text) names) :
    ∃ found, system.look ((Path.ofString text).below names) = .ok found ∧
      ∀ there, found = some there →
        ∃ folder, system.find (Path.ofString text).written = .ok folder ∧
        there = folder ++ names := by
  have plain := Path.plain_ofString takes.proper
  have proper := (plain.below (has.parts named)).written_proper
  have short := takes.finds names has
  rw [look, proper, if_neg Bool.false_ne_true]
  split
  next there found =>
    refine ⟨_, rfl, ?_⟩
    intro names_there same
    split at same
    · cases same
      cases has with
      | itself =>
          rw [Path.below_nil] at found
          exact ⟨there, found, (List.append_nil there).symm⟩
      | within leads known below =>
          rw [find_below named plain known below leads short, Except.ok.injEq] at found
          exact ⟨_, leads, found.symm⟩
    · cases same
  next found => exact absurd found short
  next => exact ⟨none, rfl, nofun⟩

theorem mem_foldersBelow {parts : List String} (member : parts ∈ system.foldersBelow folder) :
    parts = [] ∨ ∃ whole ∈ system.known, folder ++ parts <+: whole := by
  rw [foldersBelow, List.mem_eraseDups, List.mem_cons, List.mem_map] at member
  rcases member with rfl | ⟨names, inside, rfl⟩
  · exact .inl rfl
  · right
    obtain ⟨member, below⟩ := List.mem_filter.mp inside
    obtain ⟨parts, rfl⟩ := List.isPrefixOf_iff_prefix.mp below
    rw [List.drop_left]
    rcases List.mem_append.mp member with of_file | of_folder
    · obtain ⟨file, known, around⟩ := List.mem_flatMap.mp of_file
      obtain ⟨count, -, same⟩ := List.mem_map.mp around
      exact ⟨file.1, List.mem_append_left _ (List.mem_map_of_mem known),
        same ▸ List.take_prefix count file.1⟩
    · obtain ⟨own, known, around⟩ := List.mem_flatMap.mp of_folder
      rcases List.mem_append.mp around with above | itself
      · obtain ⟨count, -, same⟩ := List.mem_map.mp above
        exact ⟨own, List.mem_append_right _ known, same ▸ List.take_prefix count own⟩
      · exact ⟨own, List.mem_append_right _ known, List.mem_singleton.mp itself ▸ List.prefix_rfl⟩

theorem mem_namesIn {name : String} (member : name ∈ system.namesIn folder) :
    ∃ whole ∈ system.known, folder ++ [name] <+: whole := by
  have goes_on {names : List String}
      (next : (if folder.isPrefixOf names = true then (names.drop folder.length).head? else none) =
        some name) :
      folder ++ [name] <+: names := by
    split at next
    next below =>
      obtain ⟨parts, rfl⟩ := List.isPrefixOf_iff_prefix.mp below
      rw [List.drop_left] at next
      obtain ⟨rest, rfl⟩ := List.head?_eq_some_iff.mp next
      exact ⟨rest, by simp⟩
    · cases next
  rw [namesIn, List.mem_eraseDups, List.mem_append, List.mem_filterMap,
    List.mem_filterMap] at member
  rcases member with ⟨file, known, next⟩ | ⟨own, known, next⟩
  · exact ⟨file.1, List.mem_append_left _ (List.mem_map_of_mem known), goes_on next⟩
  · exact ⟨own, List.mem_append_right _ known, goes_on next⟩

theorem Reaches.proper (named : system.Named) (takes : system.Takes text)
    (reaches : system.Reaches text path) :
    Path.hasNul path.written = false := by
  obtain ⟨names, has, rfl⟩ := reaches
  exact ((Path.plain_ofString takes.proper).below (has.parts named)).written_proper

theorem select_below (named : system.Named) (takes : system.Takes text) {glob : Glob}
    (wild : glob.IsWild) (has : system.HasBelow (.ofString text) names) :
    ∃ found, system.select glob ((Path.ofString text).below names) = .ok found ∧
      ∀ path ∈ found, system.Reaches text path := by
  induction glob generalizing names with
  | nil =>
      rw [select]
      exact ⟨_, rfl, List.forall_mem_singleton.mpr ⟨names, has, rfl⟩⟩
  | cons part rest induction =>
      obtain ⟨no_name, wild_rest⟩ := List.forall_mem_cons.mp wild
      obtain ⟨looked, look, where_it_is⟩ := look_below named takes has
      -- The search goes on from what lies below, by names that the system has.
      have goes_on {more folder : List String}
          (leads : system.find (Path.ofString text).written = .ok folder)
          (below : more = [] ∨ ∃ whole ∈ system.known, folder ++ names ++ more <+: whole) :
          ∃ found, system.select rest (((Path.ofString text).below names).below more) = .ok found ∧
            ∀ path ∈ found, system.Reaches text path := by
        rw [Path.below_below]
        rcases below with rfl | ⟨whole, known, below⟩
        · rw [List.append_nil]
          exact induction wild_rest has
        · exact induction wild_rest (.within leads known (by rwa [← List.append_assoc]))
      cases part with
      | itself =>
          rw [select]
          exact ⟨_, rfl, List.forall_mem_singleton.mpr ⟨names, has, rfl⟩⟩
      | exactly name => exact absurd rfl (no_name name)
      | named pieces =>
          rw [select, look]
          cases looked with
          | none => exact ⟨[], rfl, List.forall_mem_nil _⟩
          | some there =>
              obtain ⟨folder, leads, rfl⟩ := where_it_is there rfl
              apply exists_flatten
              intro name member
              exact goes_on leads (.inr (mem_namesIn (List.mem_filter.mp member).1))
      | anyFolders =>
          rw [select, look]
          cases looked with
          | none => exact ⟨[], rfl, List.forall_mem_nil _⟩
          | some there =>
              obtain ⟨folder, leads, rfl⟩ := where_it_is there rfl
              apply exists_flatten
              intro parts member
              exact goes_on leads (mem_foldersBelow member)

theorem matching_below (named : system.Named) (takes : system.Takes text) {pattern : String}
    {glob : Glob} (read : Glob.ofString pattern = .ok glob) (wild : glob.IsWild) :
    ∃ found, system.matching (.ofString text) pattern = .ok found ∧
      ∀ path ∈ found, system.Reaches text path := by
  obtain ⟨found, selected, all⟩ := select_below named takes wild .itself
  rw [Path.below_nil] at selected
  have each : ∀ path ∈ found, ∃ kept,
      (do return (← system.look path).any system.isFile) = (.ok kept : Except Fault Bool) := by
    intro path member
    obtain ⟨names, has, rfl⟩ := all path member
    obtain ⟨looked, look, -⟩ := look_below named takes has
    exact ⟨looked.any system.isFile, by rw [look]; rfl⟩
  obtain ⟨kept, filtered, inside⟩ := exists_filterM each
  refine ⟨kept, ?_, fun path member => all path (inside path member)⟩
  rw [matching, read]
  change (system.select glob (Path.ofString text) >>= fun found => found.filterM _) = _
  rw [selected]
  exact filtered

/-- Of each path that a system takes it is found out what files it stands for, and these are at the
path or below it. -/
theorem discover_below (named : system.Named) (takes : system.Takes text) {patterns : List String}
    (wild : Glob.AllWild patterns) :
    ∃ files, system.discover text patterns = .ok files ∧
      ∀ file ∈ files, ∃ path, system.Reaches text path ∧ file = path.written := by
  obtain ⟨looked, look, -⟩ := look_below named takes .itself
  rw [Path.below_nil] at look
  rw [discover, look]
  have alone : ∀ file ∈ [(Path.ofString text).written], ∃ path, system.Reaches text path ∧
      file = path.written :=
    List.forall_mem_singleton.mpr ⟨_, ⟨[], .itself, (Path.below_nil _).symm⟩, rfl⟩
  cases looked with
  | none => exact ⟨_, rfl, alone⟩
  | some folder =>
      have each : ∀ pattern ∈ patterns, ∃ found,
          system.matching (.ofString text) pattern = .ok found ∧
          ∀ path ∈ found, system.Reaches text path := by
        intro pattern member
        obtain ⟨glob, read, only⟩ := wild pattern member
        exact matching_below named takes read only
      obtain ⟨found, matched, all⟩ := exists_mapM each
      change ∃ files, (if system.isFolder folder = true then _ else _) = _ ∧ _
      split
      · refine ⟨_, by rw [matched]; rfl, ?_⟩
        intro file member
        obtain ⟨path, sorted, rfl⟩ := List.mem_map.mp member
        rw [List.mem_mergeSort, List.mem_eraseDups] at sorted
        obtain ⟨paths, known, inside⟩ := List.mem_flatten.mp sorted
        exact ⟨path, all paths known path inside, rfl⟩
      · exact ⟨_, rfl, alone⟩

end

end FileSystem

namespace FileRun

/-- The paths from which the files of a run are found. -/
def starts (paths : List String) : List String := if paths.isEmpty then ["."] else paths

theorem default_patterns_wild : Glob.AllWild defaultPatterns := by
  let files (ending : List NamePiece) : Glob :=
    [.anyFolders, .named (.anything :: .exactly '.' :: ending)]
  have wild (ending : List NamePiece) : Glob.IsWild (files ending) := by
    simp [files, Glob.IsWild]
  have marked : Glob.ofString "**/*.md" = .ok (files [.exactly 'm', .exactly 'd']) := by
    decide +kernel
  have plain : Glob.ofString "**/*.txt" =
      .ok (files [.exactly 't', .exactly 'x', .exactly 't']) := by decide +kernel
  simp only [Glob.AllWild, defaultPatterns, List.forall_mem_cons]
  exact ⟨⟨_, marked, wild _⟩, ⟨_, plain, wild _⟩, List.forall_mem_nil _⟩

theorem listed_once (listed seen : List String) (distinct : seen.Nodup) :
    let once := listed.foldl
      (fun files path => if files.contains path then files else files ++ [path]) seen
    once.Nodup ∧ ∀ file, file ∈ once ↔ file ∈ seen ∨ file ∈ listed := by
  induction listed generalizing seen with
  | nil => exact ⟨distinct, fun file => by simp⟩
  | cons path rest induction =>
      dsimp only
      rw [List.foldl_cons]
      split
      next known =>
        rw [List.contains_iff_mem] at known
        obtain ⟨once, same⟩ := induction seen distinct
        refine ⟨once, fun file => ?_⟩
        rw [same, List.mem_cons]
        constructor
        · exact Or.imp_right .inr
        · rintro (old | rfl | later)
          · exact .inl old
          · exact .inl known
          · exact .inr later
      next new =>
        rw [List.contains_iff_mem] at new
        have still : (seen ++ [path]).Nodup := by
          rw [List.nodup_append]
          refine ⟨distinct, List.nodup_singleton path, ?_⟩
          rintro one member other alone rfl
          exact new (List.mem_singleton.mp alone ▸ member)
        obtain ⟨once, same⟩ := induction (seen ++ [path]) still
        refine ⟨once, fun file => ?_⟩
        rw [same, List.mem_append, List.mem_singleton, List.mem_cons, or_assoc]

theorem discover_nodup {system : FileSystem} {paths patterns files : List String}
    (found : discover system paths patterns = .ok files) : files.Nodup := by
  obtain ⟨listed, -, made⟩ := ok_of_bind found
  cases made
  exact (listed_once _ [] List.nodup_nil).1

theorem mem_of_discover {system : FileSystem} {paths patterns files : List String}
    (found : discover system paths patterns = .ok files) {path : String}
    (start : path ∈ starts paths) : ∃ own, system.discover path patterns = .ok own ∧
      ∀ file ∈ own, file ∈ files := by
  obtain ⟨lists, mapped, made⟩ := ok_of_bind found
  cases made
  obtain ⟨own, among, known⟩ := exists_left (mapM_ok mapped).flip start
  refine ⟨own, known, fun file member => ?_⟩
  exact ((listed_once _ [] List.nodup_nil).2 file).mpr (.inr (List.mem_flatten_of_mem among member))

theorem discover_ok {system : FileSystem} {paths patterns : List String} (named : system.Named)
    (takes : ∀ path ∈ starts paths, system.Takes path) (wild : Glob.AllWild patterns) :
    ∃ files, discover system paths patterns = .ok files ∧
      ∀ path ∈ files, Path.hasNul path = false := by
  have each : ∀ path ∈ starts paths, ∃ files, system.discover path patterns = .ok files ∧
      ∀ file ∈ files, Path.hasNul file = false := by
    intro path member
    obtain ⟨files, found, all⟩ := FileSystem.discover_below named (takes path member) wild
    refine ⟨files, found, ?_⟩
    intro file listed
    obtain ⟨written, reaches, rfl⟩ := all file listed
    exact reaches.proper named (takes path member)
  obtain ⟨found, mapped, all⟩ := exists_mapM each
  refine ⟨_, by rw [discover, ← starts, mapped]; rfl, ?_⟩
  intro file kept
  have inside := (((listed_once _ [] List.nodup_nil).2 file).mp kept).resolve_left List.not_mem_nil
  obtain ⟨files, known, listed⟩ := List.mem_flatten.mp inside
  exact all files known file listed

end FileRun

end ProseLinter
