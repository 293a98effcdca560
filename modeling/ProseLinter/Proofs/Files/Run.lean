import ProseLinter.Proofs.Files.Discovery
import ProseLinter.Proofs.Files.Writing
import ProseLinter.Proofs.Fix.Outcome
import ProseLinter.Proofs.Session.Batch

/-!
# Runs over files

Every file has its result at its place and under its path. A file that cannot be read has one error
for a result and the batch never sees it; every other has the result that the batch of the readable
files gives it. A fix run writes the texts of the results that have one to their paths, and
everything else reads as before; a run that only reports writes nothing.
-/

namespace ProseLinter

namespace Reading

variable {profile : Profile} {readings : List Reading} {results woven : List DocumentResult}

/-- That results stand for readings: the failure for each text that could not be read, and for the
others the results of their batch, in order. -/
inductive Woven : List Reading → List DocumentResult → List DocumentResult → Prop
  | nil : Woven [] [] []
  | unread {path : String} {fault : Fault} {readings : List Reading}
      {results woven : List DocumentResult} (later : Woven readings results woven) :
      Woven (⟨path, .error fault⟩ :: readings) results (failure path fault :: woven)
  | read {path : String} {text : Text} {result : DocumentResult} {readings : List Reading}
      {results woven : List DocumentResult} (about : result.documentId = path)
      (later : Woven readings results woven) :
      Woven (⟨path, .ok text⟩ :: readings) (result :: results) (result :: woven)

theorem woven_weave (about : List.Forall₂ (fun source result => result.documentId = source.id)
    (readings.filterMap (·.source? profile)) results) :
    Woven readings results (weave readings results) := by
  induction readings generalizing results with
  | nil =>
      cases about
      exact .nil
  | cons reading readings induction =>
      obtain ⟨path, fault | text⟩ := reading
      case error => exact .unread (induction about)
      case ok =>
        cases about with
        | cons own others => exact .read own (induction others)

theorem Woven.places (places : Woven readings results woven) :
    List.Forall₂ (fun reading result => result.documentId = reading.path ∧
      ∀ fault, reading.text = .error fault → result = failure reading.path fault)
        readings woven := by
  induction places with
  | nil => exact .nil
  | unread later induction =>
      refine .cons ⟨rfl, ?_⟩ induction
      intro fault same
      rw [Except.error.inj same]
  | read about later induction => exact .cons ⟨about, nofun⟩ induction

theorem Woven.readable (places : Woven readings results woven) :
    ((readings.zip woven).filter fun entry => entry.1.text.isOk).map (·.2) = results := by
  induction places with
  | nil => rfl
  | unread later induction => exact induction
  | read about later induction => exact congrArg (List.cons _) induction

theorem Woven.sublist (places : Woven readings results woven) : results.Sublist woven := by
  induction places with
  | nil => exact .slnil
  | unread later induction => exact induction.cons _
  | read about later induction => exact induction.cons_cons _

theorem Woven.fixed (places : Woven readings results woven) :
    results.filter (·.fixedText.isSome) = woven.filter (·.fixedText.isSome) := by
  induction places with
  | nil => rfl
  | unread later induction => exact induction
  | @read path text result readings results woven about later induction =>
      rw [List.filter_cons, List.filter_cons, induction]

theorem Woven.reads (places : Woven readings results woven) {result : DocumentResult}
    (member : result ∈ results) :
    ∃ text, ⟨result.documentId, .ok text⟩ ∈ readings := by
  induction places with
  | nil => cases member
  | unread later induction =>
      obtain ⟨text, known⟩ := induction member
      exact ⟨text, List.mem_cons_of_mem _ known⟩
  | @read path text first readings results woven about later induction =>
      rcases List.mem_cons.mp member with same | behind
      · subst same about
        exact ⟨text, List.mem_cons_self⟩
      · obtain ⟨text, known⟩ := induction behind
        exact ⟨text, List.mem_cons_of_mem _ known⟩

theorem ofFile_of_proper {system : FileSystem} {path : String} (proper : Path.hasNul path = false) :
    ofFile system path = .ok ⟨path, system.readText path⟩ := by
  rw [ofFile]
  split
  next refused => exact absurd refused (FileSystem.readText_ne_embeddedNul proper)
  · rfl

theorem source?_eq_some_iff {reading : Reading} {source : Source} :
    reading.source? profile = some source ↔
      ∃ text, reading.text = .ok text ∧
        source = ⟨reading.path, text, kindOf profile reading.path⟩ := by
  obtain ⟨path, fault | text⟩ := reading
  · simp [source?]
  · simp [source?, eq_comm]

end Reading

namespace FileRun

variable {system after : FileSystem} {runner : Runner} {profile : Profile} {mode : Mode}
  {limit workers : Int} {paths patterns files : List String} {record : Session.Record}

/-! ## The files and what is read of them -/

def readings (system : FileSystem) (files : List String) : List Reading :=
  files.map fun path => ⟨path, system.readText path⟩

/-- The sources of the files that can be read, in their order. -/
def sources (profile : Profile) (system : FileSystem) (files : List String) : List Source :=
  (readings system files).filterMap (·.source? profile)

theorem readings_of_files (proper : ∀ path ∈ files, Path.hasNul path = false) :
    files.mapM (Reading.ofFile system) = .ok (readings system files) := by
  induction files with
  | nil => rfl
  | cons path rest induction =>
      obtain ⟨own, others⟩ := List.forall_mem_cons.mp proper
      rw [List.mapM_cons, Reading.ofFile_of_proper own, induction others]
      rfl

theorem read_of_result {woven : List DocumentResult}
    (places : Reading.Woven (readings system files) record.results woven) {result : DocumentResult}
    (member : result ∈ record.results) : ∃ text, system.readText result.documentId = .ok text := by
  obtain ⟨text, known⟩ := places.reads member
  obtain ⟨path, -, same⟩ := List.mem_map.mp known
  rw [Reading.mk.injEq] at same
  exact ⟨text, same.1 ▸ same.2⟩

theorem sources_sublist (profile : Profile) (system : FileSystem) (files : List String) :
    ((sources profile system files).map (·.id)).Sublist files := by
  induction files with
  | nil => exact .slnil
  | cons path rest induction =>
      rw [sources, readings, List.map_cons, List.filterMap_cons]
      split
      next => exact induction.cons path
      next source made =>
        obtain ⟨text, read, rfl⟩ := Reading.source?_eq_some_iff.mp made
        exact induction.cons_cons path

/-! ## The run -/

def toWrite (mode : Mode) (record : Session.Record) : List DocumentResult :=
  if mode = .fix then record.results.fixedDocuments else []

theorem mem_results_of_toWrite {result : DocumentResult} (member : result ∈ toWrite mode record) :
    result ∈ record.results := by
  rw [toWrite] at member
  split at member
  · exact (List.mem_filter.mp member).1
  · cases member

theorem ofReadings_of_session
    (runs : Session.run runner profile mode (sources profile system files) = .ok record) :
    ∃ log, ofReadings runner profile mode (readings system files) =
      .ok ⟨Reading.weave (readings system files) record.results, toWrite mode record, log⟩ := by
  refine ⟨(readings system files).flatMap (·.log) ++ record.log ++
    (toWrite mode record).map fixed, ?_⟩
  rw [ofReadings]
  change (Session.run runner profile mode (sources profile system files) >>= _) = _
  rw [runs]
  rfl

theorem limit_of_run {sources : List Source}
    (runs : Session.run runner profile mode sources = .ok record) :
    1 ≤ runner.limit := by
  by_contra below
  rw [Session.run, if_pos (by omega)] at runs
  cases runs

theorem woven_of_run (positive : 0 < runner.workers)
    (runs : Session.run runner profile mode (sources profile system files) = .ok record) :
    Reading.Woven (readings system files) record.results
      (Reading.weave (readings system files) record.results) :=
  Reading.woven_weave
    (Session.run_about profile mode (sources profile system files) positive
      (limit_of_run runs) runs)

theorem perform_of_session (sound : system.Sound)
    (found : discover system paths patterns = .ok files)
    (proper : ∀ path ∈ files, Path.hasNul path = false) (positive : 0 < runner.workers)
    (runs : Session.run runner profile mode (sources profile system files) = .ok record) :
    ∃ after run, perform runner profile mode system paths patterns = .ok (after, run) ∧
      Reading.Woven (readings system files) record.results run.results ∧
      run.changed = toWrite mode record ∧
      Writes system after run.changed ∧ writeBack system run.changed = .ok after := by
  have places := woven_of_run positive runs
  have each : ∀ result ∈ toWrite mode record, ∃ names, system.LeadsTo result.documentId names := by
    intro result member
    obtain ⟨text, read⟩ := read_of_result places (mem_results_of_toWrite member)
    exact FileSystem.leadsTo_of_readText read
  obtain ⟨after, ran, writes⟩ := writeBack_writes sound each
  obtain ⟨log, made⟩ := ofReadings_of_session runs
  have performed : perform runner profile mode system paths patterns =
      .ok (after,
        ⟨Reading.weave (readings system files) record.results, toWrite mode record,
          discovered files :: log⟩) := by
    rw [perform, found]
    change (files.mapM (Reading.ofFile system) >>= _) = _
    rw [readings_of_files proper]
    change (ofReadings runner profile mode (readings system files) >>= _) = _
    rw [made]
    change (writeBack system (toWrite mode record) >>= _) = _
    rw [ran]
    rfl
  exact ⟨after, _, performed, places, rfl, writes, ran⟩

theorem session_of_files (profile : Profile) (mode : Mode) (system : FileSystem)
    (positive : 0 < runner.workers) (valid : 1 ≤ runner.limit) (distinct : files.Nodup) :
    ∃ record, Session.run runner profile mode (sources profile system files) = .ok record :=
  Session.run_of_distinct profile mode (sources profile system files) positive valid
    ((sources_sublist profile system files).nodup distinct)

theorem ofFile_of_nul {path : String} (nul : Path.hasNul path = true) :
    Reading.ofFile system path = .error .embeddedNul := by
  have unread : system.readText path = .error .embeddedNul := by
    rw [FileSystem.readText, FileSystem.readBytes, if_pos nul]
    rfl
  rw [Reading.ofFile, unread]

/-- A run over a path that is refused fails: the system is asked for it when files are looked for,
or, if there is a null byte in it, when they are read. -/
theorem perform_of_refused {path : String} (start : path ∈ starts paths)
    (refused : (∃ fault, system.look (.ofString path) = .error fault) ∨
      Path.hasNul (Path.ofString path).written = true) :
    ∃ fault, perform runner profile mode system paths patterns = .error fault := by
  cases found : discover system paths patterns with
  | error fault => exact ⟨fault, by rw [perform, found]; rfl⟩
  | ok files =>
      obtain ⟨own, known, among⟩ := mem_of_discover found start
      rw [FileSystem.discover] at known
      cases unread : files.mapM (Reading.ofFile system) with
      | error fault =>
          refine ⟨fault, ?_⟩
          rw [perform, found]
          change (files.mapM (Reading.ofFile system) >>= _) = _
          rw [unread]
          rfl
      | ok readings =>
          rcases refused with ⟨fault, unseen⟩ | nul
          · rw [unseen] at known
            cases known
          · -- Nothing stands at a path with a null byte, so it is listed as it is and read.
            have nothing : system.look (.ofString path) = .ok none := by
              rw [FileSystem.look, if_pos nul]
            rw [nothing] at known
            cases known
            have listed := among _ (List.mem_singleton_self _)
            obtain ⟨reading, -, read⟩ := exists_left (mapM_ok unread).flip listed
            rw [ofFile_of_nul nul] at read
            cases read

end FileRun

/-- A run gives one result for each file that is found, in the order of the files and under their
paths. A file that cannot be read has a single error for a result and takes no part in the session;
the others have the results that the session over them alone gives. A fix run writes those texts
that results have, each to its path, and every path that leads to none of these files reads as
before; a run that only reports leaves everything as it was. The patterns are wild, as the default
ones are, and no path has a null byte in it or anything at or below it with a name too long for the
system: with such a path the run fails. -/
theorem files_keep_their_results (limit workers : Int) (runner : Runner) (profile : Profile)
    (mode : Mode) (system : FileSystem) (paths patterns : List String)
    (made : Runner.make limit workers none = .ok runner) (valid : 1 ≤ limit) (sound : system.Sound)
    (named : system.Named) (wild : Glob.AllWild patterns)
    (takes : ∀ path ∈ FileRun.starts paths, system.Takes path) :
    ∃ files after run session,
      FileRun.discover system paths patterns = .ok files ∧
      FileRun.perform runner profile mode system paths patterns = .ok (after, run) ∧
      Session.run runner profile mode (FileRun.sources profile system files) = .ok session ∧
      files.Nodup ∧
      List.Forall₂ (fun path result => result.documentId = path ∧
        ∀ fault, system.readText path = .error fault →
          result = Reading.failure path fault ∧
            result.findings.map (·.ruleId) = [Notice.readError.ruleId])
        files run.results ∧
      ((files.zip run.results).filter fun entry => (system.readText entry.1).isOk).map (·.2) =
        session.results ∧
      run.changed = (if mode = .fix then run.results.filter (·.fixedText.isSome) else []) ∧
      system.Alike after ∧ (mode = .lint → after = system) ∧
      (∀ path, (∀ result ∈ run.changed, ¬system.SameFile path result.documentId) →
        after.readBytes path = system.readBytes path) ∧
      ∀ result ∈ run.changed, ∀ text, result.fixedText = some text →
        (∀ other ∈ run.changed, system.SameFile result.documentId other.documentId →
          other = result) →
        after.readBytes result.documentId = .ok (Utf8.encode text) := by
  obtain ⟨files, found, proper⟩ := FileRun.discover_ok named takes wild
  have distinct := FileRun.discover_nodup found
  obtain ⟨same_limit, positive, -⟩ := Session.runner_of_make made
  obtain ⟨session, runs⟩ :=
    FileRun.session_of_files profile mode system positive (same_limit ▸ valid) distinct
  obtain ⟨after, run, performed, places, changed, writes, ran⟩ :=
    FileRun.perform_of_session sound found proper positive runs
  refine ⟨files, after, run, session, found, performed, runs, distinct, ?_, ?_, ?_,
    writes.alike, ?_, ?_, ?_⟩
  · have each := places.places
    rw [FileRun.readings, List.forall₂_map_left_iff] at each
    refine each.imp ?_
    rintro path result ⟨same, fails⟩
    refine ⟨same, ?_⟩
    intro fault unread
    obtain rfl := fails fault unread
    exact ⟨rfl, rfl⟩
  · rw [← places.readable, FileRun.readings, List.zip_map_left, List.filter_map, List.map_map]
    rfl
  · rw [changed, FileRun.toWrite, ← places.fixed]
    rfl
  · rintro rfl
    rw [changed] at ran
    cases ran
    rfl
  · intro path apart
    exact writes.keeps apart
  · intro result member text new agree
    obtain ⟨before, read⟩ :=
      FileRun.read_of_result places (FileRun.mem_results_of_toWrite (changed ▸ member))
    apply writes.reads member (FileSystem.leadsTo_of_readText read)
    · intro other also leads
      rw [agree other also leads, new]
      rfl

namespace FileSystem

/-- A file that says `x`, and one that is no text. -/
def small : FileSystem := ⟨"/work", [(["a.txt"], [0x78]), (["b.txt"], [0xFF])], [], []⟩

theorem small_sound : small.Sound := by
  intro names file
  have known := isFile_iff.mp file
  simp only [small, List.map_cons, List.map_nil, List.mem_cons, List.not_mem_nil, or_false] at known
  rcases known with rfl | rfl
  · decide
  · decide

theorem small_known {names : List String} (known : names ∈ small.known) :
    names = ["a.txt"] ∨ names = ["b.txt"] := by
  simpa [FileSystem.known, small] using known

theorem small_named : small.Named := by
  have part {name : String} (proper : Path.hasNul name = false)
      (own : (Path.ofString name).parts = [name]) : Path.IsPart name :=
    (Path.plain_ofString proper).parts name (by rw [own]; exact List.mem_singleton_self name)
  intro names known name member
  rcases small_known known with rfl | rfl
  · rw [List.mem_singleton.mp member]
    exact ⟨part (by decide) (by decide +kernel), by decide⟩
  · rw [List.mem_singleton.mp member]
    exact ⟨part (by decide) (by decide +kernel), by decide⟩

/-- Both files are taken, and nothing is below them. -/
theorem small_takes : ∀ path ∈ FileRun.starts ["b.txt", "a.txt"], small.Takes path := by
  have alone {path : String} (proper : Path.hasNul path = false)
      (finds : small.find (Path.ofString path).written = .ok [path]) : small.Takes path := by
    refine ⟨proper, ?_⟩
    intro names has
    cases has with
    | itself => simp [finds]
    | @within folder names whole leads known below =>
        rw [finds, Except.ok.injEq] at leads
        subst leads
        have length : whole.length = 1 := by
          rcases small_known known with rfl | rfl <;> rfl
        have nothing : names = [] := by
          have lengths := below.length_le
          rw [List.length_append, List.length_singleton, length] at lengths
          exact List.length_eq_zero_iff.mp (by omega)
        simp [nothing, finds]
  intro path member
  simp only [FileRun.starts, List.isEmpty_cons, Bool.false_eq_true, if_false, List.mem_cons,
    List.not_mem_nil, or_false]
    at member
  rcases member with rfl | rfl
  · exact alone (by decide) (by decide +kernel)
  · exact alone (by decide) (by decide +kernel)

theorem small_discovers :
    FileRun.discover small ["b.txt", "a.txt"] FileRun.defaultPatterns = .ok ["b.txt", "a.txt"] := by
  decide +kernel

theorem small_texts :
    small.readText "b.txt" = .error (.decoding ⟨0, 1, 0xFF, .invalidStart⟩) ∧
      small.readText "a.txt" = .ok ['x'] := by
  decide +kernel

theorem small_source : FileRun.sources .exchanging small ["b.txt", "a.txt"] =
    [⟨"a.txt", ['x'], "text"⟩] := by
  decide +kernel

theorem small_apart : ¬small.SameFile "b.txt" "a.txt" := by
  have finds : small.find "b.txt" = .ok ["b.txt"] ∧ small.find "a.txt" = .ok ["a.txt"] := by
    decide +kernel
  rintro ⟨names, here, there⟩
  have same := here.finds.symm.trans finds.1
  rw [Except.ok.injEq] at same
  subst same
  exact absurd (there.finds.symm.trans finds.2) (by decide)

end FileSystem

/-- One file is no text and keeps its bytes, and its error stands first; the other, which says `x`,
is fixed to `y`. -/
theorem unreadable_file_keeps_its_place :
    ∃ after run,
      FileRun.perform ⟨1, 1, none⟩ .exchanging .fix .small ["b.txt", "a.txt"]
        FileRun.defaultPatterns = .ok (after, run) ∧
      run.results.map (fun result => (result.documentId, result.fixedText)) =
        [("b.txt", none), ("a.txt", some ['y'])] ∧
      after.readBytes "a.txt" = .ok [0x79] ∧ after.readBytes "b.txt" = .ok [0xFF] := by
  obtain ⟨no_text, text⟩ := FileSystem.small_texts
  have outcome : ∃ record,
      Session.run ⟨1, 1, none⟩ .exchanging .fix [⟨"a.txt", ['x'], "text"⟩] = .ok record ∧
      record.results.map (·.fixedText) = [some ['y']] := ⟨_, by cbv, by cbv⟩
  obtain ⟨files, after, run, session, found, performed, runs, -, places, readable, changed, -, -,
    keeps, reads⟩ :=
    files_keep_their_results 1 1 ⟨1, 1, none⟩ .exchanging .fix .small ["b.txt", "a.txt"]
      FileRun.defaultPatterns rfl (by decide) FileSystem.small_sound FileSystem.small_named
        FileRun.default_patterns_wild FileSystem.small_takes
  rw [FileSystem.small_discovers, Except.ok.injEq] at found
  subst found
  obtain ⟨record, recorded, fixed⟩ := outcome
  rw [FileSystem.small_source, recorded, Except.ok.injEq] at runs
  subst runs
  obtain ⟨first, second, both, ⟨-, fails⟩, second_about, -⟩ := exists_pair places
  obtain ⟨unread, -⟩ := fails _ no_text
  have only : [second] = record.results := by
    rw [← readable, both]
    simp [no_text, text, Except.isOk, Except.toBool]
  have new : second.fixedText = some ['y'] := by
    rw [← only] at fixed
    exact (List.cons.inj fixed).1
  have written : run.changed = [second] := by
    rw [changed, both, if_pos rfl, unread]
    simp [Reading.failure, DocumentResult.failure, new]
  refine ⟨after, run, performed, ?_, ?_, ?_⟩
  · rw [both]
    simp [second_about, new, unread, Reading.failure, DocumentResult.failure]
  · have there := reads second (by rw [written]; exact List.mem_singleton_self second) ['y'] new
    rw [written, second_about] at there
    exact there fun other member _ => List.mem_singleton.mp member
  · rw [keeps "b.txt"]
    · decide +kernel
    · rw [written]
      intro result member
      rw [List.mem_singleton.mp member, second_about]
      exact FileSystem.small_apart

end ProseLinter
