import ProseLinter.Proofs.Files.Run
import ProseLinter.Proofs.Session.Rest
import ProseLinter.Proofs.Text.Utf8

/-!
# Fixing files twice

A fix run writes the texts that it left, so a second one reads those texts and finds them at rest.
It finds the same files, says the same of each of them, those included that cannot be read or
parsed, and writes nothing.
-/

namespace ProseLinter

namespace Reading

variable {profile : Profile} {readings : List Reading}
  {results woven others again : List DocumentResult}

/-- The reading with the text that a result leaves it with. -/
def fixedBy (reading : Reading) (result : DocumentResult) : Reading :=
  { reading with text := reading.text.map fun text => result.fixedText.getD text }

theorem Woven.sources_left (places : Woven readings results woven) :
    (List.zipWith fixedBy readings woven).filterMap (·.source? profile) =
      List.zipWith Source.fixedBy (readings.filterMap (·.source? profile)) results := by
  induction places with
  | nil => rfl
  | unread later induction => exact induction
  | read about later induction => exact congrArg (List.cons _) induction

/-- If the batch says the same again, so do the results of all readings. -/
theorem Woven.rests (places : Woven readings results woven)
    (places_again : Woven (List.zipWith fixedBy readings woven) others again)
    (rests : List.Forall₂ DocumentResult.RestsAt others results) :
    List.Forall₂ DocumentResult.RestsAt again woven := by
  induction places generalizing others again with
  | nil =>
      cases places_again
      exact .nil
  | unread later induction =>
      cases places_again with
      | unread later_again => exact .cons ⟨rfl, rfl, rfl⟩ (induction later_again rests)
  | read about later induction =>
      cases places_again with
      | read about_again later_again =>
          cases rests with
          | cons own rest => exact .cons own (induction later_again rest)

end Reading

namespace FileRun

variable {system after : FileSystem} {runner : Runner} {profile : Profile} {mode : Mode}
  {limit workers : Int} {paths patterns files : List String} {record : Session.Record}
  {run : FileRun} {woven : List DocumentResult}

theorem proper_of_ofFile {path : String} {reading : Reading}
    (read : Reading.ofFile system path = .ok reading) :
    Path.hasNul path = false := by
  rw [Bool.eq_false_iff]
  intro improper
  have refused : system.readText path = .error .embeddedNul := by
    rw [FileSystem.readText, FileSystem.readBytes, if_pos improper]
    rfl
  rw [Reading.ofFile, refused] at read
  cases read

theorem perform_ok (ran : perform runner profile mode system paths patterns = .ok (after, run)) :
    ∃ files record, discover system paths patterns = .ok files ∧
    (∀ path ∈ files, Path.hasNul path = false) ∧
      Session.run runner profile mode (sources profile system files) = .ok record := by
  obtain ⟨files, found, ran⟩ := ok_of_bind ran
  obtain ⟨read, mapped, ran⟩ := ok_of_bind ran
  obtain ⟨whole, made, ran⟩ := ok_of_bind ran
  have proper : ∀ path ∈ files, Path.hasNul path = false := by
    intro path member
    obtain ⟨reading, -, own⟩ := exists_left (mapM_ok mapped).flip member
    exact proper_of_ofFile own
  rw [readings_of_files proper, Except.ok.injEq] at mapped
  subst mapped
  obtain ⟨record, runs, -⟩ := ok_of_bind made
  exact ⟨files, record, found, proper, runs⟩

def Apart (system : FileSystem) (files : List String) : Prop :=
  ∀ path ∈ files, ∀ other ∈ files, system.SameFile path other → path = other

theorem ids_of_woven (places : Reading.Woven (readings system files) record.results woven) :
    woven.map (·.documentId) = files := by
  have each := places.places
  rw [readings, List.forall₂_map_left_iff] at each
  rw [← List.forall₂_eq_eq_eq, List.forall₂_map_left_iff]
  exact each.flip.imp fun _ _ own => own.1

theorem readText_after (distinct : files.Nodup) (apart : Apart system files)
    (places : Reading.Woven (readings system files) record.results woven)
    (writes : Writes system after (toWrite .fix record)) {result : DocumentResult}
    (member : result ∈ woven) :
    after.readText result.documentId =
      (system.readText result.documentId).map fun text => result.fixedText.getD text := by
  have ids := ids_of_woven places
  have written : toWrite .fix record = woven.filter (·.fixedText.isSome) := places.fixed
  -- No other result is written to the file of this one.
  have only {other : DocumentResult} (known : other ∈ toWrite .fix record)
      (same : system.SameFile result.documentId other.documentId) : other = result := by
    rw [written] at known
    have inside := (List.mem_filter.mp known).1
    have one_path :=
      apart _ (ids ▸ List.mem_map_of_mem member) _ (ids ▸ List.mem_map_of_mem inside) same
    exact (List.inj_on_of_nodup_map (ids ▸ distinct) member inside one_path).symm
  cases new : result.fixedText with
  | none =>
      have kept : after.readText result.documentId = system.readText result.documentId := by
        apply FileSystem.readText_of_readBytes
        apply writes.keeps
        intro other known same
        rw [only known same, written] at known
        simp [new] at known
      rw [kept]
      cases system.readText result.documentId <;> rfl
  | some text =>
      have known : result ∈ toWrite .fix record := by
        rw [written, List.mem_filter, new]
        exact ⟨member, rfl⟩
      obtain ⟨before, read⟩ := read_of_result places (mem_results_of_toWrite known)
      have bytes :=
        writes.reads known (FileSystem.leadsTo_of_readText read) fun other also leads => by
        rw [only also leads, new, Option.getD_some]
      rw [read, FileSystem.readText, bytes]
      change (Utf8.decode (Utf8.encode text)).mapError Fault.decoding = _
      rw [Utf8.decode_encode]
      rfl

theorem readings_after (distinct : files.Nodup) (apart : Apart system files)
    (places : Reading.Woven (readings system files) record.results woven)
    (writes : Writes system after (toWrite .fix record)) :
    readings after files = List.zipWith Reading.fixedBy (readings system files) woven := by
  have ids := ids_of_woven places
  have each : ∀ result ∈ woven, (⟨result.documentId, after.readText result.documentId⟩ : Reading) =
      Reading.fixedBy ⟨result.documentId, system.readText result.documentId⟩ result := by
    intro result member
    rw [readText_after distinct apart places writes member]
    rfl
  have spelt (system : FileSystem) : readings system files =
      woven.map fun result => ⟨result.documentId, system.readText result.documentId⟩ := by
    rw [readings, ← ids, List.map_map]
    rfl
  rw [spelt after, spelt system, List.zipWith_map_left, List.zipWith_self]
  exact List.map_congr_left each

theorem sources_after (distinct : files.Nodup) (apart : Apart system files)
    (places : Reading.Woven (readings system files) record.results woven)
    (writes : Writes system after (toWrite .fix record)) :
    sources profile after files = List.zipWith Source.fixedBy
      (sources profile system files) record.results := by
  rw [sources, readings_after distinct apart places writes]
  exact places.sources_left

end FileRun

/-- Fixing files a second time changes nothing. If no fix of the first run was cut short by its
limit and the paths lead to different files, the second run writes no file and says of every path
what the first one said. -/
theorem fixing_files_comes_to_rest (limit workers : Int) (runner : Runner) (profile : Profile)
    (system after : FileSystem) (paths patterns files : List String) (first : FileRun)
    (made : Runner.make limit workers none = .ok runner) (sound : system.Sound)
    (found : FileRun.discover system paths patterns = .ok files)
    (apart : FileRun.Apart system files)
    (ran : FileRun.perform runner profile .fix system paths patterns = .ok (after, first))
    (silent : ∀ result ∈ first.results, ¬result.Reports .fixLimit) :
    ∃ again, FileRun.perform runner profile .fix after paths patterns = .ok (after, again) ∧
    again.changed = [] ∧
      again.results.map (fun result => (result.documentId, result.findings)) =
        first.results.map fun result => (result.documentId, result.findings) := by
  obtain ⟨-, positive, untimed⟩ := Session.runner_of_make made
  obtain ⟨known, record, discovered, proper, runs⟩ := FileRun.perform_ok ran
  rw [found, Except.ok.injEq] at discovered
  subst discovered
  have distinct := FileRun.discover_nodup found
  obtain ⟨left, run, performed, places, changed, writes, -⟩ :=
    FileRun.perform_of_session sound found proper positive runs
  rw [ran, Except.ok.injEq, Prod.mk.injEq] at performed
  obtain ⟨rfl, rfl⟩ := performed
  rw [changed] at writes
  have quiet : ∀ result ∈ record.results, ¬result.Reports .fixLimit := by
    intro result member
    exact silent result (places.sublist.subset member)
  obtain ⟨second, runs_again, rests⟩ :=
    Session.run_rests positive (FileRun.limit_of_run runs) untimed runs quiet
  rw [← FileRun.sources_after distinct apart places writes] at runs_again
  have found_again := (FileRun.discover_of_alike writes.alike paths patterns).trans found
  obtain ⟨left, again, performed, places_again, changed_again, -, ran_again⟩ :=
    FileRun.perform_of_session (writes.alike.sound sound) found_again proper positive runs_again
  have nothing : again.changed = [] := by
    rw [changed_again]
    apply List.filter_eq_nil_iff.mpr
    intro result member
    obtain ⟨earlier, -, own⟩ := exists_left rests.flip member
    simp [own.unchanged]
  rw [nothing] at ran_again
  cases ran_again
  rw [FileRun.readings_after distinct apart places writes] at places_again
  have all_rest := places.rests places_again rests
  refine ⟨again, performed, nothing, ?_⟩
  rw [← List.forall₂_eq_eq_eq, List.forall₂_map_left_iff, List.forall₂_map_right_iff]
  exact all_rest.imp fun one other own => by rw [own.about, own.findings]

theorem FileSystem.small_files_apart : FileRun.Apart .small ["b.txt", "a.txt"] := by
  intro path member other also leads
  rcases List.mem_pair.mp member with rfl | rfl
  · rcases List.mem_pair.mp also with rfl | rfl
    · rfl
    · exact absurd leads small_apart
  · rcases List.mem_pair.mp also with rfl | rfl
    · obtain ⟨names, here, there⟩ := leads
      exact absurd ⟨names, there, here⟩ small_apart
    · rfl

/-- The first run fixes one file and cannot read the other; the second has nothing to write. -/
theorem second_run_writes_nothing :
    ∃ after first again,
      FileRun.perform ⟨1, 1, none⟩ .exchanging .fix .small ["b.txt", "a.txt"]
        FileRun.defaultPatterns = .ok (after, first) ∧
      first.changed.map (·.documentId) = ["a.txt"] ∧
      FileRun.perform ⟨1, 1, none⟩ .exchanging .fix after ["b.txt", "a.txt"]
        FileRun.defaultPatterns = .ok (after, again) ∧
      again.changed = [] ∧
      again.results.map (fun result => (result.documentId, result.findings)) =
        first.results.map fun result => (result.documentId, result.findings) := by
  have outcome : ∃ record,
      Session.run ⟨1, 1, none⟩ .exchanging .fix [⟨"a.txt", ['x'], "text"⟩] = .ok record ∧
      record.results.map (fun result => (result.documentId, result.fixedText, result.findings)) =
        [("a.txt", some ['y'], [])] := ⟨_, by cbv, by cbv⟩
  obtain ⟨record, runs, results⟩ := outcome
  rw [← FileSystem.small_source] at runs
  obtain ⟨after, first, ran, places, changed, -, -⟩ :=
    FileRun.perform_of_session FileSystem.small_sound FileSystem.small_discovers (by decide)
      (by decide) runs
  have readings : FileRun.readings .small ["b.txt", "a.txt"] =
      [⟨"b.txt", .error (.decoding ⟨0, 1, 0xFF, .invalidStart⟩)⟩, ⟨"a.txt", .ok ['x']⟩] := by
    simp [FileRun.readings, FileSystem.small_texts]
  obtain ⟨batch, log⟩ := record
  obtain ⟨woven, changes, notes⟩ := first
  rw [readings] at places
  obtain ⟨result, rfl, rfl⟩ : ∃ result, batch = [result] ∧
    woven = [Reading.failure "b.txt" _, result] := by
    cases places with
    | unread later =>
        cases later with
        | @read _ _ result _ _ _ own later =>
            cases later
            exact ⟨result, rfl, rfl⟩
  simp only [List.map_cons, List.map_nil, List.cons.injEq, Prod.mk.injEq, and_true] at results
  obtain ⟨own, new, no_findings⟩ := results
  have silent : ∀ other ∈ [Reading.failure "b.txt" (.decoding ⟨0, 1, 0xFF, .invalidStart⟩), result],
      ¬other.Reports .fixLimit := by
    rintro other member ⟨finding, told, named⟩
    rcases List.mem_pair.mp member with same | same
    · rw [same] at told
      rw [List.mem_singleton.mp told] at named
      exact absurd named (by decide)
    · rw [same, no_findings] at told
      cases told
  have only : changes.map (·.documentId) = ["a.txt"] := by
    change changes = [result].filter (·.fixedText.isSome) at changed
    rw [changed, List.filter_cons_of_pos (by rw [new]; rfl), List.filter_nil,
      List.map_singleton, own]
  obtain ⟨again, ran_again, nothing, same⟩ :=
    fixing_files_comes_to_rest 1 1
      ⟨1, 1, none⟩ .exchanging .small after ["b.txt", "a.txt"]
        FileRun.defaultPatterns ["b.txt", "a.txt"] _ rfl FileSystem.small_sound
          FileSystem.small_discovers FileSystem.small_files_apart ran silent
  exact ⟨after, _, again, ran, only, ran_again, nothing, same⟩

end ProseLinter
