import ProseLinter.Proofs.Attempt
import ProseLinter.Proofs.Files.Alike

/-!
# Writing into files

A text that is written to a path that leads to a file is what is read there afterwards, and nothing
else changes: no file comes or goes, and every path that leads elsewhere reads as before. The same
is so of all that a run writes back, one text after the other.
-/

namespace ProseLinter

namespace FileSystem

def Sound (system : FileSystem) : Prop :=
  ∀ names, system.isFile names = true → system.isFolder names = false

/-- That a path leads to a file. -/
structure LeadsTo (system : FileSystem) (path : String) (names : List String) : Prop where
  proper : Path.hasNul path = false
  finds : system.find path = .ok names
  file : system.isFile names = true

def SameFile (system : FileSystem) (path other : String) : Prop :=
  ∃ names, system.LeadsTo path names ∧ system.LeadsTo other names

variable {system other : FileSystem} {path : String} {names : List String} {bytes : List UInt8}
  {text : Text}

theorem LeadsTo.unique {others : List String} (leads : system.LeadsTo path names)
    (also : system.LeadsTo path others) :
    names = others := by
  have same := leads.finds.symm.trans also.finds
  rwa [Except.ok.injEq] at same

theorem Alike.leadsTo_iff (alike : system.Alike other) :
    other.LeadsTo path names ↔ system.LeadsTo path names := by
  constructor
  · intro leads
    exact ⟨leads.proper, alike.find path ▸ leads.finds, alike.isFile ▸ leads.file⟩
  · intro leads
    exact ⟨leads.proper, (alike.find path).trans leads.finds,
      by rw [alike.isFile]; exact leads.file⟩

theorem Alike.sound (alike : system.Alike other) (sound : system.Sound) : other.Sound := by
  intro names file
  rw [alike.isFolder]
  exact sound names (alike.isFile ▸ file)

/-! ## Reading -/

theorem LeadsTo.reads (leads : system.LeadsTo path names)
    (holds : system.bytes? names = some bytes) :
    system.readBytes path = .ok bytes := by
  simp [readBytes, leads.proper, leads.finds, holds]

theorem leadsTo_of_readText (read : system.readText path = .ok text) :
    ∃ names, system.LeadsTo path names := by
  rw [readText, readBytes] at read
  split at read
  · cases read
  next proper =>
    split at read
    · cases read
    next names finds =>
      split at read
      next bytes holds =>
        exact ⟨names, Bool.eq_false_iff.mpr proper, finds, by rw [isFile, holds]; rfl⟩
      · cases read

theorem readText_of_readBytes (same : other.readBytes path = system.readBytes path) :
    other.readText path = system.readText path := by
  rw [readText, readText, same]

theorem Alike.readBytes (alike : system.Alike other)
    (same : ∀ names, system.LeadsTo path names → other.bytes? names = system.bytes? names) :
    other.readBytes path = system.readBytes path := by
  cases proper : Path.hasNul path with
  | true => simp [FileSystem.readBytes, proper]
  | false =>
      cases finds : system.find path with
      | error cause => simp [FileSystem.readBytes, proper, alike.find, finds]
      | ok names =>
          have held : other.bytes? names = system.bytes? names := by
            cases file : system.isFile names with
            | true => exact same names ⟨proper, finds, file⟩
            | false =>
                have also := congrFun alike.isFile names
                rw [file] at also
                rw [FileSystem.isFile, Option.isSome_eq_false_iff,
                  Option.isNone_iff_eq_none] at file also
                rw [file, also]
          simp [FileSystem.readBytes, proper, alike.find, finds, held, alike.isFolder]

theorem readText_ne_embeddedNul (proper : Path.hasNul path = false) :
    system.readText path ≠ .error .embeddedNul := by
  rw [readText, FileSystem.readBytes, proper]
  intro refused
  split at refused
  · contradiction
  · split at refused
    · cases refused
    · split at refused
      next bytes _ =>
        change (Utf8.decode bytes).mapError Fault.decoding = _ at refused
        obtain ⟨own, -, told⟩ := mapError_error_iff.mp refused
        cases told
      · cases refused

/-! ## Writing -/

/-- The file system with other bytes in one of the files. -/
def written (system : FileSystem) (names : List String) (bytes : List UInt8) : FileSystem :=
  { system with files := replace names bytes system.files }

theorem writeText_of_leadsTo (sound : system.Sound) (leads : system.LeadsTo path names)
    (text : Text) :
    system.writeText path text = .ok (system.written names (Utf8.encode text)) := by
  simp [writeText, leads.proper, leads.finds, sound names leads.file, written]

theorem alike_written (file : system.isFile names = true) :
    system.Alike (system.written names bytes) :=
  ⟨rfl, names_replace (isFile_iff.mp file), rfl, rfl⟩

theorem bytes?_written_self : (system.written names bytes).bytes? names = some bytes :=
  lookup_replace_self names bytes system.files

theorem bytes?_written_of_ne {others : List String} (different : others ≠ names) :
    (system.written names bytes).bytes? others = system.bytes? others :=
  lookup_replace_of_ne bytes different system.files

end FileSystem

namespace FileRun

variable {system after : FileSystem} {changed : List DocumentResult} {path : String}

/-- That the texts of results, and nothing else, were written to the files that the ids of the
results lead to. -/
structure Writes (system after : FileSystem) (changed : List DocumentResult) : Prop where
  alike : system.Alike after
  written : ∀ names text, (∃ result ∈ changed, system.LeadsTo result.documentId names) →
    (∀ result ∈ changed, system.LeadsTo result.documentId names → result.fixedText.getD [] = text) →
    after.bytes? names = some (Utf8.encode text)
  untouched : ∀ names, (∀ result ∈ changed, ¬system.LeadsTo result.documentId names) →
    after.bytes? names = system.bytes? names

theorem writeBack_writes (sound : system.Sound)
    (each : ∀ result ∈ changed, ∃ names, system.LeadsTo result.documentId names) :
    ∃ after, writeBack system changed = .ok after ∧ Writes system after changed := by
  -- A text that is written later to the same file stands there in the end, so the rest comes before
  -- the first.
  induction changed generalizing system with
  | nil =>
      refine ⟨system, rfl, .refl system, ?_, fun _ _ => rfl⟩
      rintro names text ⟨result, member, -⟩
      cases member
  | cons first rest induction =>
      obtain ⟨⟨own, leads⟩, others⟩ := List.forall_mem_cons.mp each
      let between := system.written own (Utf8.encode (first.fixedText.getD []))
      have alike : system.Alike between := FileSystem.alike_written leads.file
      have still : ∀ result ∈ rest, ∃ names, between.LeadsTo result.documentId names := by
        intro result member
        obtain ⟨names, there⟩ := others result member
        exact ⟨names, alike.leadsTo_iff.mpr there⟩
      obtain ⟨after, ran, writes⟩ := induction (alike.sound sound) still
      refine ⟨after, by rw [writeBack, FileSystem.writeText_of_leadsTo sound leads]; exact ran,
        alike.trans writes.alike, ?_, ?_⟩
      · intro names text some_one agree
        by_cases later : ∃ result ∈ rest, between.LeadsTo result.documentId names
        · apply writes.written names text later
          intro result member there
          exact agree result (List.mem_cons_of_mem first member) (alike.leadsTo_iff.mp there)
        · obtain ⟨result, member, there⟩ := some_one
          have first_one : result = first := by
            rcases List.mem_cons.mp member with same | behind
            · exact same
            · exact absurd ⟨result, behind, alike.leadsTo_iff.mpr there⟩ later
          subst first_one
          obtain rfl := leads.unique there
          rw [writes.untouched own fun result member there => later ⟨result, member, there⟩,
            ← agree result List.mem_cons_self leads]
          exact FileSystem.bytes?_written_self
      · intro names none_there
        obtain ⟨not_first, not_rest⟩ := List.forall_mem_cons.mp none_there
        rw [writes.untouched names fun result member there =>
          not_rest result member (alike.leadsTo_iff.mp there)]
        apply FileSystem.bytes?_written_of_ne
        rintro rfl
        exact not_first leads

theorem Writes.keeps (writes : Writes system after changed)
    (other : ∀ result ∈ changed, ¬system.SameFile path result.documentId) :
    after.readBytes path = system.readBytes path := by
  apply writes.alike.readBytes
  intro names leads
  apply writes.untouched
  intro result member there
  exact other result member ⟨names, leads, there⟩

theorem Writes.reads (writes : Writes system after changed) {result : DocumentResult} {text : Text}
    (member : result ∈ changed) (leads : ∃ names, system.LeadsTo result.documentId names)
    (agree : ∀ other ∈ changed, system.SameFile result.documentId other.documentId →
      other.fixedText.getD [] = text) :
    after.readBytes result.documentId = .ok (Utf8.encode text) := by
  obtain ⟨names, there⟩ := leads
  refine (writes.alike.leadsTo_iff.mpr there).reads
    (writes.written names text ⟨result, member, there⟩ ?_)
  intro other known also
  exact agree other known ⟨names, there, also⟩

end FileRun

end ProseLinter
