import ProseLinter.FixRun
import ProseLinter.Proofs.Attempt
import ProseLinter.Proofs.Format.Covering

/-!
# Passes

A pass over a document takes some of the patches that are proposed in it and hands the patched text
to the format. The format either reads it, and the run goes on with what it read, or refuses it, and
the run is rolled back. Here the passes are told without the loop, as a relation between documents;
every run of the loop follows it, and nothing else does.
-/

namespace ProseLinter

def Document.source (document : Document) : Source := ⟨document.id, document.text, document.kind⟩

theorem Binding.source_of_read {binding : Binding} {id kind : String} {text : Text}
    {document : Document} (read : binding.read id text kind = .ok document) :
    document.source = ⟨id, text, kind⟩ := by
  unfold Binding.read at read
  split at read
  · split at read
    · rw [Except.ok.injEq] at read
      rw [← read, Document.source]
    · cases read
  · cases read
  · cases read
  · cases read

namespace Profile

section

variable (profile : Profile)

def takenIn (document : Document) : List Proposal :=
  Patching.select document.text (profile.proposals (profile.evaluate document))

def accepted (document : Document) : List Finding := (profile.takenIn document).map (·.finding)

/-- The source that a pass over a document hands to the format. -/
def rewritten (document : Document) : Source :=
  { document.source with
    text := Patching.apply document.text ((profile.takenIn document).map (·.patch)) }

/-- That a pass over a document takes something and that the format reads what comes of it as the
next document. -/
structure Adopts (document next : Document) : Prop where
  takes : profile.takenIn document ≠ []
  reads : profile.parse (profile.rewritten document) = .ok next

/-- That a pass over a document takes something and that the format refuses what comes of it. -/
structure Rejects (document : Document) (fault : ParseFault) : Prop where
  takes : profile.takenIn document ≠ []
  refuses : profile.parse (profile.rewritten document) = .error (.parse fault)

/-- That a number of passes, each of them adopted, lead from the given document to the current one,
and which findings were applied on the way. -/
inductive Passes (given : Document) : Nat → List Finding → Document → Prop
  | start : Passes given 0 [] given
  | adopt {count : Nat} {applied : List Finding} {current next : Document}
      (passes : Passes given count applied current) (adopts : profile.Adopts current next) :
      Passes given (count + 1) (applied ++ (profile.takenIn current).map (·.finding)) next

/-- That adopted passes lead over documents, one after the other, from the given document to the
current one. -/
inductive Trail (given : Document) : List Document → Document → Prop
  | start : Trail given [] given
  | adopt {passed : List Document} {current next : Document} (trail : Trail given passed current)
      (adopts : profile.Adopts current next) : Trail given (passed ++ [current]) next

/-- How a run ends that has come to a document after a number of passes, if it ends there. -/
inductive Ends (limit : Nat) : Nat → Document → FixEnding → Prop
  | converged {count : Nat} {current : Document} (settled : profile.takenIn current = []) :
      Ends limit count current .converged
  | limited {current : Document} (takes : profile.takenIn current ≠ []) :
      Ends limit limit current .limited
  | rolledBack {count : Nat} {current : Document} {fault : ParseFault} (below : count < limit)
      (rejects : profile.Rejects current fault) : Ends limit count current (.rolledBack fault)

/-- That some pass within the limit, the first or a later one, makes a text that the format
refuses. -/
def RollsBack (limit : Nat) (given : Document) (fault : ParseFault) : Prop :=
  ∃ count applied current, profile.Passes given count applied current ∧ count < limit ∧
    profile.Rejects current fault

end

variable {profile : Profile} {source : Source} {given current next document : Document}
  {binding : Binding} {count limit remaining : Nat} {applied : List Finding}
  {passed : List Document} {ending : FixEnding}

theorem bound_of_parse (parsed : profile.parse source = .ok document) :
    ∃ binding, profile.bindingFor source.kind = .ok binding ∧
      binding.read source.id source.text source.kind = .ok document := by
  rw [parse] at parsed
  obtain ⟨binding, bound, read⟩ := ok_of_bind parsed
  exact ⟨binding, bound, mapError_ok_iff.mp read⟩

theorem source_of_parse (parsed : profile.parse source = .ok document) :
    document.source = source := by
  obtain ⟨binding, -, read⟩ := bound_of_parse parsed
  exact Binding.source_of_read read

theorem Adopts.source_next (adopts : profile.Adopts current next) :
    next.source = profile.rewritten current :=
  source_of_parse adopts.reads

theorem Passes.identity (passes : profile.Passes given count applied current) :
    current.id = given.id ∧ current.kind = given.kind := by
  induction passes with
  | start => exact ⟨rfl, rfl⟩
  | adopt passes adopts identity =>
      have same := adopts.source_next
      exact ⟨(congrArg Source.id same).trans identity.1,
        (congrArg Source.kind same).trans identity.2⟩

theorem Passes.reads (readable : profile.parse given.source = .ok given)
    (passes : profile.Passes given count applied current) :
    profile.parse current.source = .ok current := by
  cases passes with
  | start => exact readable
  | adopt passes adopts => rw [adopts.source_next, adopts.reads]

theorem Passes.bound (bound : profile.bindingFor given.kind = .ok binding)
    (passes : profile.Passes given count applied current) :
    profile.bindingFor current.kind = .ok binding := by
  rw [passes.identity.2, bound]

/-- The passes that lead to a document lead over documents, and what is applied is what is accepted
in each of them. -/
theorem Passes.trail (passes : profile.Passes given count applied current) :
    ∃ passed, profile.Trail given passed current ∧ passed.length = count ∧
      applied = passed.flatMap profile.accepted := by
  induction passes with
  | start => exact ⟨[], .start, rfl, rfl⟩
  | @adopt count applied current next passes adopts induction =>
      obtain ⟨passed, trail, counted, gathered⟩ := induction
      refine ⟨passed ++ [current], trail.adopt adopts, ?_, ?_⟩
      · rw [List.length_append, counted, List.length_singleton]
      · rw [gathered, List.flatMap_append, List.flatMap_singleton, accepted]

theorem Trail.passes (trail : profile.Trail given passed current) :
    profile.Passes given passed.length (passed.flatMap profile.accepted) current := by
  induction trail with
  | start => exact .start
  | adopt trail adopts induction =>
      rw [List.length_append, List.length_singleton, List.flatMap_append, List.flatMap_singleton]
      exact induction.adopt adopts

theorem Trail.starts (trail : profile.Trail given passed current) :
    (passed ++ [current]).head? = some given := by
  induction trail with
  | start => rfl
  | adopt trail adopts induction => rw [List.head?_append, induction, Option.some_or]

theorem read_rewritten (bound : profile.bindingFor document.kind = .ok binding) :
    profile.parse (profile.rewritten document) =
      (binding.read document.id (profile.rewritten document).text document.kind).mapError .parse :=
  parse_of_bound (show profile.bindingFor (profile.rewritten document).kind =
    .ok binding from bound)

theorem adopts_or_rejects (bound : profile.bindingFor current.kind = .ok binding)
    (takes : profile.takenIn current ≠ []) :
    (∃ next, profile.Adopts current next) ∨ ∃ fault, profile.Rejects current fault := by
  have reading := read_rewritten bound
  cases read : binding.read current.id (profile.rewritten current).text current.kind with
  | ok next =>
      rw [read] at reading
      exact .inl ⟨next, takes, reading⟩
  | error fault =>
      rw [read] at reading
      exact .inr ⟨fault, takes, reading⟩

theorem exists_end (bound : profile.bindingFor given.kind = .ok binding)
    (passes : profile.Passes given count applied current) (left : count + remaining = limit) :
    ∃ count applied current ending,
      profile.Passes given count applied current ∧ count ≤ limit ∧
        profile.Ends limit count current ending := by
  -- On the passes that are left: with none the run is limited, and with one more it is adopted or
  -- rejected.
  induction remaining generalizing count applied current with
  | zero =>
      rw [Nat.add_zero] at left
      subst left
      by_cases settled : profile.takenIn current = []
      · exact ⟨count, applied, current, .converged, passes, Nat.le_refl count, .converged settled⟩
      · exact ⟨count, applied, current, .limited, passes, Nat.le_refl count, .limited settled⟩
  | succ remaining induction =>
      have below : count < limit := by omega
      by_cases settled : profile.takenIn current = []
      · exact ⟨count, applied, current, .converged, passes, Nat.le_of_lt below, .converged settled⟩
      · rcases adopts_or_rejects (passes.bound bound) settled with ⟨next, adopts⟩ | ⟨fault, rejects⟩
        · exact induction (passes.adopt adopts) (by omega)
        · exact ⟨count, applied, current, .rolledBack fault, passes, Nat.le_of_lt below,
            .rolledBack below rejects⟩

end Profile

def FixRun.after (earlier : List FixPass) (run : FixRun) : FixRun :=
  { run with passes := earlier ++ run.passes }

/-- What a run records of the passes that led from the given document to the current one. -/
structure FixRun.Records (profile : Profile) (given current : Document) (count : Nat)
    (applied : List Finding) (run : FixRun) : Prop where
  counted : run.passes.length = count
  gathered : run.passes.flatMap (·.applied) = applied
  first : (run.passes.head?.map (·.version)).getD run.last = profile.version given
  last : run.last = profile.version current

namespace Profile

variable {profile : Profile} {given current next document : Document} {binding : Binding}
  {count limit remaining : Nat} {applied : List Finding} {passed : List Document}
  {ending : FixEnding} {fault : ParseFault}

/-- What a run records of an adopted pass over a document. -/
def adoptedPass (profile : Profile) (document : Document) : FixPass :=
  ⟨profile.version document, profile.verdicts (profile.version document)⟩

def endedAt (profile : Profile) (document : Document) (ending : FixEnding) : FixRun :=
  ⟨[], profile.version document, profile.verdicts (profile.version document), ending⟩

theorem taken_version :
    Patching.taken (profile.verdicts (profile.version document)) = profile.takenIn document := rfl

theorem fixFrom_settled (settled : profile.takenIn document = []) :
    profile.fixFrom binding document remaining = profile.endedAt document .converged := by
  cases remaining with
  | zero => simp [fixFrom, taken_version, settled, endedAt]
  | succ remaining => simp [fixFrom, taken_version, settled, endedAt]

theorem fixFrom_limited (takes : profile.takenIn document ≠ []) :
    profile.fixFrom binding document 0 = profile.endedAt document .limited := by
  simp [fixFrom, taken_version, takes, endedAt]

theorem fixFrom_rejected (bound : profile.bindingFor document.kind = .ok binding)
    (rejects : profile.Rejects document fault) :
    profile.fixFrom binding document (remaining + 1) =
      profile.endedAt document (.rolledBack fault) := by
  have refused := (read_rewritten bound).symm.trans rejects.refuses
  obtain ⟨own, read, same⟩ := mapError_error_iff.mp refused
  cases same
  rw [rewritten] at read
  simp [fixFrom, taken_version, rejects.takes, read, endedAt]

theorem fixFrom_adopted (bound : profile.bindingFor document.kind = .ok binding)
    (adopts : profile.Adopts document next) :
    profile.fixFrom binding document (remaining + 1) =
      (profile.fixFrom binding next remaining).after [profile.adoptedPass document] := by
  have read := mapError_ok_iff.mp ((read_rewritten bound).symm.trans adopts.reads)
  rw [rewritten] at read
  simp [fixFrom, taken_version, adopts.takes, read, adoptedPass, FixRun.after]

/-- The loop goes along the trail: what is left of it is the loop from the document where the trail
leads. -/
theorem fixFrom_trail (bound : profile.bindingFor given.kind = .ok binding)
    (trail : profile.Trail given passed current) (remaining : Nat) :
    profile.fixFrom binding given (passed.length + remaining) =
      (profile.fixFrom binding current remaining).after (passed.map profile.adoptedPass) := by
  -- The last pass comes off first, so the earlier ones leave the loop one pass more.
  induction trail generalizing remaining with
  | start => rw [List.length_nil, Nat.zero_add]; rfl
  | @adopt passed current next trail adopts induction =>
      have shorter : (passed ++ [current]).length + remaining =
          passed.length + (remaining + 1) := by
        rw [List.length_append, List.length_singleton, Nat.add_assoc, Nat.add_comm 1]
      rw [shorter, induction, fixFrom_adopted (trail.passes.bound bound) adopts]
      simp [FixRun.after]

theorem fixFrom_passes (bound : profile.bindingFor given.kind = .ok binding)
    (passes : profile.Passes given count applied current) (remaining : Nat) :
    ∃ earlier : List FixPass,
      profile.fixFrom binding given (count + remaining) =
        (profile.fixFrom binding current remaining).after earlier ∧
        earlier.length = count ∧ earlier.flatMap (·.applied) = applied ∧
        (earlier.head?.map (·.version)).getD (profile.version current) = profile.version given := by
  obtain ⟨passed, trail, counted, gathered⟩ := passes.trail
  subst counted
  refine ⟨passed.map profile.adoptedPass, fixFrom_trail bound trail remaining,
    List.length_map _, ?_, ?_⟩
  · rw [gathered, List.flatMap_map]
    rfl
  · have starts := trail.starts
    cases passed with
    | nil => exact congrArg profile.version (Option.some.inj starts)
    | cons first rest => exact congrArg profile.version (Option.some.inj starts)

theorem fixFrom_of_ends (bound : profile.bindingFor current.kind = .ok binding)
    (ends : profile.Ends limit count current ending) (left : count + remaining = limit) :
    profile.fixFrom binding current remaining = profile.endedAt current ending := by
  cases ends with
  | converged settled => exact fixFrom_settled settled
  | limited takes =>
      have exhausted : remaining = 0 := by omega
      rw [exhausted, fixFrom_limited takes]
  | rolledBack below rejects =>
      cases remaining with
      | zero => omega
      | succ remaining => exact fixFrom_rejected bound rejects

theorem fixFrom_records (bound : profile.bindingFor given.kind = .ok binding)
    (passes : profile.Passes given count applied current) (within : count ≤ limit)
    (ends : profile.Ends limit count current ending) :
    (profile.fixFrom binding given limit).ending = ending ∧
      (profile.fixFrom binding given limit).Records profile given current count applied := by
  obtain ⟨remaining, left⟩ := Nat.exists_eq_add_of_le within
  obtain ⟨earlier, goes, counted, gathered, first⟩ := fixFrom_passes bound passes remaining
  rw [left, goes, fixFrom_of_ends (passes.bound bound) ends left.symm]
  refine ⟨rfl, ?_, ?_, ?_, rfl⟩
  · simpa [FixRun.after, endedAt] using counted
  · simpa [FixRun.after, endedAt] using gathered
  · simpa [FixRun.after, endedAt] using first

theorem rolls_back_iff (bound : profile.bindingFor given.kind = .ok binding) :
    profile.RollsBack limit given fault ↔
      (profile.fixFrom binding given limit).ending = .rolledBack fault := by
  constructor
  · rintro ⟨count, applied, current, passes, below, rejects⟩
    exact (fixFrom_records bound passes (Nat.le_of_lt below) (.rolledBack below rejects)).1
  · intro ended
    obtain ⟨count, applied, current, ending, passes, within, ends⟩ :=
      exists_end bound .start (Nat.zero_add limit)
    rw [(fixFrom_records bound passes within ends).1] at ended
    subst ended
    cases ends with
    | rolledBack below rejects => exact ⟨count, applied, current, passes, below, rejects⟩

end Profile

end ProseLinter
