import ProseLinter.Proofs.Session.Pool
import ProseLinter.Session

/-!
# What becomes of the sources of a session

Whether the sources are processed one after the other or in a pool, and in whatever order the pool
takes its steps, what becomes of each source stands at its place: what processing it alone gives or,
if the time is limited, that it took too long.
-/

namespace ProseLinter

namespace Session

section

variable (profile : Profile) (limit : Nat) (mode : Mode) (timeout : Option Seconds)

/-- What may become of a source: what processing it gives, or that its time was up. -/
def MayBecome (source : Source) (outcome : Outcome) : Prop :=
  outcome = runOne profile limit mode source ∨ ∃ seconds, timeout = some seconds ∧
    outcome = .expired source seconds

theorem job_allows_iff {source : Source} {outcome : Outcome} :
    (job profile limit mode timeout source).Allows outcome ↔
      MayBecome profile limit mode timeout source outcome := by
  cases timeout with
  | none => simp [Job.Allows, job, MayBecome]
  | some seconds => simp [Job.Allows, job, MayBecome, eq_comm]

theorem jobs_concluded (sources : List Source) :
    Pool.Concluded (sources.map (job profile limit mode timeout)) := by
  intro given member
  obtain ⟨source, -, same⟩ := List.mem_map.mp member
  subst same
  cases timeout with
  | none => exact .inl rfl
  | some seconds => exact .inr rfl

variable {profile limit mode timeout}

theorem become_untimed {sources : List Source} {outcomes : List Outcome}
    (become : List.Forall₂ (MayBecome profile limit mode none) sources outcomes) :
    outcomes = sources.map (runOne profile limit mode) := by
  induction become with
  | nil => rfl
  | cons first rest induction =>
      rcases first with own | ⟨seconds, timed, -⟩
      · rw [own, induction, List.map_cons]
      · cases timed

theorem results_become {workers : Nat} {sources : List Source} {begun written : List Nat}
    {pool : Pool Outcome}
    (reaches : Pool.Reaches (sources.map (job profile limit mode timeout)) workers begun written
      pool) (done : pool.isDone (sources.map (job profile limit mode timeout))) :
    List.Forall₂ (MayBecome profile limit mode timeout) sources pool.results := by
  have allowed := (Pool.orderly_of_reaches reaches).results_allowed done
  rw [List.forall₂_map_left_iff] at allowed
  exact allowed.imp fun source outcome => (job_allows_iff profile limit mode timeout).mp

variable (profile mode) (runner : Runner) (sources : List Source)

theorem outcomes_become (positive : 0 < runner.workers) :
    List.Forall₂ (MayBecome profile runner.limit.toNat mode runner.timeout) sources
      (outcomes runner profile mode sources).1 := by
  rw [outcomes]
  split
  · obtain ⟨begun, written, reaches, done⟩ :=
      Pool.runAll_done positive
        (jobs_concluded profile runner.limit.toNat mode runner.timeout sources)
    exact results_become reaches done
  · rw [List.forall₂_map_right_iff]
    exact List.forall₂_same.mpr fun source _ => .inl rfl

/-- Where the time is not limited, a pool comes to what processing the sources one after the other
comes to. -/
theorem outcomes_untimed (positive : 0 < runner.workers) (untimed : runner.timeout = none) :
    (outcomes runner profile mode sources).1 =
      sources.map (runOne profile runner.limit.toNat mode) := by
  have become := outcomes_become profile mode runner sources positive
  rw [untimed] at become
  exact become_untimed become

end

end Session

/-- A pool of sources, whatever the order of its steps: never more run than there are workers; each
source is begun at most once, and its slot is written at most once and then holds what processing it
gives or that its time was up; a result that comes late is dropped. As long as not all is done some
step is possible, and when all is done each source was begun and each slot written once, and without
a limit of time the results are those of processing the sources in turn. -/
theorem pool_serves_each_source_once (profile : Profile) (limit workers : Nat) (mode : Mode)
    (timeout : Option Seconds) (sources : List Source) (positive : 0 < workers) :
    let jobs := sources.map (Session.job profile limit mode timeout)
    (∀ begun written pool, Pool.Reaches jobs workers begun written pool →
      pool.running.length ≤ workers ∧
      (∀ index : Nat, begun.count index ≤ 1 ∧ written.count index ≤ 1) ∧
      (∀ (index : Nat) source outcome, sources[index]? = some source →
        pool.slots[index]? = some (some outcome) →
        outcome = Session.runOne profile limit mode source ∨
          ∃ seconds, timeout = some seconds ∧ outcome = .expired source seconds) ∧
      (∀ next after, pool.step jobs workers next = some after → ∀ index : Nat,
        after.slots[index]? = pool.slots[index]? ∨ index ∈ pool.writes next ∧
        pool.slots[index]? = some none) ∧
      (∀ index ∈ pool.working, ∃ after, pool.step jobs workers (.finish index) = some after) ∧
      (∀ index outcome rest, pool.finished = (index, outcome) :: rest → index ∉ pool.running →
        pool.step jobs workers .receive = some { pool with finished := rest }) ∧
      (pool.isDone jobs = false → ∃ next after, pool.step jobs workers next = some after) ∧
      (pool.isDone jobs = true →
        (∀ index < sources.length,
          begun.count index = 1 ∧ written.count index = 1 ∧ ∃ outcome,
          pool.slots[index]? = some (some outcome)) ∧
        (timeout = none → pool.results = sources.map (Session.runOne profile limit mode)))) ∧
    ∃ begun written,
      Pool.Reaches jobs workers begun written (Pool.runAll jobs workers).2 ∧
        (Pool.runAll jobs workers).2.isDone jobs = true := by
  intro jobs
  refine ⟨?_, Pool.runAll_done positive (Session.jobs_concluded profile limit mode timeout sources)⟩
  intro begun written pool reaches
  have orderly := Pool.orderly_of_reaches reaches
  have attended := Pool.attended_of_reaches reaches
  refine ⟨orderly.bounded, ?_, ?_, ?_, ?_, ?_, ?_, ?_⟩
  · intro index
    exact ⟨Pool.count_begun orderly index, Pool.count_written orderly index⟩
  · intro index source outcome known held
    have there : jobs[index]? = some (Session.job profile limit mode timeout source) := by
      rw [List.getElem?_map, known, Option.map_some]
    have allowed := orderly.held_allowed there held
    exact (Session.job_allows_iff profile limit mode timeout).mp allowed
  · intro next after taken index
    exact orderly.slot_step (Pool.step_eq_some_iff.mp taken) index
  · intro index works
    have inside := Nat.lt_of_lt_of_le (orderly.at_work index works) orderly.within
    exact ⟨_, Pool.step_eq_some_iff.mpr (.finish (List.getElem?_eq_getElem inside) works)⟩
  · intro index outcome rest first late
    exact Pool.step_eq_some_iff.mpr (.drop first late)
  · intro unfinished
    obtain ⟨next, after, moves⟩ :=
      Pool.exists_step orderly attended positive (by rw [unfinished]; simp)
    exact ⟨next, after, Pool.step_eq_some_iff.mpr moves⟩
  · intro done
    obtain ⟨all_begun, all_written⟩ := orderly.all_written done
    refine ⟨?_, ?_⟩
    · intro index inside
      have member : index ∈ List.range jobs.length :=
        List.mem_range.mpr (by simpa [jobs] using inside)
      obtain ⟨job, outcome, -, held, -⟩ :=
        orderly.written_well index (all_written.mem_iff.mpr member)
      have once : (List.range jobs.length).count index = 1 := by
        rw [List.nodup_range.count, if_pos member]
      exact ⟨all_begun ▸ once, (all_written.count_eq index).trans once, outcome, held⟩
    · intro untimed
      subst untimed
      exact Session.become_untimed (Session.results_become reaches done)

/-- One worker, and a second for each source: the first is given up, the second begun, and the
result of the first comes late. -/
theorem late_result_leaves_no_trace :
    let profile : Profile := ⟨[], [⟨"text", Format.plainText⟩], []⟩
    let slow : Source := ⟨"slow", ['a'], "txt"⟩
    let quick : Source := ⟨"quick", ['b'], "txt"⟩
    let jobs := [slow, quick].map (Session.job profile 1 .lint (some (.whole 1)))
    ∃ pool : Pool Outcome, Pool.Reaches jobs 1 [0, 1] [0, 1] pool ∧ pool.isDone jobs = true ∧
      pool.slots = [some (.expired slow (.whole 1)), some (Session.runOne profile 1 .lint quick)] ∧
      pool.running.length ≤ 1 ∧
      ∀ index < 2, [0, 1].count index = 1 ∧
      ∃ outcome, pool.slots[index]? = some (some outcome) := by
  intro profile slow quick jobs
  let late : Outcome := Session.runOne profile 1 .lint slow
  let own : Outcome := Session.runOne profile 1 .lint quick
  let given_up : Outcome := .expired slow (.whole 1)
  have begun :=
    @Pool.Reaches.step _ jobs 1 _ _ _ ⟨1, [0], [], [0], [none, none]⟩ .start .initial rfl
  have expired :=
    @Pool.Reaches.step _ jobs 1 _ _ _ ⟨1, [0], [], [], [some given_up, none]⟩ (.expire 0) begun rfl
  have next :=
    @Pool.Reaches.step _ jobs 1 _ _ _ ⟨2, [0, 1], [], [1], [some given_up, none]⟩ .start expired rfl
  have handed :=
    @Pool.Reaches.step _ jobs 1 _ _ _ ⟨2, [1], [(0, late)], [1], [some given_up, none]⟩
      (.finish 0) next rfl
  have dropped :=
    @Pool.Reaches.step _ jobs 1 _ _ _ ⟨2, [1], [], [1], [some given_up, none]⟩ .receive handed rfl
  have served :=
    @Pool.Reaches.step _ jobs 1 _ _ _ ⟨2, [], [(1, own)], [1], [some given_up, none]⟩
      (.finish 1) dropped rfl
  have reaches :=
    @Pool.Reaches.step _ jobs 1 _ _ _ ⟨2, [], [], [], [some given_up, some own]⟩ .receive served rfl
  obtain ⟨bounded, -, -, -, -, -, -, complete⟩ :=
    (pool_serves_each_source_once profile 1 1 .lint (some (.whole 1)) [slow, quick] (by decide)).1
      _ _ _ reaches
  refine ⟨_, reaches, rfl, rfl, bounded, ?_⟩
  intro index inside
  obtain ⟨once, -, filled⟩ := (complete rfl).1 index inside
  exact ⟨once, filled⟩

end ProseLinter
