import ProseLinter.Session.Pool
import Mathlib.Data.List.Forall2

/-!
# The pool under every order of its steps

Jobs are started, finish, and have their results received or are given up in an order that nobody
decides. Here the steps are told one by one, a pool carries along which jobs were begun and which
slots were written, and what a step keeps is kept by every run: each job is begun once, its slot is
written once, and a result that comes late is dropped.
-/

namespace ProseLinter

variable {α : Type}

/-- That a slot may come to hold a result for the job: its own, or the one that stands for it when
it is given up. -/
def Job.Allows (job : Job α) (result : α) : Prop := result = job.result ∨ job.expired = some result

namespace Pool

section

variable (jobs : List (Job α)) (workers : Nat)

/-- What a step does to a pool. -/
inductive Moves (pool : Pool α) : PoolStep → Pool α → Prop
  | start (left : pool.started < jobs.length) (free : pool.running.length < workers) :
      Moves pool .start
        { pool with
          started := pool.started + 1
          working := pool.working ++ [pool.started]
          running := pool.running ++ [pool.started] }
  | finish {index : Nat} {job : Job α} (known : jobs[index]? = some job)
      (works : index ∈ pool.working) :
      Moves pool (.finish index)
        { pool with
          working := pool.working.erase index
          finished := pool.finished ++ [(index, job.result)] }
  | receive {index : Nat} {result : α} {rest : List (Nat × α)}
      (first : pool.finished = (index, result) :: rest)
      (runs : index ∈ pool.running) :
      Moves pool .receive (settle { pool with finished := rest } index result)
  | drop {index : Nat} {result : α} {rest : List (Nat × α)}
      (first : pool.finished = (index, result) :: rest)
      (late : index ∉ pool.running) : Moves pool .receive { pool with finished := rest }
  | expire {index : Nat} {job : Job α} {result : α} (known : jobs[index]? = some job)
      (allowed : job.expired = some result) (runs : index ∈ pool.running) :
      Moves pool (.expire index) (pool.settle index result)

def begins (pool : Pool α) : PoolStep → List Nat
  | .start => [pool.started]
  | .finish _ | .receive | .expire _ => []

/-- The slot that a step writes: that of a running job whose result is received, or that is given
up. -/
def writes (pool : Pool α) : PoolStep → List Nat
  | .receive =>
      match pool.finished with
      | [] => []
      | (index, _) :: _ => if pool.running.contains index then [index] else []
  | .expire index => [index]
  | .start | .finish _ => []

/-- That steps in some order lead to the pool, and which jobs they began and which slots they wrote
on the way. -/
inductive Reaches : List Nat → List Nat → Pool α → Prop
  | initial : Reaches [] [] (initial jobs)
  | step {begun written : List Nat} {pool after : Pool α} {next : PoolStep}
      (reaches : Reaches begun written pool) (taken : pool.step jobs workers next = some after) :
      Reaches (begun ++ pool.begins next) (written ++ pool.writes next) after

/-- What every order of steps keeps. -/
structure Orderly (begun written : List Nat) (pool : Pool α) : Prop where
  in_order : begun = List.range pool.started
  within : pool.started ≤ jobs.length
  bounded : pool.running.length ≤ workers
  /-- A job that was begun either runs or has its slot written. -/
  shared : (pool.running ++ written).Perm begun
  at_work : ∀ index ∈ pool.working, index < pool.started
  genuine : ∀ index result, (index, result) ∈ pool.finished →
    ∃ job, jobs[index]? = some job ∧ result = job.result
  slots_length : pool.slots.length = jobs.length
  unwritten : ∀ index < jobs.length, index ∉ written → pool.slots[index]? = some none
  written_well : ∀ index ∈ written,
    ∃ job result, jobs[index]? = some job ∧ pool.slots[index]? = some (some result) ∧
      job.Allows result

/-- That every running job is at work or has handed its result in. -/
def Attended (pool : Pool α) : Prop :=
  ∀ index ∈ pool.running, index ∈ pool.working ∨ index ∈ pool.finished.map (·.1)

def remaining (pool : Pool α) : Nat :=
  4 * (jobs.length - pool.started) + 2 * pool.working.length + pool.finished.length +
    pool.running.length

end

variable {jobs : List (Job α)} {workers : Nat} {pool after : Pool α} {next : PoolStep}
  {begun written : List Nat}

theorem step_eq_some_iff : pool.step jobs workers next = some after ↔
    Moves jobs workers pool next after := by
  constructor
  · intro taken
    cases next with
    | start =>
        rw [step] at taken
        split at taken
        · rename_i room
          rw [Option.some.injEq] at taken
          exact taken ▸ .start room.1 room.2
        · cases taken
    | finish index =>
        rw [step] at taken
        split at taken
        · cases taken
        · rename_i job known
          split at taken
          · rename_i works
            rw [Option.some.injEq] at taken
            exact taken ▸ .finish known (List.contains_iff_mem.mp works)
          · cases taken
    | receive =>
        rw [step] at taken
        split at taken
        · cases taken
        · rename_i index result rest first
          rw [Option.some.injEq] at taken
          split at taken
          · rename_i runs
            exact taken ▸ .receive first (List.contains_iff_mem.mp runs)
          · rename_i late
            exact taken ▸ .drop first (fun runs => late (List.contains_iff_mem.mpr runs))
    | expire index =>
        rw [step] at taken
        split at taken
        · cases taken
        · rename_i result known
          obtain ⟨job, known, allowed⟩ := Option.bind_eq_some_iff.mp known
          split at taken
          · rename_i runs
            rw [Option.some.injEq] at taken
            exact taken ▸ .expire known allowed (List.contains_iff_mem.mp runs)
          · cases taken
  · intro moves
    cases moves with
    | start left free => simp [step, left, free]
    | finish known works => simp [step, known, works]
    | receive first runs => simp [step, first, runs]
    | drop first late => simp [step, first, late]
    | expire known allowed runs => simp [step, known, allowed, runs]

/-! ## What a step keeps -/

theorem orderly_initial : Orderly jobs workers [] [] (initial jobs) where
  in_order := rfl
  within := Nat.zero_le _
  bounded := Nat.zero_le _
  shared := .nil
  at_work := by simp [initial]
  genuine := by simp [initial]
  slots_length := by simp [initial]
  unwritten := by
    intro index inside _
    simp [initial, inside]
  written_well := by simp

theorem Orderly.started_of_running (orderly : Orderly jobs workers begun written pool) {index : Nat}
    (runs : index ∈ pool.running) : index < pool.started := by
  have member : index ∈ begun := orderly.shared.mem_iff.mp (List.mem_append_left written runs)
  rw [orderly.in_order] at member
  exact List.mem_range.mp member

theorem Orderly.shared_once (orderly : Orderly jobs workers begun written pool) :
    (pool.running ++ written).Nodup := by
  rw [orderly.shared.nodup_iff, orderly.in_order]
  exact List.nodup_range

theorem Orderly.unwritten_of_running (orderly : Orderly jobs workers begun written pool)
    {index : Nat} (runs : index ∈ pool.running) : index ∉ written :=
  fun late => (List.nodup_append.mp orderly.shared_once).2.2 index runs index late rfl

theorem Orderly.received (orderly : Orderly jobs workers begun written pool) {first : Nat × α}
    {rest : List (Nat × α)} (waiting : pool.finished = first :: rest) :
    Orderly jobs workers begun written { pool with finished := rest } :=
  { orderly with
    genuine := by
      intro index result handed
      exact orderly.genuine index result (waiting ▸ List.mem_cons_of_mem first handed) }

/-- A running job may be settled with a result that it allows: it runs no more, and its slot is
written. -/
theorem Orderly.settled (orderly : Orderly jobs workers begun written pool) {index : Nat}
    {job : Job α} {result : α} (known : jobs[index]? = some job) (runs : index ∈ pool.running)
    (allowed : job.Allows result) :
    Orderly jobs workers begun (written ++ [index]) (pool.settle index result) where
  in_order := orderly.in_order
  within := orderly.within
  bounded := Nat.le_trans (List.length_erase_le) orderly.bounded
  shared := by
    have moved : (pool.running.erase index ++ (written ++ [index])).Perm
        (pool.running ++ written) := by
      calc pool.running.erase index ++ (written ++ [index])
        _ = (pool.running.erase index ++ written) ++ [index] := (List.append_assoc _ _ _).symm
        List.Perm _ (index :: (pool.running.erase index ++ written)) :=
          List.perm_append_singleton index _
        List.Perm _ (pool.running ++ written) :=
          (List.perm_cons_erase runs).symm.append_right written
    exact moved.trans orderly.shared
  at_work := orderly.at_work
  genuine := orderly.genuine
  slots_length := by rw [settle, List.length_set, orderly.slots_length]
  unwritten := by
    intro other inside fresh
    rw [List.mem_append, List.mem_singleton, not_or] at fresh
    rw [settle, List.getElem?_set_ne (Ne.symm fresh.2)]
    exact orderly.unwritten other inside fresh.1
  written_well := by
    intro other member
    by_cases same : index = other
    · subst same
      have inside : index < pool.slots.length := by
        rw [orderly.slots_length]
        exact (List.getElem?_eq_some_iff.mp known).1
      exact ⟨job, result, known, List.getElem?_set_self inside, allowed⟩
    · have earlier : other ∈ written := by
        rcases List.mem_append.mp member with earlier | last
        · exact earlier
        · exact absurd (List.mem_singleton.mp last).symm same
      obtain ⟨job, result, known, held, allowed⟩ := orderly.written_well other earlier
      exact ⟨job, result, known, (List.getElem?_set_ne same).trans held, allowed⟩

theorem Orderly.step (orderly : Orderly jobs workers begun written pool)
    (moves : Moves jobs workers pool next after) :
    Orderly jobs workers (begun ++ pool.begins next) (written ++ pool.writes next) after := by
  cases moves with
  | start left free =>
      rw [begins, writes, List.append_nil]
      exact
        { orderly with
          in_order := by rw [orderly.in_order, List.range_succ]
          within := left
          bounded := by
            rw [List.length_append, List.length_singleton]
            exact free
          shared := by
            rw [List.append_assoc]
            have swapped : ([pool.started] ++ written).Perm (written ++ [pool.started]) :=
              List.perm_append_comm
            have moved := swapped.append_left pool.running
            rw [← List.append_assoc pool.running written] at moved
            exact moved.trans (orderly.shared.append_right [pool.started])
          at_work := by
            intro index works
            rcases List.mem_append.mp works with earlier | last
            · exact Nat.lt_succ_of_lt (orderly.at_work index earlier)
            · rw [List.mem_singleton.mp last]
              exact Nat.lt_succ_self _ }
  | @finish index job known works =>
      rw [begins, writes, List.append_nil, List.append_nil]
      exact
        { orderly with
          at_work := fun other works => orderly.at_work other (List.mem_of_mem_erase works)
          genuine := by
            intro other result handed
            rcases List.mem_append.mp handed with earlier | last
            · exact orderly.genuine other result earlier
            · rw [List.mem_singleton, Prod.mk.injEq] at last
              exact ⟨job, last.1 ▸ known, last.2⟩ }
  | @receive index result rest first runs =>
      obtain ⟨job, known, own⟩ := orderly.genuine index result (first ▸ List.mem_cons_self)
      have write : pool.writes .receive = [index] := by simp [writes, first, runs]
      rw [begins, write, List.append_nil]
      exact (orderly.received first).settled known runs (.inl own)
  | @drop index result rest first late =>
      have write : pool.writes .receive = [] := by simp [writes, first, late]
      rw [begins, write, List.append_nil, List.append_nil]
      exact orderly.received first
  | @expire index job result known allowed runs =>
      rw [begins, writes, List.append_nil]
      exact orderly.settled known runs (.inr allowed)

theorem attended_initial : Attended (initial jobs) := by simp [Attended, initial]

theorem Attended.step (attended : Attended pool) (orderly : Orderly jobs workers begun written pool)
    (moves : Moves jobs workers pool next after) : Attended after := by
  have distinct : pool.running.Nodup := (List.nodup_append.mp orderly.shared_once).1
  intro other runs
  cases moves with
  | start left free =>
      rcases List.mem_append.mp runs with earlier | last
      · exact (attended other earlier).imp_left (List.mem_append_left _)
      · exact .inl (List.mem_append_right _ last)
  | @finish index job known works =>
      by_cases same : other = index
      · right
        simp [same]
      · rcases attended other runs with works | handed
        · exact .inl ((List.mem_erase_of_ne same).mpr works)
        · right
          rw [List.map_append]
          exact List.mem_append_left _ handed
  | @receive index result rest first runs' =>
      obtain ⟨different, earlier⟩ := distinct.mem_erase_iff.mp runs
      have at_hand := attended other earlier
      rw [first, List.map_cons, List.mem_cons] at at_hand
      exact at_hand.imp_right fun handed => handed.resolve_left different
  | @drop index result rest first late =>
      have at_hand := attended other runs
      rw [first, List.map_cons, List.mem_cons] at at_hand
      have different : other ≠ index := fun same => late (same ▸ runs)
      exact at_hand.imp_right fun handed => handed.resolve_left different
  | expire known allowed runs' => exact attended other (List.mem_of_mem_erase runs)

/-- Every step uses up what is left, so no order of steps goes on forever. -/
theorem remaining_decreases (moves : Moves jobs workers pool next after) :
    after.remaining jobs < pool.remaining jobs := by
  cases moves with
  | start left free =>
      simp only [remaining, List.length_append, List.length_singleton]
      omega
  | finish known works =>
      have shorter := List.length_erase_of_mem works
      have inside := List.length_pos_of_mem works
      simp only [remaining, List.length_append, List.length_singleton]
      omega
  | receive first runs =>
      have shorter := List.length_erase_of_mem runs
      simp only [remaining, settle, first, List.length_cons]
      omega
  | drop first late =>
      simp only [remaining, first, List.length_cons]
      omega
  | expire known allowed runs =>
      have shorter := List.length_erase_of_mem runs
      have inside := List.length_pos_of_mem runs
      simp only [remaining, settle]
      omega

/-- A step leaves every slot alone but the one it writes, and that one was empty. -/
theorem Orderly.slot_step (orderly : Orderly jobs workers begun written pool)
    (moves : Moves jobs workers pool next after) (index : Nat) :
    after.slots[index]? = pool.slots[index]? ∨ index ∈ pool.writes next ∧
      pool.slots[index]? = some none := by
  have empty : ∀ {running : Nat}, running ∈ pool.running → pool.slots[running]? = some none := by
    intro running runs
    have inside := Nat.lt_of_lt_of_le (orderly.started_of_running runs) orderly.within
    exact orderly.unwritten running inside (orderly.unwritten_of_running runs)
  cases moves with
  | start | finish | drop => exact .inl rfl
  | @receive settled result rest first runs =>
      by_cases same : settled = index
      · subst same
        exact .inr ⟨by simp [writes, first, runs], empty runs⟩
      · exact .inl (List.getElem?_set_ne same)
  | @expire settled job result known allowed runs =>
      by_cases same : settled = index
      · subst same
        exact .inr ⟨by simp [writes], empty runs⟩
      · exact .inl (List.getElem?_set_ne same)

/-! ## What every run keeps -/

theorem orderly_of_reaches (reaches : Reaches jobs workers begun written pool) :
    Orderly jobs workers begun written pool := by
  induction reaches with
  | initial => exact orderly_initial
  | step reaches taken orderly => exact orderly.step (step_eq_some_iff.mp taken)

theorem attended_of_reaches (reaches : Reaches jobs workers begun written pool) :
    Attended pool := by
  induction reaches with
  | initial => exact attended_initial
  | step reaches taken attended =>
      exact attended.step (orderly_of_reaches reaches) (step_eq_some_iff.mp taken)

theorem isDone_iff : pool.isDone jobs ↔ pool.started = jobs.length ∧ pool.running = [] := by
  simp [isDone]

theorem Orderly.all_written (orderly : Orderly jobs workers begun written pool)
    (done : pool.isDone jobs) :
    begun = List.range jobs.length ∧ written.Perm (List.range jobs.length) := by
  obtain ⟨all, idle⟩ := isDone_iff.mp done
  have shared := orderly.shared
  rw [idle, List.nil_append] at shared
  rw [orderly.in_order, all] at shared
  exact ⟨orderly.in_order.trans (all ▸ rfl), shared⟩

theorem count_begun (orderly : Orderly jobs workers begun written pool) (index : Nat) :
    begun.count index ≤ 1 := by
  rw [orderly.in_order]
  exact List.nodup_iff_count.mp List.nodup_range index

theorem count_written (orderly : Orderly jobs workers begun written pool) (index : Nat) :
    written.count index ≤ 1 := by
  have part := orderly.shared.count_eq index
  rw [List.count_append] at part
  have once := count_begun orderly index
  omega

theorem Orderly.held_allowed (orderly : Orderly jobs workers begun written pool) {index : Nat}
    {job : Job α} {result : α} (known : jobs[index]? = some job)
    (held : pool.slots[index]? = some (some result)) : job.Allows result := by
  by_cases member : index ∈ written
  · obtain ⟨other, there, other_known, other_held, allowed⟩ := orderly.written_well index member
    rw [known, Option.some.injEq] at other_known
    rw [held, Option.some.injEq, Option.some.injEq] at other_held
    exact other_known ▸ other_held ▸ allowed
  · have inside : index < jobs.length := (List.getElem?_eq_some_iff.mp known).1
    rw [orderly.unwritten index inside member] at held
    cases held

theorem Orderly.results_allowed (orderly : Orderly jobs workers begun written pool)
    (done : pool.isDone jobs) :
    List.Forall₂ Job.Allows jobs pool.results := by
  have filled : List.Forall₂ (fun job slot => ∃ result, slot = some result ∧ job.Allows result) jobs
      pool.slots := by
    rw [List.forall₂_iff_get]
    refine ⟨orderly.slots_length.symm, ?_⟩
    intro index inside there
    have member : index ∈ written :=
      (orderly.all_written done).2.mem_iff.mpr (List.mem_range.mpr inside)
    obtain ⟨job, result, known, held, allowed⟩ := orderly.written_well index member
    rw [List.getElem?_eq_getElem inside, Option.some.injEq] at known
    rw [List.getElem?_eq_getElem there, Option.some.injEq] at held
    subst known
    exact ⟨result, held, allowed⟩
  rw [results]
  generalize pool.slots = slots at filled
  clear orderly done
  induction filled with
  | nil => exact .nil
  | cons first rest induction =>
      obtain ⟨result, slot, allowed⟩ := first
      rw [slot]
      exact .cons allowed induction

/-! ## Progress -/

theorem exists_step (orderly : Orderly jobs workers begun written pool) (attended : Attended pool)
    (positive : 0 < workers) (unfinished : ¬ pool.isDone jobs) :
    ∃ next after, Moves jobs workers pool next after := by
  by_cases room : pool.started < jobs.length ∧ pool.running.length < workers
  · exact ⟨.start, _, .start room.1 room.2⟩
  · cases running : pool.running with
    | nil =>
        rw [running, List.length_nil] at room
        have all : pool.started = jobs.length := by
          have within := orderly.within
          omega
        exact absurd (isDone_iff.mpr ⟨all, running⟩) unfinished
    | cons index others =>
        have runs : index ∈ pool.running := running ▸ List.mem_cons_self
        rcases attended index runs with works | handed
        · have inside := Nat.lt_of_lt_of_le (orderly.at_work index works) orderly.within
          exact ⟨.finish index, _, .finish (List.getElem?_eq_getElem inside) works⟩
        · obtain ⟨first, waiting, -⟩ := List.mem_map.mp handed
          cases finished : pool.finished with
          | nil =>
              rw [finished] at waiting
              cases waiting
          | cons first rest =>
              by_cases late : first.1 ∈ pool.running
              · exact ⟨.receive, _, .receive finished late⟩
              · exact ⟨.receive, _, .drop finished late⟩

def Concluded (jobs : List (Job α)) : Prop := ∀ job ∈ jobs, job.finishes ∨ job.expired.isSome

theorem chosen_possible (orderly : Orderly jobs workers begun written pool)
    (attended : Attended pool) (chosen : next? jobs workers pool = some next) :
    ∃ after, Moves jobs workers pool next after := by
  rw [next?] at chosen
  split at chosen
  · rename_i room
    rw [Option.some.injEq] at chosen
    subst chosen
    exact ⟨_, .start room.1 room.2⟩
  · split at chosen
    · rename_i waiting
      rw [Option.some.injEq] at chosen
      subst chosen
      cases finished : pool.finished with
      | nil => simp [finished] at waiting
      | cons first rest =>
          by_cases runs : first.1 ∈ pool.running
          · exact ⟨_, .receive finished runs⟩
          · exact ⟨_, .drop finished runs⟩
    · rename_i none_waiting
      have nothing : pool.finished = [] := by simpa using none_waiting
      split at chosen
      · rename_i index found
        rw [Option.some.injEq] at chosen
        subst chosen
        have runs := List.mem_of_find?_eq_some found
        have inside := Nat.lt_of_lt_of_le (orderly.started_of_running runs) orderly.within
        rcases attended index runs with works | handed
        · exact ⟨_, .finish (List.getElem?_eq_getElem inside) works⟩
        · simp [nothing] at handed
      · rw [Option.map_eq_some_iff] at chosen
        obtain ⟨index, found, same⟩ := chosen
        subst same
        have runs := List.mem_of_find?_eq_some found
        have may : (jobs[index]?.bind (·.expired)).isSome := by simpa using List.find?_some found
        obtain ⟨result, may⟩ := Option.isSome_iff_exists.mp may
        obtain ⟨job, known, allowed⟩ := Option.bind_eq_some_iff.mp may
        exact ⟨_, .expire known allowed runs⟩

theorem done_of_none_chosen (orderly : Orderly jobs workers begun written pool)
    (positive : 0 < workers) (concluded : Concluded jobs) (idle : next? jobs workers pool = none) :
    pool.isDone jobs := by
  rw [next?] at idle
  split at idle
  · cases idle
  · rename_i no_room
    split at idle
    · cases idle
    · split at idle
      · cases idle
      · rename_i none_finishes
        rw [Option.map_eq_none_iff] at idle
        cases running : pool.running with
        | nil =>
            rw [running, List.length_nil] at no_room
            have within := orderly.within
            exact isDone_iff.mpr ⟨by omega, running⟩
        | cons index others =>
            -- A running job neither finishes nor may be given up, which no job does.
            have runs : index ∈ pool.running := running ▸ List.mem_cons_self
            have inside := Nat.lt_of_lt_of_le (orderly.started_of_running runs) orderly.within
            have unfinished := List.find?_eq_none.mp none_finishes index runs
            have kept := List.find?_eq_none.mp idle index runs
            rw [List.getElem?_eq_getElem inside] at unfinished kept
            rcases concluded jobs[index] (List.getElem_mem inside) with finishes | expired
            · exact absurd finishes unfinished
            · exact absurd expired kept

theorem run_done (positive : 0 < workers) (concluded : Concluded jobs) {count : Nat}
    (reaches : Reaches jobs workers begun written pool) (enough : pool.remaining jobs ≤ count) :
    ∃ begun written, Reaches jobs workers begun written (run jobs workers count pool).2 ∧
      (run jobs workers count pool).2.isDone jobs := by
  -- On the steps that may be taken; each uses up some of what is left.
  induction count generalizing pool begun written with
  | zero =>
      have orderly := orderly_of_reaches reaches
      have within := orderly.within
      rw [remaining] at enough
      have idle : pool.running = [] := List.eq_nil_of_length_eq_zero (by omega)
      have all : pool.started = jobs.length := by omega
      exact ⟨begun, written, reaches, isDone_iff.mpr ⟨all, idle⟩⟩
  | succ count induction =>
      have orderly := orderly_of_reaches reaches
      cases chosen : next? jobs workers pool with
      | none =>
          have done := done_of_none_chosen orderly positive concluded chosen
          exact ⟨begun, written,
            by rw [run, chosen]; exact reaches, by rw [run, chosen]; exact done⟩
      | some next =>
          obtain ⟨after, moves⟩ := chosen_possible orderly (attended_of_reaches reaches) chosen
          have less := remaining_decreases moves
          have taken := step_eq_some_iff.mpr moves
          obtain ⟨begun, written, reached, done⟩ := induction (reaches.step taken) (by omega)
          refine ⟨begun, written, ?_, ?_⟩
          · simpa only [run, chosen, taken] using reached
          · simpa only [run, chosen, taken] using done

theorem runAll_done (positive : 0 < workers) (concluded : Concluded jobs) :
    ∃ begun written, Reaches jobs workers begun written (runAll jobs workers).2 ∧
      (runAll jobs workers).2.isDone jobs :=
  run_done positive concluded .initial (by simp [remaining, initial])

end Pool

end ProseLinter
