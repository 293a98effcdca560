/-!
The pool: jobs that run side by side, at most so many at a time. A job that was started hands its
result in when it is done, and the results are received in that order; or the job is given up, and a
result that it hands in later changes nothing when it is received. The results stand in slots, one
for each job, so their order is that of the jobs whatever the order of the steps.
-/

namespace ProseLinter

/-- A job: its result, the result that stands for it when it is given up, and whether it ever
finishes. A job without the second result is never given up. -/
structure Job (α : Type) where
  result : α
  expired : Option α
  finishes : Bool

/-- The state of the pool: how many jobs were started, which of these are still at work, what was
handed in and not yet received, which jobs count as running, and the slots. A job that was given up
does not count as running, but it may well be at work. -/
structure Pool (α : Type) where
  started : Nat
  working : List Nat
  finished : List (Nat × α)
  running : List Nat
  slots : List (Option α)

inductive PoolStep where
  | start
  | finish (index : Nat)
  | receive
  | expire (index : Nat)
deriving Repr, DecidableEq

namespace Pool

variable {α : Type}

def initial (jobs : List (Job α)) : Pool α := ⟨0, [], [], [], List.replicate jobs.length none⟩

def settle (pool : Pool α) (index : Nat) (result : α) : Pool α :=
  { pool with running := pool.running.erase index, slots := pool.slots.set index (some result) }

/-- The pool after a step, if the step is possible: a job is started if there is one left and fewer
than `workers` run, a job that is at work hands its result in, the first result handed in is
received, and a running job is given up if it may be. -/
def step (jobs : List (Job α)) (workers : Nat) (pool : Pool α) : PoolStep → Option (Pool α)
  | .start =>
      if pool.started < jobs.length ∧ pool.running.length < workers then
        some { pool with
          started := pool.started + 1
          working := pool.working ++ [pool.started]
          running := pool.running ++ [pool.started] }
      else none
  | .finish index =>
      match jobs[index]? with
      | none => none
      | some job =>
          if pool.working.contains index then
            some { pool with
              working := pool.working.erase index
              finished := pool.finished ++ [(index, job.result)] }
          else none
  | .receive =>
      match pool.finished with
      | [] => none
      | (index, result) :: rest =>
          let received := { pool with finished := rest }
          some (if pool.running.contains index then received.settle index result else received)
  | .expire index =>
      match jobs[index]?.bind (·.expired) with
      | none => none
      | some expired =>
          if pool.running.contains index then some (pool.settle index expired) else none

def isDone (jobs : List (Job α)) (pool : Pool α) : Bool :=
  pool.started == jobs.length && pool.running.isEmpty

/-- The step to take next: a job is started as long as that is possible; otherwise a result is
received if one was handed in, and if not the first running job that finishes hands its result in.
If none will finish, the one that has run longest is given up. -/
def next? (jobs : List (Job α)) (workers : Nat) (pool : Pool α) : Option PoolStep :=
  if pool.started < jobs.length ∧ pool.running.length < workers then some .start
  else if !pool.finished.isEmpty then some .receive
  else match pool.running.find? fun index => (jobs[index]?.map (·.finishes)).getD false with
    | some index => some (.finish index)
    | none => (pool.running.find? fun index => (jobs[index]?.bind (·.expired)).isSome).map .expire

/-- Takes steps until none is left, or until `count` were taken: the steps and the pool after
them. -/
def run (jobs : List (Job α)) (workers : Nat) : Nat → Pool α → List PoolStep × Pool α
  | 0, pool => ([], pool)
  | count + 1, pool =>
      match next? jobs workers pool with
      | none => ([], pool)
      | some next =>
          match pool.step jobs workers next with
          | none => ([], pool)
          | some after =>
              let (steps, last) := run jobs workers count after
              (next :: steps, last)

/-- Runs all jobs; none takes more than four steps. -/
def runAll (jobs : List (Job α)) (workers : Nat) : List PoolStep × Pool α :=
  run jobs workers (4 * jobs.length) (initial jobs)

def results (pool : Pool α) : List α := pool.slots.filterMap id

end Pool

end ProseLinter
