import ProseLinter.FixRun
import ProseLinter.Session.Pool

/-!
Sessions: a profile run over a batch of documents. A document that cannot be processed gives one
error and leaves the others alone; the results stand in the order of the documents. The rules about
the batch come last and see every document that was processed; the findings of such a rule count
only if all of them are sound.
-/

namespace ProseLinter

inductive Seconds where
  | whole (n : Int)
  | fractional (x : Float)

namespace Seconds

def isPositive : Seconds → Bool
  | whole n => decide (0 < n)
  | fractional x => !decide (x ≤ 0)

def written : Seconds → String
  | whole n => toString n
  | fractional x => messageFloat.write x

end Seconds

/-- How a session is run: the greatest number of fix passes, how many documents are processed at a
time, and how long a document may take. -/
structure Runner where
  limit : Int
  workers : Nat
  timeout : Option Seconds

namespace Runner

def make (limit workers : Int) (timeout : Option Seconds) : Except Fault Runner :=
  if workers < 1 then .error (.limit .workers)
  else if timeout.any fun seconds => !seconds.isPositive then .error (.limit .timeout)
  else .ok ⟨limit, workers.toNat, timeout⟩

end Runner

inductive Outcome where
  | processed (processed : Processed)
  | failed (source : Source) (fault : Fault)
  | expired (source : Source) (timeout : Seconds)

namespace Outcome

def failure (source : Source) : Fault → DocumentResult
  | .unsupportedKind kind =>
      .failure source.id Notice.unsupportedKind.ruleId (Fault.unsupportedKind kind).message none
  | .parse fault =>
      .failure source.id Notice.parseError.ruleId
        ("Parsing failed: " ++ fault.message) fault.position
  | fault =>
      .failure source.id Notice.internalError.ruleId
        ("Internal error: " ++ fault.kind ++ ": " ++ fault.message) none

def result : Outcome → DocumentResult
  | processed work => work.result
  | failed source fault => failure source fault
  | expired source timeout =>
      .failure source.id Notice.timeout.ruleId
        ("Processing exceeded the " ++ timeout.written ++ "s time limit.") none

def document? : Outcome → Option Document
  | processed work => some work.document
  | _ => none

def log : Outcome → List LogRecord
  | processed work => work.log
  | failed source (.unsupportedKind kind) =>
      [⟨.info, .session, "Skipping " ++ source.id ++ ": " ++ (Fault.unsupportedKind kind).message⟩]
  | failed source (.parse fault) =>
      [⟨.info, .session, "Could not parse " ++ source.id ++ ": " ++ fault.message⟩]
  | failed source fault =>
      [⟨.error, .telemetry, "Internal error on " ++ source.id ++ ": " ++ fault.message⟩]
  | expired source timeout =>
      [⟨.warning, .session, "Timed out after " ++ timeout.written ++ "s: " ++ source.id⟩,
        ⟨.warning, .telemetry, "Timed out: " ++ source.id⟩]

end Outcome

namespace SessionCheck

/-- Checks what a rule handed over: each id must be that of a document, and the findings under it
must lie in its text. Of two documents with one id the later one counts. -/
def vetAll (ruleId : String) (documents : List Document) :
    Table String (List (Supplied Finding)) → Except RuleCause (Table String (List Finding))
  | [] => .ok []
  | (documentId, produced) :: rest =>
      match documents.reverse.find? (·.id == documentId) with
      | none => .error (.unknownDocument documentId)
      | some document => do
          let findings ← Finding.vet ruleId document.length produced
          return (documentId, findings) :: (← vetAll ruleId documents rest)

def run (check : SessionCheck) (context : RuleContext) (documents : List Document) :
    Except RuleFault (Table String (List Finding)) :=
  match check.evaluate context documents with
  | .error fault => .error (.ofFault context.ruleId fault)
  | .ok produced =>
      match vetAll context.ruleId documents produced with
      | .ok findings => .ok findings
      | .error cause => .error ⟨context.ruleId, cause⟩

/-- What the check has to say about the documents of a batch: its findings, or for each the error
that it failed. -/
def findings (check : SessionCheck) (context : RuleContext) (documents : List Document) :
    Table String (List Finding) :=
  match check.run context documents with
  | .ok found => found
  | .error fault => Table.ofEntries (documents.map fun document => (document.id, [fault.finding]))

end SessionCheck

namespace Session

def gather (collected found : Table String (List Finding)) : Table String (List Finding) :=
  found.foldl (fun collected entry => collected.alter entry.1 entry.2 (· ++ entry.2)) collected

def batchFindings (profile : Profile) (documents : List Document) : Table String (List Finding) :=
  if documents.isEmpty then []
  else profile.sessionChecks.foldl
    (fun collected (context, check) => gather collected (check.findings context documents)) []

def runOne (profile : Profile) (limit : Nat) (mode : Mode) (source : Source) : Outcome :=
  match profile.process limit mode source with
  | .ok processed => .processed processed
  | .error fault => .failed source fault

def job (profile : Profile) (limit : Nat) (mode : Mode) (timeout : Option Seconds)
    (source : Source) : Job Outcome where
  result := runOne profile limit mode source
  expired := timeout.map (.expired source)
  finishes := timeout.isNone || profile.answersOn limit mode source

def stepLog (jobs : List (Job Outcome)) (steps : List PoolStep) : List LogRecord :=
  steps.flatMap fun step =>
    match step with
    | .start | .receive => []
    | .finish index => (jobs[index]?.map fun job => job.result.log).getD []
    | .expire index => ((jobs[index]?.bind (·.expired)).map (·.log)).getD []

/-- What becomes of the documents, and the records: one after the other, or in a pool if several may
be processed at a time or their time is limited. The limit is taken to be one that the system can
wait for; with a longer one the wait itself fails, which is left out. -/
def outcomes (runner : Runner) (profile : Profile) (mode : Mode) (sources : List Source) :
    List Outcome × List LogRecord :=
  let limit := runner.limit.toNat
  if !sources.isEmpty && (decide (1 < runner.workers) || runner.timeout.isSome) then
    let jobs := sources.map (job profile limit mode runner.timeout)
    let (steps, pool) := Pool.runAll jobs runner.workers
    (pool.results, stepLog jobs steps)
  else
    let outcomes := sources.map (runOne profile limit mode)
    (outcomes, outcomes.flatMap (·.log))

def complete (profile : Profile) (collected : Table String (List Finding)) :
    Outcome → Except Fault DocumentResult
  | .processed processed =>
      let extra := (collected.get? processed.result.documentId).getD []
      if extra.isEmpty then .ok processed.result else profile.merge processed extra
  | outcome => .ok outcome.result

/-- The results of a session, and what it told about itself. -/
structure Record where
  results : BatchResult
  log : List LogRecord

def startRecord (mode : Mode) (sources : List Source) : LogRecord :=
  .step ("Checking " ++ toString sources.length ++ " document(s) in " ++ mode.name ++ " mode")

def endRecord (results : BatchResult) : LogRecord :=
  .step ("Done: " ++ toString (results.count .error) ++ " error(s), " ++
    toString (results.count .warning) ++ " warning(s), " ++ toString results.appliedCount ++
    " fix(es) applied")

def run (runner : Runner) (profile : Profile) (mode : Mode) (sources : List Source) :
    Except Fault Record := do
  if runner.limit < 1 then throw (.limit .passes)
  let (outcomes, log) := outcomes runner profile mode sources
  let collected := batchFindings profile (outcomes.filterMap Outcome.document?)
  let results ← outcomes.mapM (complete profile collected)
  return ⟨results, startRecord mode sources :: log ++ [endRecord results]⟩

end Session

end ProseLinter
