import ProseLinter.Evaluation
import ProseLinter.Log

/-!
Fix runs. A pass evaluates the document, selects patches, applies them and reads the new text as the
next version of the document. The run ends when no patch is left to take, or when the greatest
number of passes is reached. If a new text cannot be read, the run is rolled back: nothing of it
counts, and the document is as it was.
-/

namespace ProseLinter

inductive FixEnding where
  | converged
  | limited
  | rolledBack (fault : ParseFault)
deriving Repr, DecidableEq

/-- A version of the document, and what was found in it. -/
structure Version where
  document : Document
  findings : List Finding

/-- A pass that was adopted: the version it started from, and what became of the proposed
patches. -/
structure FixPass where
  version : Version
  verdicts : List (Proposal × Verdict)

namespace FixPass

def applied (pass : FixPass) : List Finding := (Patching.taken pass.verdicts).map (·.finding)

end FixPass

/-- A fix run: the passes that were adopted, the version at which it ended with the verdicts there,
and how it ended. -/
structure FixRun where
  passes : List FixPass
  last : Version
  verdicts : List (Proposal × Verdict)
  ending : FixEnding

namespace FixRun

def dropLog (verdicts : List (Proposal × Verdict)) : List LogRecord :=
  verdicts.filterMap fun (proposal, verdict) =>
    match verdict with
    | .dropped earlier =>
        let span := proposal.patch.span
        some ⟨.debug, .evaluation,
          "Dropping patch from " ++ proposal.finding.ruleId ++ " at [" ++ toString span.start ++
            ", " ++ toString span.stop ++ "): overlaps patch from " ++ earlier.finding.ruleId⟩
    | _ => none

def passLog (documentId : String) (number : Nat) : List FixPass → List LogRecord
  | [] => []
  | pass :: rest =>
      dropLog pass.verdicts ++
        ⟨.debug, .evaluation,
          "Fix pass " ++ toString number ++ " on " ++ documentId ++ " applied " ++
            toString pass.applied.length ++ " patch(es)"⟩ :: passLog documentId (number + 1) rest

def endingLog (documentId : String) (run : FixRun) : List LogRecord :=
  match run.ending with
  | .converged => []
  | .limited =>
      [⟨.warning, .evaluation,
        "Fix of " ++ documentId ++ " did not converge after " ++ toString run.passes.length ++
          " iteration(s)"⟩]
  | .rolledBack fault =>
      [⟨.warning, .evaluation,
        "Discarding fixes for " ++ documentId ++ ": fixed output does not parse (" ++
          fault.message ++ ")"⟩]

def log (documentId : String) (run : FixRun) : List LogRecord :=
  passLog documentId 1 run.passes ++ dropLog run.verdicts ++ endingLog documentId run

end FixRun

/-- What came of linting or fixing a document: the result, the version that it is about, and the
log. -/
structure Processed where
  result : DocumentResult
  document : Document
  log : List LogRecord := []

namespace Profile

def version (profile : Profile) (document : Document) : Version :=
  ⟨document, profile.evaluate document⟩

def verdicts (profile : Profile) (version : Version) : List (Proposal × Verdict) :=
  Patching.verdicts version.document.text (profile.proposals version.findings)

/-- The fix run from a version on, with the number of passes that are left. -/
def fixFrom (profile : Profile) (binding : Binding) (document : Document) : Nat → FixRun
  | 0 =>
      let version := profile.version document
      let verdicts := profile.verdicts version
      ⟨[], version, verdicts, if (Patching.taken verdicts).isEmpty then .converged else .limited⟩
  | remaining + 1 =>
      let version := profile.version document
      let verdicts := profile.verdicts version
      let patches := (Patching.taken verdicts).map (·.patch)
      if patches.isEmpty then ⟨[], version, verdicts, .converged⟩
      else match binding.read document.id (Patching.apply document.text patches) document.kind with
        | .error fault => ⟨[], version, verdicts, .rolledBack fault⟩
        | .ok next =>
            let run := fixFrom profile binding next remaining
            { run with passes := ⟨version, verdicts⟩ :: run.passes }

def limitFinding (passes : Nat) : Finding :=
  ⟨Notice.fixLimit.ruleId, .warning, Span.point 0,
    "Auto-fix stopped after " ++ toString passes ++
      " iteration(s) without converging; fixes may be incomplete.",
    none, none⟩

def rollbackFinding (fault : ParseFault) : Finding :=
  ⟨Notice.fixUnsafe.ruleId, .error, Span.point 0,
    "Auto-fix skipped: fixed output could not be parsed (" ++ fault.message ++ ").", none, none⟩

/-- The outcome of a fix run: that of its last version, or that of the given document if the run was
rolled back. -/
def fixOutcome (profile : Profile) (given : Document) (run : FixRun) : Processed :=
  let finished (notices : List Finding) : Processed :=
    let applied := run.passes.flatMap (·.applied)
    let last := run.last.document
    ⟨{ documentId := given.id
       findings := profile.arrange last (run.last.findings ++ notices)
       fixedText := if last.text = given.text then none else some last.text
       fixApplied := !applied.isEmpty
       applied
       passes := run.passes.length }, last, run.log given.id⟩
  match run.ending with
  | .converged => finished []
  | .limited => finished [limitFinding run.passes.length]
  | .rolledBack fault =>
      let first := (run.passes.head?.map (·.version)).getD run.last
      ⟨{ documentId := given.id
         findings := profile.arrange given (first.findings ++ [rollbackFinding fault]) }, given,
        run.log given.id⟩

def fix (profile : Profile) (binding : Binding) (limit : Nat) (document : Document) : Processed :=
  profile.fixOutcome document (profile.fixFrom binding document limit)

def lint (profile : Profile) (document : Document) : Processed :=
  ⟨{ documentId := document.id, findings := profile.evaluate document }, document, []⟩

end Profile

/-- What is done with documents: report only, or fix as well. -/
inductive Mode where
  | lint
  | fix
deriving Repr, DecidableEq

namespace Mode

def name : Mode → String
  | lint => "lint"
  | fix => "fix"

def named (name : String) : Except Fault Mode :=
  if name = "lint" then .ok .lint else if name = "fix" then .ok .fix else .error (.unknownMode name)

end Mode

namespace Profile

def process (profile : Profile) (limit : Nat) (mode : Mode) (source : Source) :
    Except Fault Processed := do
  let binding ← profile.bindingFor source.kind
  let document ← (binding.read source.id source.text source.kind).mapError .parse
  match mode with
  | .lint => return profile.lint document
  | .fix => return profile.fix binding limit document

def answersOn (profile : Profile) (limit : Nat) (mode : Mode) (source : Source) : Bool :=
  match profile.bindingFor source.kind with
  | .error _ => true
  | .ok binding =>
      match binding.read source.id source.text source.kind with
      | .error _ => true
      | .ok document =>
          match mode with
          | .lint => profile.answers document
          | .fix =>
              let run := profile.fixFrom binding document limit
              run.passes.all (fun pass => profile.answers pass.version.document) &&
                profile.answers run.last.document

/-- The findings of a processed document together with findings from elsewhere, which have to lie in
its text. -/
def merge (profile : Profile) (processed : Processed) (extra : List Finding) :
    Except Fault DocumentResult := do
  let findings := processed.result.findings ++ extra
  let map := processed.document.lineMap
  findings.forM fun finding => discard ((map.locationOf finding.span).mapError Fault.position)
  return { processed.result with findings := profile.arrange processed.document findings }

end Profile

end ProseLinter
