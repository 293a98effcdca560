import ProseLinter.Finding

/-!
Patching: which of the proposed patches a pass takes, and what they make of the text. The proposals
are gone through by the start of their patches, then by the order of their rules; one that changes
nothing is skipped, and one that overlaps a patch already taken is dropped. The patches that are
taken are applied from the last to the first, so none of them moves the part that another is about.
-/

namespace ProseLinter

/-- A finding that proposes a patch, with the place of its rule among the rules. -/
structure Proposal where
  order : Nat
  finding : Finding
  patch : Patch
deriving Repr, DecidableEq

inductive Verdict where
  | idle
  | dropped (taken : Proposal)
  | taken
deriving Repr, DecidableEq

namespace Patching

def precedes (a b : Proposal) : Bool :=
  decide (a.patch.span.start < b.patch.span.start) ||
    (a.patch.span.start == b.patch.span.start && decide (a.order ≤ b.order))

/-- What becomes of proposals that are gone through in order, when some are taken already. -/
def judge (text : Text) (taken : List Proposal) : List Proposal → List (Proposal × Verdict)
  | [] => []
  | proposal :: rest =>
      if proposal.patch.isIdle text then (proposal, .idle) :: judge text taken rest
      else match taken.find? fun earlier => proposal.patch.conflicts earlier.patch with
        | some earlier => (proposal, .dropped earlier) :: judge text taken rest
        | none => (proposal, .taken) :: judge text (taken ++ [proposal]) rest

def verdicts (text : Text) (proposals : List Proposal) : List (Proposal × Verdict) :=
  judge text [] (proposals.mergeSort precedes)

def taken (verdicts : List (Proposal × Verdict)) : List Proposal :=
  verdicts.filterMap fun (proposal, verdict) => if verdict = .taken then some proposal else none

def select (text : Text) (proposals : List Proposal) : List Proposal :=
  taken (verdicts text proposals)

/-- Patches from the last start to the first; of two with one start, the earlier in the list comes
first. -/
def lastFirst (patches : List Patch) : List Patch :=
  patches.mergeSort fun a b => decide (b.span.start ≤ a.span.start)

def apply (text : Text) (patches : List Patch) : Text :=
  (lastFirst patches).foldl (fun patched patch => patch.apply patched) text

end Patching

end ProseLinter
