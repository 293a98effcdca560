import ProseLinter.Rule.Options
import ProseLinter.Text.Blank

/-!
Long sentences. Only prose counts, so code and the targets of links do not make a sentence longer. A
sentence may go over several leaves and lines of one block; a gap between two leaves counts as one
space. It ends with a full stop, an exclamation mark or a question mark, if white space or the end
of the block follows.
-/

namespace ProseLinter.SentenceLength

def ruleId : String := "sentence-length"

def defaultMaximum : Int := 100

def readMaximum (options : Value) : Except OptionFault Int := do
  let table ← Options.table ["max"] options
  Options.integer table "max" 1 defaultMaximum (.notPositive "max")

/-- A code point of prose, and the offset at which it stands. -/
structure Placed where
  char : Char
  offset : Nat
deriving Repr, DecidableEq

def place (offset : Nat) : Text → List Placed
  | [] => []
  | c :: rest => ⟨c, offset⟩ :: place (offset + 1) rest

/-- The prose of leaves, with a space for each gap; `reached` is the offset at which the leaf before
them ends. -/
def proseAfter (reached : Option Nat) : List Node → List Placed
  | [] => []
  | leaf :: rest =>
      let gap := match reached with
        | some reached => if leaf.span.start == reached then [] else [⟨' ', reached⟩]
        | none => []
      gap ++ place leaf.span.start leaf.raw ++ proseAfter (some leaf.span.stop) rest

def prose (block : Node) : List Placed := proseAfter none (block.select Node.isProse)

def isEnder (c : Char) : Bool :=
  c == '.' || c == '!' || c == '?' || c == '\u3002' || c == '\uFF01' || c == '\uFF1F'

def isBreak : List Placed → Bool
  | [] => true
  | next :: _ => isBlank next.char

def cut : List Placed → List (List Placed)
  | [] => [[]]
  | placed :: rest =>
      match cut rest with
      | [] => [[placed]]
      | first :: more =>
          if isEnder placed.char && isBreak rest then [placed] :: first :: more
          else (placed :: first) :: more

def trim (placed : List Placed) : List Placed :=
  ((placed.dropWhile (isBlank ·.char)).reverse.dropWhile (isBlank ·.char)).reverse

/-- A sentence: the offsets of its first and its last code point, and its length. -/
structure Sentence where
  first : Nat
  last : Nat
  length : Nat
deriving Repr, DecidableEq

namespace Sentence

def of? : List Placed → Option Sentence
  | [] => none
  | placed :: rest =>
      some ⟨placed.offset, ((placed :: rest).getLastD placed).offset, rest.length + 1⟩

def span (sentence : Sentence) : Except Fault Span :=
  Fault.spanOf sentence.first (sentence.last + 1)

end Sentence

def sentences (block : Node) : List Sentence :=
  (cut (prose block)).filterMap fun segment => Sentence.of? (trim segment)

def findIn (maximum : Int) (context : RuleContext) (block : Node) :
    Except Fault (List Finding) := do
  let placed ← (sentences block).mapM fun sentence => return (← sentence.span, sentence.length)
  return (placed.filter fun entry => decide (maximum < entry.2)).map fun entry =>
    context.report entry.1
      ("Sentence is " ++ toString entry.2 ++ " characters long (maximum " ++
        toString maximum ++ ").") none

def find (maximum : Int) (context : RuleContext) (document : Document) :
    Except Fault (List Finding) := do
  let found ← (document.select (Node.isBranch BranchKind.holdsSentences)).mapM
    (findIn maximum context)
  return found.flatten

def rule : DocumentRule where
  id := ruleId
  description := "Limit the number of characters in a sentence."
  defaultSeverity := .warning
  fixable := false
  prepare := Options.prepare ruleId readMaximum fun maximum =>
    { settings := .int maximum
      evaluate :=
        fun context document => (find maximum context document).map fun found => found.map .proper }

end ProseLinter.SentenceLength
