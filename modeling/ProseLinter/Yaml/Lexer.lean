import ProseLinter.Table
import ProseLinter.Yaml.BlockScalar
import ProseLinter.Yaml.Plain
import ProseLinter.Yaml.Property
import ProseLinter.Yaml.Quoted

/-!
Tokens of a text of YAML. Tokens are read one after the other and none is taken back. Only a colon
shows that what was read before it is a key, so the places where a key may have begun are
remembered, and the keys are woven in at the end. A key without a question mark is on one line and
no longer than 1024 characters.
-/

namespace ProseLinter.Yaml

structure Candidate where
  before : Nat
  cursor : Cursor
  isRequired : Bool

structure Lexer where
  cursor : Cursor
  depth : Nat := 0
  /-- The columns of the blocks that are open, the innermost first. -/
  columns : List Nat := []
  mayBegin : Bool := true
  candidates : Table Nat Candidate := []
  tokens : List Token := []
  keys : List (Nat × List Token) := []
  isFinished : Bool := false

namespace Lexer

def keyLimit : Nat := 1024

def emit (lexer : Lexer) (tokens : List Token) (after : Cursor) : Lexer :=
  { lexer with tokens := tokens.reverse ++ lexer.tokens, cursor := after }

def isStale (lexer : Lexer) (candidate : Candidate) : Bool :=
  candidate.cursor.line != lexer.cursor.line || keyLimit <
    lexer.cursor.index - candidate.cursor.index

/-- Drops the places where no key can have begun; refused if there had to be one. -/
def dropStale (lexer : Lexer) : Option Lexer :=
  let (stale, fresh) := lexer.candidates.partition fun entry => lexer.isStale entry.2
  if stale.any (·.2.isRequired) then none else some { lexer with candidates := fresh }

/-- Drops the place where a key may have begun inside the innermost brackets; refused if there had
to be one. -/
def dropCandidate (lexer : Lexer) : Option Lexer :=
  match lexer.candidates.get? lexer.depth with
  | some candidate =>
      if candidate.isRequired then none
      else some { lexer with candidates := lexer.candidates.erase lexer.depth }
  | none => some lexer

def saveCandidate (lexer : Lexer) : Option Lexer := do
  if !lexer.mayBegin then return lexer
  let dropped ← lexer.dropCandidate
  let isRequired := lexer.depth == 0 && lexer.columns.head? == some lexer.cursor.column
  let candidate : Candidate := ⟨lexer.tokens.length, lexer.cursor, isRequired⟩
  return { dropped with candidates := dropped.candidates.set lexer.depth candidate }

/-- Closes the blocks that begin beyond the column, or all blocks. Between brackets nothing is
closed. -/
def closeBlocks (lexer : Lexer) (column : Option Nat) : Lexer :=
  if lexer.depth ≠ 0 then lexer
  else
    let closed := lexer.columns.takeWhile fun opened => column.all (· < opened)
    { lexer with
      columns := lexer.columns.drop closed.length
      tokens := List.replicate closed.length .closeBlock ++ lexer.tokens }

/-- Opens a block in the column, unless one that begins no earlier is open; says whether it was
opened. -/
def openBlock (lexer : Lexer) (column : Nat) : Lexer × Bool :=
  if lexer.depth ≠ 0 || lexer.columns.head?.any (column ≤ ·) then (lexer, false)
  else ({ lexer with columns := column :: lexer.columns }, true)

def finish (lexer : Lexer) : Option Lexer := do
  return { ← (lexer.closeBlocks none).dropCandidate with isFinished := true }

def readDirective (lexer : Lexer) : Except Unreadable Lexer := do
  let ready ← (lexer.closeBlocks none).dropCandidate
  let (read, after) ← directive lexer.cursor
  return { ready.emit [.directive read] after with mayBegin := false }

def readMarker (lexer : Lexer) (token : Token) : Option Lexer := do
  let ready ← (lexer.closeBlocks none).dropCandidate
  return { ready.emit [token] (lexer.cursor.advance 3) with mayBegin := false }

def readOpening (lexer : Lexer) (token : Token) : Option Lexer := do
  let ready ← lexer.saveCandidate
  return { ready.emit [token] lexer.cursor.step with depth := lexer.depth + 1, mayBegin := true }

def readClosing (lexer : Lexer) (token : Token) : Option Lexer := do
  let ready ← lexer.dropCandidate
  return { ready.emit [token] lexer.cursor.step with depth := lexer.depth - 1, mayBegin := false }

def readComma (lexer : Lexer) : Option Lexer := do
  return { (← lexer.dropCandidate).emit [.comma] lexer.cursor.step with mayBegin := true }

def readMark (lexer : Lexer) (opening token : Token) : Option Lexer := do
  if lexer.depth = 0 ∧ !lexer.mayBegin then none
  let (opened, isNew) := lexer.openBlock lexer.cursor.column
  let ready ← opened.dropCandidate
  return ready.emit (if isNew then [opening, token] else [token]) lexer.cursor.step

def readDash (lexer : Lexer) : Option Lexer := do
  return { ← lexer.readMark .openBlockList .dash with mayBegin := true }

def readQuestion (lexer : Lexer) : Option Lexer := do
  return { ← lexer.readMark .openBlockTable .key with mayBegin := lexer.depth == 0 }

/-- The colon before a value. What began at the remembered place is the key, if there is such a
place. -/
def readColon (lexer : Lexer) : Option Lexer := do
  match lexer.candidates.get? lexer.depth with
  | some candidate =>
      let (opened, isNew) := lexer.openBlock candidate.cursor.column
      let woven := if isNew then [Token.openBlockTable, .key] else [.key]
      return { opened.emit [.value] lexer.cursor.step with
        candidates := lexer.candidates.erase lexer.depth
        keys := (candidate.before, woven) :: lexer.keys
        mayBegin := false }
  | none => return { ← lexer.readMark .openBlockTable .value with mayBegin := lexer.depth == 0 }

def readProperty (lexer : Lexer) (read : Option (Token × Cursor)) : Option Lexer := do
  let ready ← lexer.saveCandidate
  let (token, after) ← read
  return { ready.emit [token] after with mayBegin := false }

def readBlockScalar (lexer : Lexer) : Option Lexer := do
  let ready ← lexer.dropCandidate
  let least := (lexer.columns.head?.map (· + 1)).getD 1
  let (text, after) ← blockScalar? least lexer.cursor
  return { ready.emit [.scalar text false] after with mayBegin := true }

def readQuoted (lexer : Lexer) (quote : Char) : Except Unreadable Lexer := do
  let ready ← lexer.saveCandidate
  let (text, after) ← quoted quote lexer.cursor
  return { ready.emit [.scalar text false] after with mayBegin := false }

def readPlain (lexer : Lexer) : Option Lexer := do
  let inFlow := lexer.depth != 0
  if !beginsPlain inFlow lexer.cursor.rest then none
  let ready ← lexer.saveCandidate
  let scalar := plain inFlow ((lexer.columns.head?.map (· + 1)).getD 0) lexer.cursor
  return { ready.emit [.scalar scalar.text true] scalar.after with mayBegin := scalar.endedLine }

def skip (lexer : Lexer) : Option Lexer := do
  let (cursor, ended) := lexer.cursor.skip
  let moved := { lexer with cursor, mayBegin := lexer.mayBegin || (ended && lexer.depth == 0) }
  return (← moved.dropStale).closeBlocks (some cursor.column)

def next (lexer : Lexer) : Except Unreadable Lexer := do
  let lexer ← lexer.skip
  let text := lexer.cursor.rest
  let after := text.drop 1
  let inFlow := lexer.depth != 0
  let atStart := lexer.cursor.column == 0
  match text with
  | [] => lexer.finish
  | c :: _ =>
      if atStart && c == '%' then lexer.readDirective
      else if atStart && isMarked "---" text then lexer.readMarker .documentStart
      else if atStart && isMarked "..." text then lexer.readMarker .documentEnd
      else match c with
        | '[' => lexer.readOpening .openList
        | '\x7b' => lexer.readOpening .openTable
        | ']' => lexer.readClosing .closeList
        | '\x7d' => lexer.readClosing .closeTable
        | ',' => lexer.readComma
        | '*' =>
            lexer.readProperty
              ((anchor? lexer.cursor).map fun (name, after) => (.alias name, after))
        | '&' =>
            lexer.readProperty
              ((anchor? lexer.cursor).map fun (name, after) => (.anchor name, after))
        | '!' =>
            lexer.readProperty
              ((writtenTag? lexer.cursor).map fun (tag, after) => (.tag tag, after))
        | '\'' | '"' => lexer.readQuoted c
        | _ =>
            if c == '-' && atGap after then lexer.readDash
            else if c == '?' && (inFlow || atGap after) then lexer.readQuestion
            else if c == ':' && (inFlow || atGap after) then lexer.readColon
            else if (c == '|' || c == '>') && !inFlow then lexer.readBlockScalar
            else lexer.readPlain

/-- The state at the end of the text or at the place from which no token can be read, and the fault
there. -/
def run : Nat → Lexer → Lexer × Option Unreadable
  | 0, lexer => (lexer, some .malformed)
  | fuel + 1, lexer =>
      if lexer.isFinished then (lexer, none)
      else match lexer.next with
        | .ok more => run fuel more
        | .error fault => (lexer, some fault)

def woven (lexer : Lexer) : List Token :=
  let nothing : Array (List Token) := Array.replicate lexer.tokens.length []
  let keys := lexer.keys.foldl (fun keys (before, woven) => keys.setIfInBounds before woven) nothing
  lexer.tokens.reverse.zipIdx.flatMap fun (token, before) => (keys[before]?.getD []) ++ [token]

/-- How many tokens are known for certain: those before the first place where a key may have
begun. -/
def certain (lexer : Lexer) : Nat :=
  let fresh := lexer.candidates.filter fun entry => !lexer.isStale entry.2
  fresh.foldl (fun least entry => min least entry.2.before) lexer.tokens.length

def withCertain (lexer : Lexer) : Lexer :=
  { lexer with tokens := lexer.tokens.drop (lexer.tokens.length - lexer.certain) }

end Lexer

/-- The tokens of a text. Each step but the last reads at least one code point. Where no further
token can be read, only those are given that are known for certain, and then the fault. -/
def tokens (text : Text) : List Token :=
  match Lexer.run (text.length + 2) { cursor := { rest := text } } with
  | (lexer, none) => lexer.woven
  | (lexer, some fault) => lexer.withCertain.woven ++ [.broken fault]

end ProseLinter.Yaml
