import ProseLinter.Table
import ProseLinter.Yaml.Graph
import ProseLinter.Yaml.Token

/-!
Documents: the graph that tokens write, and the number of the node that holds all others. An alias
stands for the node with its anchor, also inside that node itself. Where a token cannot be read,
that is the fault as soon as anything hangs on the token.
-/

namespace ProseLinter.Yaml

/-- What was read of a document: its nodes so far, and the numbers of those with anchors. -/
structure Draft where
  graph : Graph := #[]
  anchors : Table String Nat := []

namespace Draft

def next (draft : Draft) : Nat := draft.graph.size

def add (draft : Draft) (node : Node) : Draft := { draft with graph := draft.graph.push node }

def mark (draft : Draft) (anchor : Option String) : Draft :=
  match anchor with
  | some name => { draft with anchors := draft.anchors.set name draft.next }
  | none => draft

def write (draft : Draft) (number : Nat) (node : Node) : Draft :=
  { draft with graph := draft.graph.write number node }

end Draft

namespace Document

/-- What was read, the draft with it, and the tokens that follow. -/
abbrev Step (α : Type) := α × Draft × List Token

def refuse {α : Type} (tokens : List Token) : Except Unreadable α :=
  match tokens with
  | .broken fault :: _ => .error fault
  | _ => .error .malformed

def look (tokens : List Token) : Except Unreadable Unit :=
  match tokens with
  | .broken fault :: _ => .error fault
  | _ => .ok ()

def isNext (wanted : List Token) (tokens : List Token) : Bool := tokens.head?.any wanted.contains

/-- What is written before a node: an anchor and a tag, in any order. -/
structure Properties where
  anchor : Option String := none
  tag : Option WrittenTag := none

namespace Properties

def areNone (properties : Properties) : Bool := properties.anchor.isNone && properties.tag.isNone

end Properties

/-- The properties of a node, and the tokens after them. After one of the two the next token is
looked at. -/
def properties : List Token → Except Unreadable (Properties × List Token)
  | .anchor name :: .tag tag :: rest => .ok (⟨some name, some tag⟩, rest)
  | .tag tag :: .anchor name :: rest => .ok (⟨some name, some tag⟩, rest)
  | .anchor name :: rest => do
      look rest
      return (⟨some name, none⟩, rest)
  | .tag tag :: rest => do
      look rest
      return (⟨none, some tag⟩, rest)
  | tokens => .ok ({ }, tokens)

/-- What a tag says: nothing, that its node is to be taken by its form, or a sort. -/
inductive Demand where
  | nothing
  | form
  | sort (tag : Tag)

def demand (handles : List (String × String)) : Option WrittenTag → Option Demand
  | none => some .nothing
  | some tag => do
      let start ← match tag.handle with
        | none => some ""
        | some handle => handles.lookup handle
      let name := start ++ tag.suffix
      return if name = "!" then .form else .sort (Tag.ofName name)

def Demand.forScalar (demand : Demand) (isPlain : Bool) (text : Text) : Tag :=
  match demand with
  | nothing => if isPlain then Tag.ofForm text else .text
  | form => Tag.ofForm text
  | sort tag => tag

def Demand.orElse (demand : Demand) (tag : Tag) : Tag :=
  match demand with
  | sort other => other
  | _ => tag

/-- What a node is read in: what handles of tags stand for, and how many lists and tables it is
inside. -/
structure Scope where
  handles : List (String × String)
  depth : Nat := 0

def keep (node : Node) (draft : Draft) (rest : List Token) : Step Nat :=
  (draft.next, draft.add node, rest)

def finish (number : Nat) (tag : Tag) (content : Content) (draft : Draft)
    (rest : List Token) : Step Nat :=
  (number, draft.write number ⟨tag, content⟩, rest)

mutual

/-- A node. Outside brackets it may be a block, and as a part of a table a list without a block of
its own. -/
def read (scope : Scope) (isBlock isPart : Bool) :
    Nat → Draft → List Token → Except Unreadable (Step Nat)
  | 0, _, _ => .error .malformed
  | fuel + 1, draft, tokens => do
      if let .alias name :: rest := tokens then
        let number ← draft.anchors.get? name
        return (number, draft, rest)
      let (properties, rest) ← properties tokens
      let demand ← demand scope.handles properties.tag
      look rest
      if properties.anchor.any draft.anchors.has then throw .malformed
      if Unreadable.depthLimit < 2 * scope.depth then throw (.tooDeep none)
      let inner : Scope := { scope with depth := scope.depth + 1 }
      let number := draft.next
      let marked := draft.mark properties.anchor
      let listTag := demand.orElse .list
      let tableTag := demand.orElse .table
      match rest with
      | .scalar text isPlain :: after =>
          return keep ⟨demand.forScalar isPlain text, .scalar text⟩ marked after
      | .openList :: after => do
          let (items, draft, rest) ← readFlowItems inner true fuel (marked.add .empty) after
          return finish number listTag (.list items) draft rest
      | .openTable :: after => do
          let (entries, draft, rest) ← readFlowEntries inner true fuel (marked.add .empty) after
          return finish number tableTag (.table entries) draft rest
      | _ =>
          if isPart && isNext [.dash] rest then
            let (items, draft, rest) ← readItems inner true fuel (marked.add .empty) rest
            return finish number listTag (.list items) draft rest
          else if isBlock && isNext [.openBlockList] rest then
            let (items, draft, rest) ← readItems inner false fuel (marked.add .empty) (rest.drop 1)
            return finish number listTag (.list items) draft rest
          else if isBlock && isNext [.openBlockTable] rest then
            let (entries, draft, rest) ← readEntries inner fuel (marked.add .empty) (rest.drop 1)
            return finish number tableTag (.table entries) draft rest
          else if properties.areNone then refuse rest
          else return keep ⟨demand.forScalar true [], .scalar []⟩ marked rest

def readUnless (scope : Scope) (isBlock isPart : Bool) (ends : List Token) :
    Nat → Draft → List Token → Except Unreadable (Step Nat)
  | 0, _, _ => .error .malformed
  | fuel + 1, draft, tokens =>
      if isNext ends tokens then .ok (keep .empty draft tokens)
      else read scope isBlock isPart fuel draft tokens

def readItems (scope : Scope) (isPart : Bool) :
    Nat → Draft → List Token → Except Unreadable (Step (List Nat))
  | 0, _, _ => .error .malformed
  | fuel + 1, draft, tokens =>
      match tokens with
      | .dash :: rest => do
          let ends :=
            if isPart then [Token.dash, .key, .value, .closeBlock] else [Token.dash, .closeBlock]
          let (item, draft, rest) ← readUnless scope true false ends fuel draft rest
          let (items, draft, rest) ← readItems scope isPart fuel draft rest
          return (item :: items, draft, rest)
      | _ =>
          if isPart then .ok ([], draft, tokens)
          else if isNext [.closeBlock] tokens then .ok ([], draft, tokens.drop 1)
          else refuse tokens

/-- The value of a key after its mark, or nothing if there is no such mark or one of the given
tokens comes next. -/
def readMapped (scope : Scope) (isBlock : Bool) (ends : List Token) :
    Nat → Draft → List Token → Except Unreadable (Step Nat)
  | 0, _, _ => .error .malformed
  | fuel + 1, draft, tokens =>
      match tokens with
      | .value :: rest => readUnless scope isBlock isBlock ends fuel draft rest
      | _ => do
          look tokens
          return keep .empty draft tokens

def readEntries (scope : Scope) : Nat → Draft → List Token →
    Except Unreadable (Step (List (Nat × Nat)))
  | 0, _, _ => .error .malformed
  | fuel + 1, draft, tokens =>
      match tokens with
      | .key :: rest => do
          let ends := [Token.key, .value, .closeBlock]
          let (key, draft, rest) ← readUnless scope true true ends fuel draft rest
          let (value, draft, rest) ← readMapped scope true ends fuel draft rest
          let (entries, draft, rest) ← readEntries scope fuel draft rest
          return ((key, value) :: entries, draft, rest)
      | .closeBlock :: rest => .ok ([], draft, rest)
      | _ => refuse tokens

/-- A key between brackets after its mark, and its value, before the closing bracket. -/
def readFlowPair (scope : Scope) (closing : Token) :
    Nat → Draft → List Token → Except Unreadable (Step (Nat × Nat))
  | 0, _, _ => .error .malformed
  | fuel + 1, draft, tokens => do
      let (key, draft, rest) ← readUnless scope false false [.value, .comma, closing] fuel draft
        tokens
      let (value, draft, rest) ← readMapped scope false [.comma, closing] fuel draft rest
      return ((key, value), draft, rest)

/-- The items of a list between brackets. A key with its value is a table of one entry. -/
def readFlowItems (scope : Scope) (isFirst : Bool) :
    Nat → Draft → List Token → Except Unreadable (Step (List Nat))
  | 0, _, _ => .error .malformed
  | fuel + 1, draft, tokens => do
      if let .closeList :: rest := tokens then return ([], draft, rest)
      if !isFirst && !isNext [.comma] tokens then refuse tokens
      match if isFirst then tokens else tokens.drop 1 with
      | .closeList :: rest => return ([], draft, rest)
      | .key :: rest =>
          let number := draft.next
          let (entry, draft, rest) ← readFlowPair scope .closeList fuel (draft.add .empty) rest
          let draft := draft.write number ⟨.table, .table [entry]⟩
          let (items, draft, rest) ← readFlowItems scope false fuel draft rest
          return (number :: items, draft, rest)
      | next =>
          let (item, draft, rest) ← read scope false false fuel draft next
          let (items, draft, rest) ← readFlowItems scope false fuel draft rest
          return (item :: items, draft, rest)

/-- The entries of a table between brackets. A key without a value stands for null. -/
def readFlowEntries (scope : Scope) (isFirst : Bool) :
    Nat → Draft → List Token → Except Unreadable (Step (List (Nat × Nat)))
  | 0, _, _ => .error .malformed
  | fuel + 1, draft, tokens => do
      if let .closeTable :: rest := tokens then return ([], draft, rest)
      if !isFirst && !isNext [.comma] tokens then refuse tokens
      match if isFirst then tokens else tokens.drop 1 with
      | .closeTable :: rest => return ([], draft, rest)
      | .key :: rest =>
          let (entry, draft, rest) ← readFlowPair scope .closeTable fuel draft rest
          let (entries, draft, rest) ← readFlowEntries scope false fuel draft rest
          return (entry :: entries, draft, rest)
      | next =>
          let (key, draft, rest) ← read scope false false fuel draft next
          let (value, draft, rest) := keep .empty draft rest
          let (entries, draft, rest) ← readFlowEntries scope false fuel draft rest
          return ((key, value) :: entries, draft, rest)

end

/-- What the directives before a document say: whether its version was given, and what handles stand
for. -/
structure Preface where
  hasVersion : Bool := false
  handles : Table String String := []

def preface (read : Preface) : List Token → Option (Preface × List Token)
  | .directive (.version major) :: rest =>
      if read.hasVersion || major != 1 then none else preface { read with hasVersion := true } rest
  | .directive (.handle name start) :: rest =>
      if read.handles.has name then none
      else preface { read with handles := read.handles.set name start } rest
  | .directive .unknown :: rest => preface read rest
  | tokens => some (read, tokens)

def readContent (preface : Preface) (fuel : Nat) (tokens : List Token) :
    Except Unreadable (Step Nat) :=
  let isNothing := match tokens with
    | [] | .directive _ :: _ | .documentStart :: _ | .documentEnd :: _ => true
    | _ => false
  if isNothing then .ok (keep .empty { } tokens)
  else read ⟨preface.handles ++ Tag.commonHandles, 0⟩ true false fuel { } tokens

/-- The first document, and the tokens after it. The mark of its start is needed only after
directives. -/
def readFirst (fuel : Nat) (tokens : List Token) : Except Unreadable (Step Nat) := do
  let isMarked := match tokens with
    | .directive _ :: _ | .documentStart :: _ => true
    | _ => false
  if !isMarked then read ⟨Tag.commonHandles, 0⟩ true false fuel { } tokens
  else
    let (preface, rest) ← preface { } tokens
    match rest with
    | .documentStart :: rest => readContent preface fuel rest
    | _ => refuse rest

def readEnd (tokens : List Token) : Except Unreadable Unit := do
  match tokens.dropWhile (· == .documentEnd) with
  | [] => return
  | left =>
      let (_, rest) ← preface { } left
      refuse rest

/-- The graph of the document that is alone in its text, and the number of the node that holds all
others; none if there is nothing in the text. -/
def ofTokens (tokens : List Token) : Except Unreadable (Option (Nat × Graph)) := do
  if tokens.isEmpty then return none
  let (root, draft, rest) ← readFirst (4 * tokens.length + 4) tokens
  readEnd rest
  return some (root, draft.graph)

end Document

end ProseLinter.Yaml
