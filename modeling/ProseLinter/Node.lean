import ProseLinter.Span

/-!
Syntax trees. A leaf holds a piece of the source text and the offset where it starts, so its span
always has the length of its text; a branch holds its children and the span it stands for. Reading
the leaves of a tree from left to right gives back the text it was built from.
-/

namespace ProseLinter

inductive LeafKind where
  | prose
  | code
  | codeText
  | markup
  | whiteSpace
  | lineBreak
deriving Repr, DecidableEq, Inhabited

/-- What a branch is, with the facts its markup states. -/
inductive BranchKind where
  | document
  | paragraph
  | header (depth : Nat)
  | list (ordered : Bool)
  | listItem (ordered : Bool) (indent : Nat)
  | blockQuote
  | codeBlock (language fence : Text) (closed : Bool)
  | horizontalRule
  | blank
  | link (target : Text)
  | image (source : Text)
deriving Repr, DecidableEq

inductive Node where
  | leaf (kind : LeafKind) (start : Nat) (raw : Text)
  | branch (kind : BranchKind) (span : Span) (children : List Node)
deriving Inhabited

namespace LeafKind

def name : LeafKind → String
  | prose => "Str"
  | code => "Code"
  | codeText => "CodeText"
  | markup => "Syntax"
  | whiteSpace => "WhiteSpace"
  | lineBreak => "Break"

end LeafKind

namespace BranchKind

def name : BranchKind → String
  | document => "Document"
  | paragraph => "Paragraph"
  | header _ => "Header"
  | list _ => "List"
  | listItem _ _ => "ListItem"
  | blockQuote => "BlockQuote"
  | codeBlock _ _ _ => "CodeBlock"
  | horizontalRule => "HorizontalRule"
  | blank => "Blank"
  | link _ => "Link"
  | image _ => "Image"

/-- Whether prose stands directly in the branch: paragraphs, headers, list items and block
quotes. -/
def holdsSentences : BranchKind → Bool
  | paragraph | header _ | listItem _ _ | blockQuote => true
  | _ => false

def isTextBlock : BranchKind → Bool
  | paragraph | listItem _ _ | blockQuote => true
  | _ => false

def isCodeBlock : BranchKind → Bool
  | codeBlock _ _ _ => true
  | _ => false

end BranchKind

namespace Node

def name : Node → String
  | leaf kind _ _ => kind.name
  | branch kind _ _ => kind.name

def span : Node → Span
  | leaf _ start raw => Span.ofLength start raw.length
  | branch _ span _ => span

def raw : Node → Text
  | leaf _ _ raw => raw
  | branch _ _ _ => []

def children : Node → List Node
  | leaf _ _ _ => []
  | branch _ _ children => children

def isLeaf (node : Node) : Bool := node.children.isEmpty

def isBranch (p : BranchKind → Bool) : Node → Bool
  | leaf _ _ _ => false
  | branch kind _ _ => p kind

def isProse : Node → Bool
  | leaf .prose _ _ => true
  | _ => false

/-- A branch that spans its children; one without children is empty and stands at `offset`. -/
def spanning (kind : BranchKind) (offset : Nat) (children : List Node) : Node :=
  match children with
  | [] => branch kind (Span.point offset) []
  | first :: rest =>
      let start := first.span.start
      branch kind (Span.ofLength start
        (((first :: rest).getLastD first).span.stop - start)) children

mutual

/-- The nodes of a tree and the node above each, every node before those below it and these from
left to right. -/
def preorder (parent : Option Node) : Node → List (Node × Option Node)
  | leaf kind start raw => [(leaf kind start raw, parent)]
  | branch kind span children =>
      (branch kind span children, parent) :: preorderAll (some (branch kind span children)) children

def preorderAll (parent : Option Node) : List Node → List (Node × Option Node)
  | [] => []
  | node :: rest => preorder parent node ++ preorderAll parent rest

end

mutual

def size : Node → Nat
  | leaf _ _ _ => 1
  | branch _ _ children => 1 + sizeAll children

def sizeAll : List Node → Nat
  | [] => 0
  | node :: rest => size node + sizeAll rest

end

theorem size_eq (node : Node) : node.size = 1 + sizeAll node.children := by
  cases node <;> simp [size, sizeAll, children]

def stackSize : List (Node × Option Node) → Nat
  | [] => 0
  | entry :: rest => entry.1.size + stackSize rest

theorem stackSize_append (front rest : List (Node × Option Node)) :
    stackSize (front ++ rest) = stackSize front + stackSize rest := by
  induction front with
  | nil => simp [stackSize]
  | cons entry front induction => simp [stackSize, induction, Nat.add_assoc]

theorem stackSize_below (node : Node) (nodes : List Node) :
    stackSize (nodes.map fun child => (child, some node)) = sizeAll nodes := by
  induction nodes with
  | nil => simp [stackSize, sizeAll]
  | cons child nodes induction => simp [stackSize, sizeAll, induction]

/-- Visits the trees on a stack: the top node first, then the nodes below it, which take its place
on the stack. -/
def visit : List (Node × Option Node) → List (Node × Option Node)
  | [] => []
  | entry :: rest =>
      entry :: visit ((entry.1.children.map fun child => (child, some entry.1)) ++ rest)
termination_by stack => stackSize stack
decreasing_by
  simp only [stackSize_append, stackSize_below, stackSize, size_eq entry.1]
  omega

def walk (node : Node) : List (Node × Option Node) := visit [(node, none)]

def nodes (node : Node) : List Node := node.walk.map (·.1)

def select (p : Node → Bool) (node : Node) : List Node := node.nodes.filter p

def leaves (node : Node) : List Node := node.select isLeaf

def text (node : Node) : Text := node.leaves.flatMap raw

end Node

end ProseLinter
