import ProseLinter.Yaml.Document
import ProseLinter.Yaml.Scalar

/-!
Cells: the values of the nodes of a document, one for each node however often it is a part. The
value of a list or a table is there before its parts are looked at, so that it may be among them.
Parts are looked at round by round: first those of the node that holds all others, then those of the
lists and tables among them, and so on.
-/

namespace ProseLinter.Yaml

/-- A value whose parts are the numbers of other cells. -/
inductive Cell where
  | single (value : Value)
  | list (items : List Nat)
  | pair (first second : Nat)
  | set (members : List Key)
  | table (entries : Table Key Nat)
deriving Inhabited

/-- The cells that were made so far, and the graph as far as it has been merged. -/
structure Cells where
  graph : Graph
  /-- The cells, by the numbers of their nodes; pairs have numbers after these. -/
  made : Array (Option Cell)
  /-- The lists and tables whose parts have not been looked at, the last first. -/
  waiting : List Nat := []

namespace Cells

def cell? (cells : Cells) (number : Nat) : Option Cell := cells.made[number]?.join

def write (cells : Cells) (number : Nat) (cell : Cell) : Cells :=
  { cells with made := cells.made.setIfInBounds number (some cell) }

/-- The text of a node where a scalar is asked for: of a table, that of the first entry that stands
for it. -/
def scalarText (graph : Graph) : Nat → Nat → Except Unreadable Text
  | 0, _ => .error (.tooDeep none)
  | fuel + 1, number =>
      match graph[number]? with
      | some ⟨_, .scalar text⟩ => .ok text
      | some ⟨_, .table entries⟩ =>
          match entries.find? fun entry => graph.hasTag .standIn entry.1 with
          | some (_, value) => scalarText graph fuel value
          | none => .error .malformed
      | _ => .error .malformed

/-- The value of a node under the tag of a scalar. A moment cannot stand for a table. -/
def scalar (graph : Graph) (number : Nat) (node : Node) : Except Unreadable Value := do
  if !node.tag.isScalar then throw .malformed
  let text ← scalarText graph Unreadable.depthLimit number
  if node.tag = .moment && (node.entries?).isSome then throw .notAText
  scalarValue node.tag text

def Tag.hollow? : Tag → Option Cell
  | .list | .pairs => some (.list [])
  | .table => some (.table [])
  | .set => some (.set [])
  | _ => none

def make (cells : Cells) (number : Nat) : Except Unreadable Cells :=
  if (cells.cell? number).isSome then .ok cells
  else match cells.graph[number]? with
    | none => .error .malformed
    | some node =>
        match Tag.hollow? node.tag with
        | some cell => .ok { cells.write number cell with waiting := number :: cells.waiting }
        | none => do return cells.write number (.single (← scalar cells.graph number node))

/-- The cells with those of the entry of a table, and the key that its first node is. -/
def makeEntry (cells : Cells) (entry : Nat × Nat) : Except Unreadable (Cells × Key) := do
  let cells ← cells.make entry.1
  let key ← match cells.cell? entry.1 with
    | some (.single value) => (value.key? : Option Key)
    | _ => none
  return (← cells.make entry.2, key)

def makeEntries (cells : Cells) (made : List (Key × Nat)) :
    List (Nat × Nat) → Except Unreadable (Cells × Table Key Nat)
  | [] => .ok (cells, Table.ofEntries made.reverse)
  | entry :: rest => do
      let (cells, key) ← cells.makeEntry entry
      cells.makeEntries ((key, entry.2) :: made) rest

/-- The cells with those of a table into which everything has been merged that is to be merged, and
the table. -/
def makeTable (cells : Cells) (number : Nat) : Except Unreadable (Cells × Table Key Nat) := do
  let limit := (cells.graph.entryCount + 1) * (cells.graph.size + 4)
  let graph ← cells.graph.merge limit number []
  let entries ← graph.entries? number
  { cells with graph }.makeEntries [] entries

/-- The cells with a pair for each of the items, which are tables of one entry, and the numbers of
the pairs. -/
def makePairs (cells : Cells) (made : List Nat) : List Nat → Except Unreadable (Cells × List Nat)
  | [] => .ok (cells, made.reverse)
  | item :: rest => do
      match cells.graph.entries? item with
      | some [(first, second)] =>
          let cells ← (← cells.make first).make second
          let number := cells.made.size
          let paired := { cells with made := cells.made.push (some (.pair first second)) }
          paired.makePairs (number :: made) rest
      | _ => throw .malformed

/-- The cells with those of the parts of a list or a table; refused if the node is not made like
that. -/
def fill (cells : Cells) (number : Nat) : Except Unreadable Cells := do
  let node ← cells.graph[number]?
  match node.tag, node.content with
  | .list, .list items => return (← items.foldlM make cells).write number (.list items)
  | .pairs, .list items =>
      let (cells, pairs) ← cells.makePairs [] items
      return cells.write number (.list pairs)
  | .table, .table _ =>
      let (cells, entries) ← cells.makeTable number
      return cells.write number (.table entries)
  | .set, .table _ =>
      let (cells, entries) ← cells.makeTable number
      return cells.write number (.set entries.keys)
  | _, _ => throw .malformed

/-- Looks at parts round by round until nothing waits. Each round fills at least one cell. -/
def fillAll : Nat → Cells → Except Unreadable Cells
  | 0, cells => .ok cells
  | fuel + 1, cells =>
      if cells.waiting.isEmpty then .ok cells
      else do fillAll fuel (← cells.waiting.reverse.foldlM fill { cells with waiting := [] })

def ofGraph (root : Nat) (graph : Graph) : Except Unreadable Cells := do
  let nothing : Cells := { graph, made := Array.replicate graph.size none }
  fillAll (graph.size + 1) (← nothing.make root)

end Cells

end ProseLinter.Yaml
