import ProseLinter.Yaml.Tag

/-!
The graph of a document: nodes with numbers, which name each other by them. A node with an anchor
may be a part of many others, and even of itself.
-/

namespace ProseLinter.Yaml

/-- What a node is made of. Its parts are the numbers of other nodes. -/
inductive Content where
  | scalar (text : Text)
  | list (items : List Nat)
  | table (entries : List (Nat × Nat))
deriving Repr, DecidableEq

structure Node where
  tag : Tag
  content : Content
deriving Repr, DecidableEq

namespace Node

def empty : Node := ⟨.null, .scalar []⟩

def entries? (node : Node) : Option (List (Nat × Nat)) :=
  match node.content with
  | .table entries => some entries
  | _ => none

end Node

abbrev Graph := Array Node

namespace Graph

def write (graph : Graph) (number : Nat) (node : Node) : Graph := graph.setIfInBounds number node

def tag? (graph : Graph) (number : Nat) : Option Tag := graph[number]?.map (·.tag)

def entries? (graph : Graph) (number : Nat) : Option (List (Nat × Nat)) :=
  graph[number]?.bind (·.entries?)

def writeEntries (graph : Graph) (number : Nat) (entries : List (Nat × Nat)) : Graph :=
  match graph[number]? with
  | some node => graph.write number { node with content := .table entries }
  | none => graph

def entryCount (graph : Graph) : Nat :=
  graph.foldl (fun count node => count + ((node.entries?).getD []).length) 0

/-! ## Merging -/

def hasTag (graph : Graph) (tag : Tag) (key : Nat) : Bool := graph.tag? key == some tag

def writeAsText (graph : Graph) (key : Nat) : Graph :=
  match graph[key]? with
  | some node => if node.tag = .standIn then graph.write key { node with tag := .text } else graph
  | none => graph

def takeMerge? (graph : Graph) : List (Nat × Nat) → Option (Nat × List (Nat × Nat))
  | [] => none
  | (key, value) :: rest =>
      if graph.hasTag .merge key then some (value, rest)
      else (graph.takeMerge? rest).map fun (merged, others) => (merged, (key, value) :: others)

mutual

/-- The graph in which a table has among its entries those of the tables that are to be merged into
it, in front of its own; refused if something else is to be merged. Each step takes one merging
entry out of the graph. -/
def merge : Nat → Nat → List (Nat × Nat) → Graph → Option Graph
  | 0, _, _, _ => none
  | fuel + 1, number, added, graph => do
      let entries ← graph.entries? number
      match graph.takeMerge? entries with
      | some (value, others) =>
          let (more, graph) ← addition fuel value (graph.writeEntries number others)
          merge fuel number (added ++ more) graph
      | none =>
          let written := entries.foldl (fun graph entry => graph.writeAsText entry.1) graph
          return written.writeEntries number (added ++ entries)

/-- The entries that a value adds to a table into which it is merged: its own, or those of the
tables in a list, of which earlier ones win. -/
def addition : Nat → Nat → Graph → Option (List (Nat × Nat) × Graph)
  | 0, _, _ => none
  | fuel + 1, number, graph => do
      match (← graph[number]?).content with
      | .scalar _ => none
      | .table _ =>
          let graph ← merge fuel number [] graph
          return (← graph.entries? number, graph)
      | .list items => additions fuel items graph

def additions : Nat → List Nat → Graph → Option (List (Nat × Nat) × Graph)
  | 0, _, _ => none
  | _, [], graph => some ([], graph)
  | fuel + 1, item :: rest, graph => do
      let graph ← merge fuel item [] graph
      let entries ← graph.entries? item
      let (later, graph) ← additions fuel rest graph
      return (later ++ entries, graph)

end

end Graph

end ProseLinter.Yaml
