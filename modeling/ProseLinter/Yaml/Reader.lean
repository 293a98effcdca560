import ProseLinter.Yaml.Cell
import ProseLinter.Yaml.Lexer

/-!
Reading YAML: the tokens of a text, the graph that they write, and the value of the node that holds
all others. A key that is written twice keeps its first place and its last value. This is the reader
that the program brings along; what is known of configurations does not depend on it.

The values that cells stand for are made by unrolling. A cell from which no way leads back to a cell
on the way is settled once its parts are. The others are knots: each is spelt out round by round,
beginning with nothing between its brackets.
-/

namespace ProseLinter.Yaml

namespace Cell

def value? (parts : Nat → Option Value) : Cell → Option Value
  | single value => some value
  | list items => (items.mapM parts).map .list
  | pair first second => do return .pair (← parts first) (← parts second)
  | set members => some (.set members)
  | table entries =>
      (entries.mapM fun entry => (parts entry.2).map fun value => (entry.1, value)).map .table

def hollow : Cell → Value
  | single value => value
  | list _ => .list []
  | pair _ _ => .pair .null .null
  | set _ => .set []
  | table _ => .table []

end Cell

abbrev Values := Array (Option Value)

namespace Values

def get? (values : Values) (number : Nat) : Option Value := (values[number]?).join

def write (values : Values) (number : Nat) (value : Value) : Values :=
  values.setIfInBounds number (some value)

end Values

namespace Cells

def value? (cells : Cells) (values : Values) (number : Nat) : Option Value :=
  (cells.cell? number).bind fun cell => cell.value? values.get?

/-- The values with those of the given numbers that can be settled now, and the numbers that are
left, in turn. -/
def settleOnce (cells : Cells) (left : List Nat) (values : Values) : List Nat → Values × List Nat
  | [] => (values, left.reverse)
  | number :: rest =>
      match cells.value? values number with
      | some value => settleOnce cells left (values.write number value) rest
      | none => settleOnce cells (number :: left) values rest

def settle (cells : Cells) : Nat → Values → List Nat → Values × List Nat
  | 0, values, numbers => (values, numbers)
  | fuel + 1, values, numbers =>
      let (settled, left) := cells.settleOnce [] values numbers
      if left.length = numbers.length then (settled, left) else cells.settle fuel settled left

def unroll (cells : Cells) (knots : List Nat) (values : Values) : Values :=
  knots.foldl (fun unrolled number =>
    match cells.value? values number with
    | some content => unrolled.write number (.knot number content)
    | none => unrolled) values

def lookLimit : Nat := 8

/-- The values of all cells. Whatever part of a value is looked at, each knot is spelt out from
there until it comes again. -/
def values (cells : Cells) : Values :=
  let numbers := (List.range cells.made.size).reverse
  let nothing : Values := Array.replicate cells.made.size none
  let made := numbers.filter fun number => (cells.cell? number).isSome
  let (settled, knots) := cells.settle (made.length + 1) nothing made
  let hollow := knots.foldl (fun values number =>
    match cells.cell? number with
    | some cell => values.write number (.knot number cell.hollow)
    | none => values) settled
  (List.range (knots.length + lookLimit)).foldl (fun values _ => cells.unroll knots values) hollow

end Cells

/-- The value that a text writes; an empty document is null. -/
def read (text : Text) : Except Unreadable Value := do
  if !text.all isAllowed then throw .malformed
  match ← Document.ofTokens (tokens text) with
  | none => return .null
  | some (root, graph) => ((← Cells.ofGraph root graph).values.get? root : Option Value)

end ProseLinter.Yaml
