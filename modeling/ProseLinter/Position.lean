import ProseLinter.Span
import ProseLinter.Text.Line

/-!
Positions: lines and columns, both counted from 1, and the map between the offsets of one text and
its positions. The map knows where each line starts; the empty text counts as one line that starts
at offset 0.
-/

namespace ProseLinter

structure Position where
  line : Int
  column : Int
deriving Repr, DecidableEq

namespace Position

def written (position : Position) : String :=
  toString position.line ++ ":" ++ toString position.column

end Position

structure Location where
  start : Position
  stop : Position
deriving Repr, DecidableEq

/-- Why an offset or a position is not one of a text. -/
inductive PositionFault where
  | offsetOutside (offset : Int) (length : Nat)
  | lineOutside (line : Int)
  | columnOutside (position : Position)
deriving Repr, DecidableEq

/-- What the map between offsets and positions knows of a text. -/
structure LineMap where
  lines : List Line
  length : Nat
deriving Repr

def Text.lineMap (text : Text) : LineMap := ⟨text.lines, text.length⟩

namespace LineMap

def starts (map : LineMap) : List Nat :=
  match map.lines with
  | [] => [0]
  | lines => lines.map (·.start)

/-- The place of an offset: the last line that starts at or before it, and the distance from that
start. -/
def place (map : LineMap) (offset : Nat) : Position :=
  let passed := map.starts.takeWhile fun start => decide (start ≤ offset)
  ⟨passed.length, offset - passed.getLastD 0 + 1⟩

def positionOf (map : LineMap) (offset : Int) : Except PositionFault Position :=
  if offset < 0 ∨ map.length < offset then .error (.offsetOutside offset map.length)
  else .ok (map.place offset.toNat)

/-- The offset that a line and a column lead to, if the line exists and the offset lies in the text.
The column is not held against the length of its line. -/
def offsetOf (map : LineMap) (position : Position) : Except PositionFault Nat :=
  if position.line < 1 then .error (.lineOutside position.line)
  else match map.starts[(position.line - 1).toNat]? with
    | none => .error (.lineOutside position.line)
    | some start =>
        let offset := start + position.column - 1
        if offset < 0 ∨ map.length < offset then .error (.columnOutside position)
        else .ok offset.toNat

def locate (map : LineMap) (span : Span) : Location := ⟨map.place span.start, map.place span.stop⟩

def locationOf (map : LineMap) (span : Span) : Except PositionFault Location := do
  return ⟨← map.positionOf span.start, ← map.positionOf span.stop⟩

theorem positionOf_of_le {map : LineMap} {offset : Nat} (within : offset ≤ map.length) :
    map.positionOf offset = .ok (map.place offset) := by
  rw [positionOf, if_neg (by omega), Int.toNat_natCast]

theorem locationOf_of_within {map : LineMap} {span : Span} (within : span.isWithin map.length) :
    map.locationOf span = .ok (map.locate span) := by
  have stopWithin : span.stop ≤ map.length := of_decide_eq_true within
  rw [locationOf, positionOf_of_le (Nat.le_trans span.ordered stopWithin),
    positionOf_of_le stopWithin]
  rfl

end LineMap

end ProseLinter
