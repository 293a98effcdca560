import ProseLinter.Yaml.Cursor

/-!
Plain scalars: texts without quotes. A plain scalar may go on over several lines, whose breaks are
folded.
-/

namespace ProseLinter.Yaml

/-- Characters that begin no plain scalar, unless the next one makes them part of it. -/
def indicators : List Char := "-?:,[]\x7b\x7d#&*!|>'\"%@\x60".toList

def flowIndicators : List Char := ",?[]\x7b\x7d".toList

/-- Characters that, between brackets, end a plain scalar before a colon right in front of them. -/
def flowClosings : List Char := ",[]\x7b\x7d".toList

def beginsPlain (inFlow : Bool) (text : Text) : Bool :=
  match text with
  | [] => false
  | c :: rest =>
      !(indicators.contains c || atGap [c]) ||
        (!atGap rest && (c == '-' || (!inFlow && (c == '?' || c == ':'))))

def runLength (inFlow : Bool) : Text → Nat
  | [] => 0
  | c :: rest =>
      let endsKey := c == ':' && (atGap rest || (inFlow && rest.head?.any flowClosings.contains))
      if atGap [c] || endsKey || (inFlow && flowIndicators.contains c) then 0
      else runLength inFlow rest + 1

/-- White space in a plain scalar as it is folded; nothing if the scalar ends before it. -/
structure Gap where
  text : Text
  hasBreak : Bool
  after : Cursor

/-- The line breaks after a first one, and the place after them and the spaces between; none at the
mark of a document. -/
def blankLines : Nat → Text → Cursor → Option Text × Cursor
  | 0, breaks, cursor => (some breaks, cursor)
  | fuel + 1, breaks, cursor =>
      if cursor.column = 0 ∧ isMarker cursor.rest then (none, cursor)
      else
        let next := cursor.passSpaces
        match next.break? with
        | some (c, after) => blankLines fuel (breaks ++ [c]) after
        | none => (some breaks, next)

def gapAt (cursor : Cursor) : Gap :=
  let next := cursor.passSpaces
  match next.break? with
  | none => ⟨cursor.run (· == ' '), false, next⟩
  | some (first, start) =>
      match blankLines (start.rest.length + 1) [] start with
      | (some breaks, after) => ⟨folded first breaks, true, after⟩
      | (none, after) => ⟨[], true, after⟩

/-- A plain scalar as it is read: its text, the place after it and the white space that follows, and
whether a line ended in that white space. -/
structure PlainScalar where
  text : Text
  after : Cursor
  endedLine : Bool

/-- The plain scalar that begins here. Its further lines are indented by at least `least`, except
between brackets. -/
def plainFrom (inFlow : Bool) (least : Nat) : Nat → Cursor → PlainScalar
  | 0, cursor => ⟨[], cursor, false⟩
  | fuel + 1, cursor =>
      let length := runLength inFlow cursor.rest
      let run := cursor.rest.take length
      let gap := gapAt (cursor.advance length)
      let next := gap.after
      if gap.text.isEmpty || next.rest.head? == some '#' || (!inFlow && next.column < least) ||
          runLength inFlow next.rest == 0 then
        ⟨run, next, gap.hasBreak⟩
      else
        let more := plainFrom inFlow least fuel next
        { more with text := run ++ gap.text ++ more.text }

def plain (inFlow : Bool) (least : Nat) (cursor : Cursor) : PlainScalar :=
  plainFrom inFlow least (cursor.rest.length + 1) cursor

end ProseLinter.Yaml
