import ProseLinter.Yaml.Cursor

/-!
Block scalars: runs of lines that are indented further than what they belong to. A block scalar
keeps its line breaks or folds them, and its heading says what becomes of the last ones.
-/

namespace ProseLinter.Yaml

/-- What becomes of the line breaks at the end of a block scalar. -/
inductive Chomping where
  | strip
  | clip
  | keep
deriving Repr, DecidableEq

/-- The heading of a block scalar: what becomes of the last line breaks, and the further indentation
if it is given. -/
structure BlockHeading where
  chomping : Chomping := .clip
  indentation : Option Nat := none
deriving Repr, DecidableEq

def chomping? (c : Char) : Option Chomping :=
  if c = '+' then some .keep else if c = '-' then some .strip else none

def indentation? (c : Char) : Option Nat :=
  if c.isDigit && c != '0' then some (c.toNat - '0'.toNat) else none

/-- The heading of a block scalar, of a sign and a digit in any order, and how long it is. -/
def heading (text : Text) : BlockHeading × Nat :=
  match text with
  | [] => ({ }, 0)
  | first :: rest =>
      match chomping? first, indentation? first with
      | some chomping, _ =>
          match rest.head?.bind indentation? with
          | some indentation => (⟨chomping, some indentation⟩, 2)
          | none => (⟨chomping, none⟩, 1)
      | none, some indentation =>
          match rest.head?.bind chomping? with
          | some chomping => (⟨chomping, some indentation⟩, 2)
          | none => (⟨.clip, some indentation⟩, 1)
      | none, none => ({ }, 0)

/-- The blank lines at the start of a block scalar that shows its own indentation: their line
breaks, the greatest column that is reached among them, and the place after them. -/
def margin : Nat → Nat → Cursor → Text × Nat × Cursor
  | 0, greatest, cursor => ([], greatest, cursor)
  | fuel + 1, greatest, cursor =>
      let next := cursor.passSpaces
      let greatest := if cursor.rest.head? = some ' ' then max greatest next.column else greatest
      match next.break? with
      | some (c, after) =>
          let (breaks, reached, last) := margin fuel greatest after
          (c :: breaks, reached, last)
      | none => ([], greatest, next)

/-- The line breaks of blank lines whose spaces do not go beyond the indentation, and the place
after them. -/
def blankBreaks (indentation : Nat) : Nat → Cursor → Text × Cursor
  | 0, cursor => ([], cursor)
  | fuel + 1, cursor =>
      let next := cursor.passSpacesTo indentation
      match next.break? with
      | some (c, after) =>
          let (breaks, last) := blankBreaks indentation fuel after
          (c :: breaks, last)
      | none => ([], next)

/-- The lines of a block scalar as they are read: their text, the line break that ends the last of
them, the line breaks of the blank lines after it, and the place after those. -/
structure BlockLines where
  text : Text
  lastBreak : Text
  trailing : Text
  after : Cursor

/-- The lines with a given indentation, after blank lines with the given line breaks. -/
def blockLines (isFolded : Bool) (indentation : Nat) : Nat → Text → Cursor → BlockLines
  | 0, breaks, cursor => ⟨[], [], breaks, cursor⟩
  | fuel + 1, breaks, cursor =>
      if cursor.column ≠ indentation ∨ cursor.rest.isEmpty then ⟨[], [], breaks, cursor⟩
      else
        let line := cursor.run fun c => !isBreak c
        let ended := cursor.advance line.length
        let lineBreak : Text := ((ended.break?).map (·.1)).toList
        let start := ((ended.break?).map (·.2)).getD ended
        let (following, next) := blankBreaks indentation (start.rest.length + 1) start
        if next.column ≠ indentation ∨ next.rest.isEmpty then
          ⟨breaks ++ line, lineBreak, following, next⟩
        else
          let isFlat (text : Text) : Bool := !text.head?.any isSpace
          let join : Text :=
            if isFolded && lineBreak == ['\n'] && isFlat line && isFlat next.rest then
              if following.isEmpty then [' '] else []
            else lineBreak
          let more := blockLines isFolded indentation fuel following next
          { more with text := breaks ++ line ++ join ++ more.text }

/-- The block scalar that begins here, and the place after it. Its lines are indented by at least
`least`. -/
def blockScalar? (least : Nat) (cursor : Cursor) : Option (Text × Cursor) := do
  let isFolded := cursor.rest.head? == some '>'
  let (heading, length) := heading (cursor.rest.drop 1)
  let headed := cursor.advance (length + 1)
  if !atSpace headed.rest then none
  let start ← headed.passLine?
  let fuel := start.rest.length + 1
  let (indentation, breaks, first) := match heading.indentation with
    | some further =>
        let indentation := least + further - 1
        (indentation, blankBreaks indentation fuel start)
    | none =>
        let (breaks, reached, first) := margin fuel 0 start
        (max least reached, breaks, first)
  let lines := blockLines isFolded indentation fuel breaks first
  let ending := match heading.chomping with
    | .strip => []
    | .clip => lines.lastBreak
    | .keep => lines.lastBreak ++ lines.trailing
  return (lines.text ++ ending, lines.after)

end ProseLinter.Yaml
