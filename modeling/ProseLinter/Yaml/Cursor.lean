import ProseLinter.Text

/-!
Places in a text of YAML, and the classes of characters that scanning rests on. There are four line
breaks; two of them count as line feeds, and the others are kept as they are.
-/

namespace ProseLinter.Yaml

def isAllowed (c : Char) : Bool :=
  let n := c.toNat
  c == '\t' || c == '\n' || (0x20 ≤ n && n ≤ 0x7E) || n == 0x85 ||
    (0xA0 ≤ n && n ≤ 0xFFFD) || 0x10000 ≤ n

def isBreak (c : Char) : Bool :=
  c == '\n' || c.toNat == 0x85 || c.toNat == 0x2028 || c.toNat == 0x2029

def isSpace (c : Char) : Bool := c == ' ' || c == '\t'

def atLineEnd (text : Text) : Bool := text.head?.all isBreak

def atSpace (text : Text) : Bool := text.head?.all fun c => c == ' ' || isBreak c

def atGap (text : Text) : Bool := text.head?.all fun c => isSpace c || isBreak c

def isMarked (mark : String) (text : Text) : Bool :=
  text.beginsWith mark.toList && atGap (text.drop mark.length)

def isMarker (text : Text) : Bool := isMarked "---" text || isMarked "..." text

structure Cursor where
  index : Nat := 0
  line : Nat := 0
  /-- How many code points are before the place on its line; byte order marks do not count. -/
  column : Nat := 0
  rest : Text
deriving Repr, DecidableEq

namespace Cursor

def step (cursor : Cursor) : Cursor :=
  match cursor.rest with
  | [] => cursor
  | c :: rest =>
      if isBreak c then ⟨cursor.index + 1, cursor.line + 1, 0, rest⟩
      else ⟨cursor.index + 1, cursor.line,
        if c = '\ufeff' then cursor.column else cursor.column + 1, rest⟩

def advance (cursor : Cursor) : Nat → Cursor
  | 0 => cursor
  | count + 1 => cursor.step.advance count

def run (cursor : Cursor) (p : Char → Bool) : Text := cursor.rest.takeWhile p

def pass (cursor : Cursor) (p : Char → Bool) : Cursor := cursor.advance (cursor.run p).length

def passSpaces (cursor : Cursor) : Cursor := cursor.pass (· == ' ')

def passSpacesTo (cursor : Cursor) (column : Nat) : Cursor :=
  cursor.advance (min (cursor.run (· == ' ')).length (column - cursor.column))

def passComment (cursor : Cursor) : Cursor :=
  if cursor.rest.head? == some '#' then cursor.pass fun c => !isBreak c else cursor

def break? (cursor : Cursor) : Option (Char × Cursor) :=
  match cursor.rest with
  | [] => none
  | c :: _ => if isBreak c then some (if c.toNat = 0x85 then '\n' else c, cursor.step) else none

def passLine? (cursor : Cursor) : Option Cursor :=
  let after := cursor.passSpaces.passComment
  if atLineEnd after.rest then some (((after.break?).map (·.2)).getD after) else none

def skipFrom : Nat → Bool → Cursor → Cursor × Bool
  | 0, ended, cursor => (cursor, ended)
  | fuel + 1, ended, cursor =>
      let after := cursor.passSpaces.passComment
      match after.break? with
      | some (_, next) => skipFrom fuel true next
      | none => (after, ended)

/-- The place of the next token, and whether a line ended before it. A byte order mark at the start
of the text is skipped. -/
def skip (cursor : Cursor) : Cursor × Bool :=
  let start := if cursor.index = 0 ∧ cursor.rest.head? = some '\ufeff' then cursor.step else cursor
  skipFrom (start.rest.length + 1) false start

end Cursor

/-- What a line break and those after it are folded to: the first becomes a space, or goes if others
follow. A line break that does not count as a line feed is kept. -/
def folded (first : Char) (others : Text) : Text :=
  if first ≠ '\n' then first :: others else if others.isEmpty then [' '] else others

end ProseLinter.Yaml
