import ProseLinter.Text.Units
import ProseLinter.Unreadable
import ProseLinter.Yaml.Cursor

/-!
Scalars between quotes. They may go on over several lines, whose breaks are folded. Between single
quotes a quote is written twice; between double quotes a backslash begins an escape.
-/

namespace ProseLinter.Yaml

/-- The line breaks from the start of a line on, and the place after them and the white space
between; none at the mark of a document. -/
def breaksWithin : Nat → Cursor → Option (Text × Cursor)
  | 0, _ => none
  | fuel + 1, cursor =>
      if isMarker cursor.rest then none
      else
        let next := cursor.pass isSpace
        match next.break? with
        | some (c, after) => (breaksWithin fuel after).map fun (breaks, last) => (c :: breaks, last)
        | none => some ([], next)

def spaceWithin (cursor : Cursor) : Option (Text × Cursor) :=
  let next := cursor.pass isSpace
  match next.break? with
  | some (first, after) =>
      (breaksWithin (after.rest.length + 1) after).map fun (breaks, last) =>
        (folded first breaks, last)
  | none => some (cursor.run isSpace, next)

def escapes : List (Char × Nat) :=
  [('0', 0), ('a', 7), ('b', 8), ('t', 9), ('\t', 9), ('n', 10), ('v', 11), ('f', 12), ('r', 13),
    ('e', 27), (' ', 32), ('"', 34), ('\\', 92), ('/', 47), ('N', 0x85), ('_', 0xA0), ('L', 0x2028),
    ('P', 0x2029)]

def numberLengths : List (Char × Nat) := [('x', 2), ('u', 4), ('U', 8)]

/-- The number of the character that an escape stands for, and the place after it; the backslash has
been read. -/
def escape (cursor : Cursor) : Except Unreadable (Nat × Cursor) :=
  match cursor.rest with
  | [] => .error .malformed
  | letter :: rest =>
      match escapes.lookup letter, numberLengths.lookup letter with
      | some code, _ => .ok (code, cursor.step)
      | none, some length => do
          let digits := rest.take length
          if digits.length < length then throw .malformed
          let code ← hexNumber? digits
          if 0x110000 ≤ code then throw (.noCharacter code)
          return (code, cursor.advance (length + 1))
      | none, none => .error .malformed

/-- The numbers of the characters up to the closing quote, and the place after the quote. -/
def quotedFrom (quote : Char) : Nat → Cursor → Except Unreadable (List Nat × Cursor)
  | 0, _ => .error .malformed
  | fuel + 1, cursor => do
      match cursor.rest with
      | [] => throw .malformed
      | c :: rest =>
          if c = quote then
            if quote = '\'' ∧ rest.head? = some '\'' then
              let (codes, last) ← quotedFrom quote fuel (cursor.advance 2)
              return (c.toNat :: codes, last)
            else return ([], cursor.step)
          else if c = '\\' ∧ quote = '"' then
            match cursor.step.break? with
            | some (_, after) =>
                let (breaks, next) ← breaksWithin (after.rest.length + 1) after
                let (codes, last) ← quotedFrom quote fuel next
                return (breaks.map Char.toNat ++ codes, last)
            | none =>
                let (code, next) ← escape cursor.step
                let (codes, last) ← quotedFrom quote fuel next
                return (code :: codes, last)
          else if isSpace c || isBreak c then
            let (space, next) ← spaceWithin cursor
            let (codes, last) ← quotedFrom quote fuel next
            return (space.map Char.toNat ++ codes, last)
          else
            let (codes, last) ← quotedFrom quote fuel cursor.step
            return (c.toNat :: codes, last)

def quoted (quote : Char) (cursor : Cursor) : Except Unreadable (Text × Cursor) := do
  let (codes, after) ← quotedFrom quote (cursor.rest.length + 1) cursor.step
  return (codes.map charOfCode, after)

end ProseLinter.Yaml
