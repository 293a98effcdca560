import ProseLinter.Text.Utf8
import ProseLinter.Yaml.Cursor
import ProseLinter.Yaml.Token

/-!
What may be written before a value or before a document: anchors, by which other places refer to a
value, tags, which say of which sort it is, and directives, which say how a document is to be read.
-/

namespace ProseLinter.Yaml

def isName (c : Char) : Bool := c.isAlphanum || c == '-' || c == '_'

def name? (cursor : Cursor) : Option (String × Cursor) :=
  let name := cursor.run isName
  if name.isEmpty then none else some (String.ofList name, cursor.advance name.length)

def atNameEnd (text : Text) : Bool := atGap text || text.head?.any "?:,]\x7d%@\x60".toList.contains

def anchor? (cursor : Cursor) : Option (String × Cursor) := do
  let (name, after) ← name? cursor.step
  if atNameEnd after.rest then return (name, after) else none

def isOfTag (c : Char) : Bool := c.isAlphanum || "-;/?:@&=+$,_.!~*'()[]".toList.contains c

def tagBytes? : Nat → Cursor → Option (List UInt8 × Cursor)
  | 0, _ => none
  | fuel + 1, cursor =>
      match cursor.rest with
      | '%' :: high :: low :: _ => do
          let byte ← hexNumber? [high, low]
          let (bytes, after) ← tagBytes? fuel (cursor.advance 3)
          return (byte.toUInt8 :: bytes, after)
      | '%' :: _ => none
      | _ => some ([], cursor)

def tagText? : Nat → Cursor → Option (Text × Cursor)
  | 0, _ => none
  | fuel + 1, cursor =>
      match cursor.rest with
      | '%' :: _ => do
          let (bytes, next) ← tagBytes? (cursor.rest.length + 1) cursor
          let text ← (Utf8.decode bytes).toOption
          let (more, after) ← tagText? fuel next
          return (text ++ more, after)
      | c :: _ =>
          if isOfTag c then (tagText? fuel cursor.step).map fun (more, after) => (c :: more, after)
          else some ([], cursor)
      | [] => some ([], cursor)

def tagSuffix? (cursor : Cursor) : Option (String × Cursor) := do
  let (text, after) ← tagText? (cursor.rest.length + 1) cursor
  if after.index = cursor.index then none else return (String.ofList text, after)

/-- The handle of a tag, from its first exclamation mark to its last, and the place after it. -/
def tagHandle? (cursor : Cursor) : Option (String × Cursor) := do
  if cursor.rest.head? ≠ some '!' then none
  let name := cursor.step.run isName
  let after := cursor.advance (name.length + 1)
  if after.rest.head? = some '!' then return (String.ofList ('!' :: name ++ ['!']), after.step)
  else if name.isEmpty && after.rest.head? == some ' ' then return ("!", after)
  else none

def writtenTag? (cursor : Cursor) : Option (WrittenTag × Cursor) := do
  let inside := cursor.step
  let (tag, after) ←
    if inside.rest.head? == some '<' then do
      let (suffix, closing) ← tagSuffix? inside.step
      if closing.rest.head? == some '>' then pure (WrittenTag.mk none suffix, closing.step)
      else none
    else if atGap inside.rest then pure (WrittenTag.mk none "!", inside)
    else do
      let hasHandle := (inside.run fun c => !(c == ' ' || isBreak c)).elem '!'
      let (handle, next) ← if hasHandle then tagHandle? cursor else pure ("!", inside)
      let (suffix, after) ← tagSuffix? next
      pure (WrittenTag.mk (some handle) suffix, after)
  if atSpace after.rest then return (tag, after) else none

def versionNumber (cursor : Cursor) : Except Unreadable (Nat × Cursor) := do
  let digits := cursor.run Char.isDigit
  if digits.isEmpty then throw .malformed
  return (← liftNumber (wholeOfDigits digits), cursor.advance digits.length)

def version (cursor : Cursor) : Except Unreadable (Directive × Cursor) := do
  let (major, point) ← versionNumber cursor.passSpaces
  if point.rest.head? ≠ some '.' then throw .malformed
  let (_, after) ← versionNumber point.step
  if atSpace after.rest then return (.version major, after) else throw .malformed

def handle? (cursor : Cursor) : Option (Directive × Cursor) := do
  let (name, next) ← tagHandle? cursor.passSpaces
  if next.rest.head? ≠ some ' ' then none
  let (start, after) ← tagSuffix? next.passSpaces
  if atSpace after.rest then return (.handle name start, after) else none

def directive (cursor : Cursor) : Except Unreadable (Directive × Cursor) := do
  let (name, next) ← name? cursor.step
  if !atSpace next.rest then throw .malformed
  let (directive, after) ←
    if name = "YAML" then version next
    else if name = "TAG" then
      match handle? next with
      | some read => pure read
      | none => throw .malformed
    else pure (Directive.unknown, next.pass fun c => !isBreak c)
  return (directive, ← after.passLine?)

end ProseLinter.Yaml
