import ProseLinter.Moment
import ProseLinter.Number.Literal

/-!
Why a text in one of the languages of configuration writes no value. Most texts that do not are
malformed, which is all that there is to say about them; a few are well formed but write a number, a
moment or a character that there is not.
-/

namespace ProseLinter

inductive Unreadable where
  | malformed
  | number (fault : NumberFault)
  | moment (fault : MomentFault)
  /-- A number was asked for where there is not a single character. -/
  | emptyNumber
  | unknownSwitch (word : String)
  | notAMoment
  | notAText
  | tooLarge
  | noCharacter (code : Nat)
  /-- More lists and tables inside each other than are read. Some languages name the one that was
  too much. -/
  | tooDeep (isTable : Option Bool)
deriving Repr, DecidableEq

namespace Unreadable

def largestCode : Nat := 0x7FFFFFFF

/-- How many steps deep lists and tables may stand inside each other; how many steps each takes
depends on the language. -/
def depthLimit : Nat := 980

def message : Unreadable → String
  | malformed => "malformed text"
  | number fault => fault.message
  | moment fault => fault.message
  | emptyNumber => "string index out of range"
  | unknownSwitch word => quotedString word
  | notAMoment => "'NoneType' object has no attribute 'groupdict'"
  | notAText => "expected string or bytes-like object, got 'list'"
  | tooLarge => "int too large to convert to float"
  | noCharacter code =>
      if code ≤ largestCode then "chr() arg not in range(0x110000)"
      else "Python int too large to convert to C int"
  | tooDeep isTable => "maximum recursion depth exceeded" ++ match isTable with
      | some true => " while decoding a JSON object from a unicode string"
      | some false => " while decoding a JSON array from a unicode string"
      | none => ""

def kind : Unreadable → String
  | malformed => "YAMLError"
  | number _ | moment _ => "ValueError"
  | emptyNumber => "IndexError"
  | unknownSwitch _ => "KeyError"
  | notAMoment => "AttributeError"
  | notAText => "TypeError"
  | tooLarge => "OverflowError"
  | noCharacter code => if code ≤ largestCode then "ValueError" else "OverflowError"
  | tooDeep _ => "RecursionError"

end Unreadable

/-- Where nothing is read, the text is malformed. -/
instance : MonadLift Option (Except Unreadable) where
  monadLift
    | some thing => .ok thing
    | none => .error .malformed

def liftNumber {α : Type} (result : Except NumberFault α) : Except Unreadable α :=
  result.mapError .number

def liftMoment {α : Type} (result : Except MomentFault α) : Except Unreadable α :=
  result.mapError .moment

end ProseLinter
