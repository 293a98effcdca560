import ProseLinter.Text.Case
import ProseLinter.Unreadable
import ProseLinter.Value
import ProseLinter.Yaml.Tag

/-!
Values of scalars: what a text is worth under a tag. A tag that is written out need not suit the
text, which then has no value.
-/

namespace ProseLinter.Yaml

def switches : List (String × Bool) :=
  [("yes", true), ("no", false), ("true", true), ("false", false), ("on", true), ("off", false)]

def switchValue (text : Text) : Except Unreadable Bool :=
  let word := String.ofList (Text.lower text)
  match switches.lookup word with
  | some switch => .ok switch
  | none => .error (.unknownSwitch word)

/-- A sign and what follows it in a text without its underscores; there has to be something. -/
def signedDigits (text : Text) : Except Unreadable (Bool × Text) :=
  let digits := text.filter (· != '_')
  if digits.isEmpty then .error .emptyNumber else .ok (signed digits)

def wholeValue (text : Text) : Except Unreadable Int := do
  let (negative, digits) ← signedDigits text
  let size ← match digits with
    | ['0'] => pure 0
    | '0' :: 'b' :: rest => liftNumber (wholeLiteral 2 rest)
    | '0' :: 'x' :: rest => liftNumber (wholeLiteral 16 rest)
    | '0' :: _ => liftNumber (wholeLiteral 8 digits)
    | [] => throw .emptyNumber
    | _ =>
        let parts ← liftNumber ((Text.cutAt ':' digits).mapM (wholeLiteral 10))
        pure (parts.foldl (fun value part => value * 60 + part) 0)
  return if negative then -size else size

/-- The value of digits in base sixty, the last first, each of which stands for `place` more than by
itself. -/
def sixtiethsValue (value : Float) (place : Nat) : List Float → Except Unreadable Float
  | [] => .ok value
  | digit :: rest =>
      match floatOfInt? place with
      | some worth => sixtiethsValue (value + digit * worth) (place * 60) rest
      | none => .error .tooLarge

def fractionalValue (text : Text) : Except Unreadable Float := do
  let (negative, digits) ← signedDigits (Text.lower text)
  let size ←
    if digits = ".inf".toList then pure (1.0 / 0.0)
    else if digits = ".nan".toList then pure (0.0 / 0.0)
    else if digits.elem ':' then do
      let parts ← liftNumber ((Text.cutAt ':' digits).mapM decimalLiteral)
      sixtiethsValue 0.0 1 parts.reverse
    else liftNumber (decimalLiteral digits)
  return if negative then -size else size

/-- The moment that a text writes. Of a part of a second six digits count. -/
def momentValue (text : Text) : Except Unreadable Moment := do
  let some written := writtenMoment? (withoutLastBreak text) | throw .notAMoment
  let date :=
    Date.make (decimalValue written.year) (decimalValue written.month) (decimalValue written.day)
  match written.clock with
  | none => return .day (← liftMoment date)
  | some (hour, minute, second, part) =>
      let offset ← written.zone.mapM fun (isBehind, hours, minutes) =>
        let distance : Int := decimalValue hours * 60 + decimalValue minutes
        liftMoment (offsetOf (if isBehind then -distance else distance))
      let microsecond := decimalValue ((part ++ List.replicate 6 '0').take 6)
      let day ← liftMoment date
      let clock ← liftMoment
        (Clock.make (decimalValue hour) (decimalValue minute) (decimalValue second) microsecond)
      return .both day clock offset

def sextet? (c : Char) : Option Nat :=
  if 'A' ≤ c ∧ c ≤ 'Z' then some (c.toNat - 'A'.toNat)
  else if 'a' ≤ c ∧ c ≤ 'z' then some (c.toNat - 'a'.toNat + 26)
  else if c.isDigit then some (c.toNat - '0'.toNat + 52)
  else if c = '+' then some 62
  else if c = '/' then some 63
  else none

/-- The bytes that characters of base sixty-four stand for, given how many of the four of a group
were read, the bits left over from them, and the padding after the last of them. Characters that
stand for nothing are skipped. -/
def bytesFrom? : Nat → Nat → Nat → Text → Option (List UInt8)
  | place, _, _, [] => if place = 0 then some [] else none
  | place, bits, padding, c :: rest =>
      if c = '=' then
        if place < 2 then bytesFrom? place bits padding rest
        else if 4 ≤ place + padding + 1 then some []
        else bytesFrom? place bits (padding + 1) rest
      else match sextet? c with
        | none => bytesFrom? place bits padding rest
        | some sextet =>
            let byte (bits : Nat) : UInt8 := bits.toUInt8
            match place with
            | 0 => bytesFrom? 1 sextet 0 rest
            | 1 => (bytesFrom? 2 (sextet % 16) 0 rest).map (byte (bits * 4 + sextet / 16) :: ·)
            | 2 => (bytesFrom? 3 (sextet % 4) 0 rest).map (byte (bits * 16 + sextet / 4) :: ·)
            | _ => (bytesFrom? 0 0 0 rest).map (byte (bits * 64 + sextet) :: ·)

def bytesValue? (text : Text) : Option (List UInt8) :=
  if text.all fun c => c.toNat < 128 then bytesFrom? 0 0 0 text else none

def Tag.isScalar : Tag → Bool
  | null | bool | int | float | moment | bytes | text => true
  | list | pairs | table | set | merge | standIn | unknown => false

def scalarValue (tag : Tag) (text : Text) : Except Unreadable Value :=
  match tag with
  | .null => .ok .null
  | .bool => (switchValue text).map .bool
  | .int => (wholeValue text).map .int
  | .float => (fractionalValue text).map .float
  | .moment => (momentValue text).map .moment
  | .bytes => (bytesValue? text).map .bytes
  | .text => .ok (.string (String.ofList text))
  | _ => .error .malformed

end ProseLinter.Yaml
