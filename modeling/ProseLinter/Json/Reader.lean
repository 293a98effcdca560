import ProseLinter.Text.Units
import ProseLinter.Unreadable
import ProseLinter.Value

/-!
Reading JSON. A key that is written twice keeps its first place and its last value, numbers with a
point or an exponent are floating-point numbers, and the words `NaN`, `Infinity` and `-Infinity` are
read as such numbers. Lists and tables may stand inside each other up to a fixed depth.
-/

namespace ProseLinter.Json

def skipSpace (text : Text) : Text :=
  text.dropWhile fun c => c == ' ' || c == '\t' || c == '\n' || c == '\r'

def escaped? : Char → Option Char
  | '"' => some '"'
  | '\\' => some '\\'
  | '/' => some '/'
  | 'b' => some (Char.ofNat 8)
  | 'f' => some (Char.ofNat 12)
  | 'n' => some '\n'
  | 'r' => some '\r'
  | 't' => some '\t'
  | _ => none

/-- The code points and escaped code units up to the closing quote, and what follows it. -/
def readUnits : Text → Option (List Nat × Text)
  | [] => none
  | '"' :: rest => some ([], rest)
  | '\\' :: 'u' :: a :: b :: c :: d :: rest => do
      let unit ← hexNumber? [a, b, c, d]
      let (units, after) ← readUnits rest
      return (unit :: units, after)
  | '\\' :: letter :: rest => do
      let meant ← escaped? letter
      let (units, after) ← readUnits rest
      return (meant.toNat :: units, after)
  | c :: rest => do
      if c.toNat < 32 ∨ c = '\\' then none
      let (units, after) ← readUnits rest
      return (c.toNat :: units, after)

def readString (text : Text) : Option (String × Text) :=
  (readUnits text).map fun (units, rest) => (String.ofList (joinUnits units), rest)

/-- The part of a number after the digits before the point, and what follows the number. -/
def readTail (text : Text) : DecimalTail × Text :=
  let (fraction, rest) := match text with
    | '.' :: more =>
        let digits := more.takeWhile Char.isDigit
        if digits.isEmpty then (none, text) else (some digits, more.dropWhile Char.isDigit)
    | _ => (none, text)
  match rest with
  | mark :: more =>
      if mark = 'e' ∨ mark = 'E' then
        let (negative, unsigned) := match more with
          | '-' :: digits => (true, digits)
          | '+' :: digits => (false, digits)
          | digits => (false, digits)
        let digits := unsigned.takeWhile Char.isDigit
        if digits.isEmpty then (⟨fraction, none⟩, rest)
        else
          let size : Int := decimalValue digits
          (⟨fraction, some (if negative then -size else size)⟩, unsigned.dropWhile Char.isDigit)
      else (⟨fraction, none⟩, rest)
  | [] => (⟨fraction, none⟩, rest)

def readMagnitude (negative : Bool) (text : Text) : Except Unreadable (Value × Text) := do
  let whole := match text with
    | '0' :: _ => ['0']
    | _ => text.takeWhile Char.isDigit
  if whole.isEmpty then throw .malformed
  let (tail, rest) := readTail (text.drop whole.length)
  if tail.fraction.isNone && tail.exponent.isNone then
    let size : Int := ← liftNumber (wholeOfDigits whole)
    return (.int (if negative then -size else size), rest)
  else
    let size := tail.value whole
    return (.float (if negative then -size else size), rest)

def words : List (Text × Value) :=
  [("null".toList, .null), ("true".toList, .bool true), ("false".toList, .bool false),
    ("NaN".toList, .float (0.0 / 0.0)), ("Infinity".toList, .float (1.0 / 0.0)),
    ("-Infinity".toList, .float (-1.0 / 0.0))]

def readPlain (text : Text) : Except Unreadable (Value × Text) :=
  match words.find? fun word => text.beginsWith word.1 with
  | some (word, value) => .ok (value, text.drop word.length)
  | none =>
      match text with
      | '-' :: rest => readMagnitude true rest
      | _ => readMagnitude false text

mutual

/-- A value at the start of a text, inside as many lists and tables as given, and what follows
it. -/
def readValue (depth : Nat) : Nat → Text → Except Unreadable (Value × Text)
  | 0, _ => .error .malformed
  | fuel + 1, text => do
      match skipSpace text with
      | '"' :: rest =>
          let (s, after) ← readString rest
          return (.string s, after)
      | '[' :: rest =>
          if Unreadable.depthLimit ≤ depth then throw (.tooDeep (some false))
          match skipSpace rest with
          | ']' :: after => return (.list [], after)
          | _ =>
              let (items, after) ← readItems (depth + 1) fuel rest
              return (.list items, after)
      | '\x7b' :: rest =>
          if Unreadable.depthLimit ≤ depth then throw (.tooDeep (some true))
          match skipSpace rest with
          | '\x7d' :: after => return (.table [], after)
          | _ =>
              let (entries, after) ← readEntries (depth + 1) fuel rest
              return (.table (Table.ofEntries entries), after)
      | other => readPlain other

/-- The items of a list, of which at least one follows, and what comes after the closing bracket. -/
def readItems (depth : Nat) : Nat → Text → Except Unreadable (List Value × Text)
  | 0, _ => .error .malformed
  | fuel + 1, text => do
      let (item, rest) ← readValue depth fuel text
      match skipSpace rest with
      | ',' :: more =>
          let (items, after) ← readItems depth fuel more
          return (item :: items, after)
      | ']' :: after => return ([item], after)
      | _ => throw .malformed

/-- The entries of a table, of which at least one follows, and what comes after the closing
brace. -/
def readEntries (depth : Nat) : Nat → Text → Except Unreadable (List (Key × Value) × Text)
  | 0, _ => .error .malformed
  | fuel + 1, text => do
      match skipSpace text with
      | '"' :: opened =>
          let (key, named) ← readString opened
          match skipSpace named with
          | ':' :: rest =>
              let (value, more) ← readValue depth fuel rest
              match skipSpace more with
              | ',' :: following =>
                  let (entries, after) ← readEntries depth fuel following
                  return ((.text key, value) :: entries, after)
              | '\x7d' :: after => return ([(.text key, value)], after)
              | _ => throw .malformed
          | _ => throw .malformed
      | _ => throw .malformed

end

/-- The value that a whole text spells. Each step of the reader is followed by at least one code
point, so the length of the text bounds its depth. -/
def read (text : Text) : Except Unreadable Value := do
  let (value, rest) ← readValue 0 (2 * text.length + 2) text
  if (skipSpace rest).isEmpty then return value else throw .malformed

end ProseLinter.Json
