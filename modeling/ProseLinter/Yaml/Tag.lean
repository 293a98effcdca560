import ProseLinter.Number.Literal
import ProseLinter.Yaml.Cursor

/-!
Tags: of which sort the value of a node is. A plain scalar has its tag from its form, which is one
of YAML 1.1: words such as `yes` and `off`, whole numbers in several bases with underscores, numbers
in base sixty with colons, and moments.
-/

namespace ProseLinter.Yaml

inductive Tag where
  | null
  | bool
  | int
  | float
  | moment
  | bytes
  | text
  | list
  | pairs
  | table
  | set
  | merge
  /-- A key whose value stands for the table where a scalar is asked for. -/
  | standIn
  | unknown
deriving Repr, DecidableEq

namespace Tag

def commonStart : String := "tag:yaml.org,2002:"

def names : List (String × Tag) :=
  [("null", null), ("bool", bool), ("int", int), ("float", float), ("timestamp", moment),
    ("binary", bytes), ("str", text), ("seq", list), ("omap", pairs), ("pairs", pairs),
    ("map", table), ("set", set), ("merge", merge), ("value", standIn)]

def ofName (name : String) : Tag :=
  ((names.find? fun entry => commonStart ++ entry.1 == name).map (·.2)).getD unknown

def commonHandles : List (String × String) := [("!", "!"), ("!!", commonStart)]

end Tag

/-! ## Forms of plain scalars -/

def switchWords : List String :=
  ["yes", "Yes", "YES", "no", "No", "NO", "true", "True", "TRUE", "false", "False", "FALSE", "on",
    "On", "ON", "off", "Off", "OFF"]

def nullWords : List String := ["~", "null", "Null", "NULL"]

/-- Whether a text has only characters of one sort and underscores, and has at least one. -/
def isMadeOf (isDigit : Char → Bool) (text : Text) : Bool :=
  !text.isEmpty && text.all fun c => c == '_' || isDigit c

/-- Whether a text begins with a digit in base ten and has only such digits and underscores. -/
def isDecimal (text : Text) : Bool := text.head?.any Char.isDigit && isMadeOf Char.isDigit text

/-- Whether a text is one of the digits after the first of a number in base sixty: below sixty, in
one or two figures. -/
def isSixtieth (text : Text) : Bool :=
  match text with
  | [figure] => figure.isDigit
  | [ten, figure] => '0' ≤ ten && ten ≤ '5' && figure.isDigit
  | _ => false

def isWhole (text : Text) : Bool :=
  match text with
  | '0' :: 'b' :: digits => isMadeOf (fun c => c == '0' || c == '1') digits
  | '0' :: 'x' :: digits => isMadeOf (fun c => (hexValue? c).isSome) digits
  | ['0'] => true
  | '0' :: digits => isMadeOf (fun c => '0' ≤ c && c ≤ '7') digits
  | _ =>
      match Text.cutAt ':' text with
      | first :: rest => isDecimal first && rest.all isSixtieth
      | [] => false

/-- Whether a text is the rest of a number after its point: digits, and perhaps an exponent, whose
sign is always written. -/
def isFraction (text : Text) : Bool :=
  match text.dropWhile fun c => c.isDigit || c == '_' with
  | [] => true
  | mark :: sign :: digits =>
      (mark == 'e' || mark == 'E') && (sign == '+' || sign == '-') && !digits.isEmpty &&
        digits.all Char.isDigit
  | [_] => false

/-- Whether a text without a sign has the form of a floating-point number; some forms never have a
sign. -/
def isFractional (isSigned : Bool) (text : Text) : Bool :=
  let word := String.ofList text
  let whole := text.takeWhile (· != '.')
  match text.drop whole.length with
  | [] => false
  | _ :: after =>
      if [".inf", ".Inf", ".INF"].contains word then true
      else if [".nan", ".NaN", ".NAN"].contains word then !isSigned
      else if whole.isEmpty then !isSigned && after.head?.any Char.isDigit && isFraction after
      else if isDecimal whole then isFraction after
      else match Text.cutAt ':' whole with
        | first :: rest =>
            isDecimal first && rest.all isSixtieth && after.all fun c => c.isDigit || c == '_'
        | [] => false

structure WrittenMoment where
  year : List Char
  month : List Char
  day : List Char
  clock : Option (List Char × List Char × List Char × List Char) := none
  /-- Whether the clock is behind universal time, and the hours and minutes between them. -/
  zone : Option (Bool × List Char × List Char) := none

def digits? (least most : Nat) (text : Text) : Option (List Char × Text) :=
  let digits := (text.take most).takeWhile Char.isDigit
  if digits.length < least then none else some (digits, text.drop digits.length)

def after? (mark : Char) (text : Text) : Option Text :=
  if text.head? = some mark then some (text.drop 1) else none

def writtenZone? (text : Text) : Option (Option (Bool × List Char × List Char)) :=
  match text.dropWhile isSpace with
  | [] => if text.isEmpty then some none else none
  | ['Z'] => some (some (false, ['0'], ['0']))
  | sign :: rest => do
      if sign ≠ '+' ∧ sign ≠ '-' then none
      let (hours, rest) ← digits? 1 2 rest
      if rest.isEmpty then return some (sign == '-', hours, ['0'])
      let (minutes, rest) ← digits? 2 2 (← after? ':' rest)
      if rest.isEmpty then return some (sign == '-', hours, minutes) else none

def writtenMoment? (text : Text) : Option WrittenMoment := do
  let (year, rest) ← digits? 4 4 text
  let (month, rest) ← digits? 1 2 (← after? '-' rest)
  let (day, rest) ← digits? 1 2 (← after? '-' rest)
  let date : WrittenMoment := { year, month, day }
  match rest with
  | [] => return date
  | mark :: more =>
      if !(mark == 'T' || mark == 't' || isSpace mark) then none
      let start := if isSpace mark then more.dropWhile isSpace else more
      let (hour, rest) ← digits? 1 2 start
      let (minute, rest) ← digits? 2 2 (← after? ':' rest)
      let (second, rest) ← digits? 2 2 (← after? ':' rest)
      let (part, rest) := match rest with
        | '.' :: more => (more.takeWhile Char.isDigit, more.dropWhile Char.isDigit)
        | _ => ([], rest)
      return { date with clock := some (hour, minute, second, part), zone := ← writtenZone? rest }

/-- Whether a text has the form of a moment: a day alone has two figures each for the month and the
day. -/
def isMoment (text : Text) : Bool :=
  (writtenMoment? text).any fun moment => moment.clock.isSome ||
    (moment.month.length == 2 && moment.day.length == 2)

def withoutLastBreak (text : Text) : Text :=
  if text.getLast? = some '\n' then text.dropLast else text

def Tag.ofForm (text : Text) : Tag :=
  let bare := withoutLastBreak text
  let word := String.ofList bare
  let unsigned := (signed bare).2
  if text.isEmpty then null
  else if switchWords.contains word then bool
  else if isFractional (unsigned.length != bare.length) unsigned then float
  else if isWhole unsigned then int
  else if word = "<<" then merge
  else if nullWords.contains word then null
  else if isMoment bare then moment
  else if word = "=" then standIn
  else if ["!", "&", "*"].contains word then unknown
  else .text

end ProseLinter.Yaml
