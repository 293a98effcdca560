import ProseLinter.Key.Place
import ProseLinter.Table

/-!
Configuration values: what a configuration file can say. Whole numbers have no size limit and are
told apart from floating-point numbers; the entries of a table keep the order in which they were
written. Most keys of tables are texts, but some languages let any single value be a key. Some let a
value stand inside itself, too: such a value is a knot, and is spelt out round after round, as far
as anyone looks.
-/

namespace ProseLinter

inductive Value where
  | null
  | bool (b : Bool)
  | int (n : Int)
  | float (x : Float)
  | string (s : String)
  | moment (moment : Moment)
  | bytes (bytes : List UInt8)
  | list (items : List Value)
  | pair (first second : Value)
  | set (members : List Key)
  | table (entries : List (Key × Value))
  /-- A value in which it may stand itself, as a knot of the same number. -/
  | knot (number : Nat) (content : Value)
deriving Inhabited

abbrev Entries := Table Key Value

def Entries.ofNames (fields : Table String Value) : Entries :=
  fields.map fun field => (.text field.1, field.2)

def Value.record (fields : Table String Value) : Value := .table (Entries.ofNames fields)

namespace Key

def value : Key → Value
  | text s => .string s
  | null => .null
  | bool b => .bool b
  | int n => .int n
  | float x => .float x
  | moment m => .moment m
  | bytes b => .bytes b

end Key

namespace Value

def untied : Value → Value
  | knot _ content => content
  | value => value

def kindName : Value → String
  | null => "NoneType"
  | bool _ => "bool"
  | int _ => "int"
  | float _ => "float"
  | string _ => "str"
  | moment m => m.kindName
  | bytes _ => "bytes"
  | list _ => "list"
  | pair _ _ => "tuple"
  | set _ => "set"
  | table _ => "dict"
  | knot _ content => content.kindName

def hollow : Value → String
  | list _ => "[...]"
  | pair _ _ => "(...)"
  | _ => "\x7b...\x7d"

mutual

/-- A value inside the knots with the given numbers, as messages show it: texts are quoted, and what
has parts is spelt out between its brackets, unless it is one of those knots. -/
def shownInside (knots : List Nat) : Value → String
  | null => "None"
  | bool b => if b then "True" else "False"
  | int n => toString n
  | float x => messageFloat.write x
  | string s => quotedString s
  | moment m => m.shown
  | bytes b => bytesShown b
  | list items => "[" ++ String.intercalate ", " (shownItems knots items) ++ "]"
  | pair first second => "(" ++ first.shownInside knots ++ ", " ++ second.shownInside knots ++ ")"
  | set members =>
      if members.isEmpty then "set()"
      else "\x7b" ++ String.intercalate ", " ((Key.inPlaces members).map Key.shown) ++ "\x7d"
  | table entries => "\x7b" ++ String.intercalate ", " (shownEntries knots entries) ++ "\x7d"
  | knot number content =>
      if knots.contains number then content.hollow else content.shownInside (number :: knots)

def shownItems (knots : List Nat) : List Value → List String
  | [] => []
  | item :: rest => item.shownInside knots :: shownItems knots rest

def shownEntries (knots : List Nat) : List (Key × Value) → List String
  | [] => []
  | (key, value) :: rest =>
      (key.shown ++ ": " ++ value.shownInside knots) :: shownEntries knots rest

end

/-- A value as messages show it. How deeply it is nested does not matter here; beyond some depth it
cannot be shown at all, which is left out. -/
def shown (value : Value) : String := value.shownInside []

/-- A value written into a text: a text and a moment stand for themselves, any other value is
shown. -/
def written : Value → String
  | string s => s
  | moment m => m.written
  | value => value.shown

/-- Whether the value counts as present: null, false, zero and everything empty do not. -/
def isPresent : Value → Bool
  | null => false
  | bool b => b
  | int n => n != 0
  | float x => x != 0
  | string s => !s.isEmpty
  | moment _ | pair _ _ => true
  | bytes b => !b.isEmpty
  | list items => !items.isEmpty
  | set members => !members.isEmpty
  | table entries => !entries.isEmpty
  | knot _ content => content.isPresent

/-- The key that a value can be; lists, sets, tables and pairs are none. -/
def key? : Value → Option Key
  | null => some .null
  | bool b => some (.bool b)
  | int n => some (.int n)
  | float x => some (.float x)
  | string s => some (.text s)
  | moment m => some (.moment m)
  | bytes b => some (.bytes b)
  | list _ | pair _ _ | set _ | table _ | knot _ _ => none

/-- The entry of a table under a key; none for any other value. -/
def entry? (value : Value) (key : Key) : Option Value :=
  match value.untied with
  | table entries => Table.get? entries key
  | _ => none

def isTooLong (n : Int) : Bool := decide (tenTo digitLimit ≤ n.natAbs)

def writableKey : Key → Bool
  | .int n => !isTooLong n
  | _ => true

mutual

/-- Whether the value inside the knots with the given numbers can be written into a text. -/
def isWritableInside (knots : List Nat) : Value → Bool
  | int n => !isTooLong n
  | list items => writableItems knots items
  | pair first second => first.isWritableInside knots && second.isWritableInside knots
  | set members => members.all writableKey
  | table entries => writableEntries knots entries
  | knot number content => knots.contains number || content.isWritableInside (number :: knots)
  | _ => true

def writableItems (knots : List Nat) : List Value → Bool
  | [] => true
  | item :: rest => item.isWritableInside knots && writableItems knots rest

def writableEntries (knots : List Nat) : List (Key × Value) → Bool
  | [] => true
  | (key, value) :: rest =>
      writableKey key && value.isWritableInside knots && writableEntries knots rest

end

/-- Whether the value can be written into a text: no whole number in it has too many digits. -/
def isWritable (value : Value) : Bool := value.isWritableInside []

end Value

end ProseLinter
