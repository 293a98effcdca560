import ProseLinter.Value

/-!
Writing JSON, on one line or indented by two spaces. Strings keep every code point beyond the
control characters; a key that is no text is written as one.
-/

namespace ProseLinter.Json

def jsonFloat : FloatStyle := ⟨"NaN", "Infinity", -4, 15⟩

def escapeChar (c : Char) : List Char :=
  if c == '"' || c == '\\' then ['\\', c]
  else if c == '\n' then ['\\', 'n']
  else if c == '\r' then ['\\', 'r']
  else if c == '\t' then ['\\', 't']
  else if c.toNat == 8 then ['\\', 'b']
  else if c.toNat == 12 then ['\\', 'f']
  else if c.toNat < 32 then ['\\', 'u'] ++ hexDigits 4 c.toNat
  else [c]

def quoted (text : Text) : Text := '"' :: text.flatMap escapeChar ++ ['"']

/-- A string between quotes, every code point beyond the control characters as it is. -/
def quotePlain (s : String) : String := String.ofList (quoted s.toList)

/-- A string between quotes with its surrogates spelt out. -/
def quote (s : String) : String := String.ofList (quoted s.toList).withEscapes

def keyText : Key → String
  | .text s => s
  | .null => "null"
  | .bool b => if b then "true" else "false"
  | .int n => toString n
  | .float x => jsonFloat.write x
  | .moment m => m.written
  | .bytes b => bytesShown b

/-- A value that is neither a list nor a table; nothing of a knot is spelt out. -/
def writePlain : Value → String
  | .null => "null"
  | .bool b => if b then "true" else "false"
  | .int n => toString n
  | .float x => jsonFloat.write x
  | .string s => quote s
  | .moment m => quote m.written
  | .bytes b => quote (bytesShown b)
  | .list _ | .pair _ _ | .set _ => "[]"
  | .table _ => "\x7b\x7d"
  | .knot _ content => writePlain content

mutual

def write : Value → String
  | .list items => "[" ++ String.intercalate ", " (writeItems items) ++ "]"
  | .pair first second => "[" ++ write first ++ ", " ++ write second ++ "]"
  | .set members =>
      "[" ++ String.intercalate ", " (members.map fun key => quote (keyText key)) ++ "]"
  | .table entries => "\x7b" ++ String.intercalate ", " (writeEntries entries) ++ "\x7d"
  | plain => writePlain plain

def writeItems : List Value → List String
  | [] => []
  | item :: rest => write item :: writeItems rest

def writeEntries : List (Key × Value) → List String
  | [] => []
  | (key, value) :: rest => (quote (keyText key) ++ ": " ++ write value) :: writeEntries rest

end

def newline (depth : Nat) : String := "\n" ++ String.ofList (List.replicate (2 * depth) ' ')

/-- Parts between brackets, each on a line of its own; nothing between the brackets if there are no
parts. -/
def bracket (opening closing : String) (depth : Nat) (parts : List String) : String :=
  if parts.isEmpty then opening ++ closing
  else
    opening ++ newline (depth + 1) ++ String.intercalate ("," ++ newline (depth + 1)) parts ++
      newline depth ++ closing

mutual

def writeIndented (depth : Nat) : Value → String
  | .list items => bracket "[" "]" depth (indentItems (depth + 1) items)
  | .pair first second =>
      bracket "[" "]" depth [writeIndented (depth + 1) first, writeIndented (depth + 1) second]
  | .table entries => bracket "\x7b" "\x7d" depth (indentEntries (depth + 1) entries)
  | plain => writePlain plain

def indentItems (depth : Nat) : List Value → List String
  | [] => []
  | item :: rest => writeIndented depth item :: indentItems depth rest

def indentEntries (depth : Nat) : List (Key × Value) → List String
  | [] => []
  | (key, value) :: rest =>
      (quote (keyText key) ++ ": " ++ writeIndented depth value) :: indentEntries depth rest

end

def pretty (value : Value) : String := writeIndented 0 value

mutual

def sortKeys : Value → Value
  | .list items => .list (sortItems items)
  | .table entries =>
      .table ((sortEntries entries).mergeSort fun a b => decide (keyText a.1 ≤ keyText b.1))
  | plain => plain

def sortItems : List Value → List Value
  | [] => []
  | item :: rest => sortKeys item :: sortItems rest

def sortEntries : List (Key × Value) → List (Key × Value)
  | [] => []
  | (key, value) :: rest => (key, sortKeys value) :: sortEntries rest

end

end ProseLinter.Json
