import ProseLinter.Toml.Scalar

/-!
Reading TOML. The statements of a text fill tables: a key with a value, or a heading that says which
table the statements after it are about. A table may be headed once, and neither a value nor a table
written inside another statement may be changed later; a text that does so is refused like any other
that is malformed.
-/

namespace ProseLinter.Toml

abbrev Place := List String

/-- What may no longer be done to the tables under keys. -/
structure Marks where
  /-- Tables that were headed, or opened by a dotted key under an earlier heading. -/
  headed : List Place := []
  pending : List Place := []
  frozen : List Place := []

namespace Marks

def isFrozen (marks : Marks) (key : Place) : Bool :=
  marks.frozen.any fun above => above.isPrefixOf key

def isHeaded (marks : Marks) (key : Place) : Bool := marks.headed.contains key

def settle (marks : Marks) : Marks :=
  { marks with headed := marks.pending ++ marks.headed, pending := [] }

def free (marks : Marks) (key : Place) : Marks :=
  { marks with
    headed := marks.headed.filter fun other => !key.isPrefixOf other
    frozen := marks.frozen.filter fun other => !key.isPrefixOf other }

end Marks

/-- Changes the table under a key, which is made if it is missing. A list of tables on the way
stands for its last one, if `throughLists` says so. -/
def changeAt (throughLists : Bool) (change : Entries → Option Entries) :
    Place → Entries → Option Entries
  | [], table => change table
  | name :: names, table =>
      let key : Key := .text name
      match table.get? key with
      | none => do return table.set key (.table (← changeAt throughLists change names []))
      | some (.table inner) =>
          do return table.set key (.table (← changeAt throughLists change names inner))
      | some (.list items) =>
          match throughLists, items.getLast? with
          | true, some (.table inner) => do
              let changed ← changeAt throughLists change names inner
              return table.set key (.list (items.dropLast ++ [.table changed]))
          | _, _ => none
      | some _ => none

def addValue (name : String) (value : Value) (table : Entries) : Option Entries :=
  let key : Key := .text name
  if table.has key then none else some (table ++ [(key, value)])

/-- Adds a new table to the list of tables under a name, which is made if it is missing. -/
def addToList (name : String) (table : Entries) : Option Entries :=
  let key : Key := .text name
  match table.get? key with
  | none => some (table ++ [(key, .list [.table []])])
  | some (.list items) => some (table.set key (.list (items ++ [.table []])))
  | some _ => none

def skipSpace (text : Text) : Text := text.dropWhile fun c => c == ' ' || c == '\t'

def skipComment (text : Text) : Option Text :=
  match text with
  | '#' :: rest =>
      if (rest.takeWhile (· != '\n')).any (isForbidden false) then none
      else some (rest.dropWhile (· != '\n'))
  | _ => some text

def skipLines : Nat → Text → Option Text
  | 0, text => some text
  | fuel + 1, text =>
      match text.dropWhile fun c => c == ' ' || c == '\t' || c == '\n' with
      | '#' :: rest => do skipLines fuel (← skipComment ('#' :: rest))
      | rest => some rest

def isBare (c : Char) : Bool := c.isAlphanum || c == '_' || c == '-'

def name? (text : Text) : Option (String × Text) :=
  match text with
  | '"' :: rest => (basic? text.length rest).map fun (name, after) => (String.ofList name, after)
  | '\'' :: rest => (literal? rest).map fun (name, after) => (String.ofList name, after)
  | _ =>
      let name := text.takeWhile isBare
      if name.isEmpty then none else some (String.ofList name, text.drop name.length)

def key? : Nat → Text → Option (Place × Text)
  | 0, _ => none
  | fuel + 1, text => do
      let (name, rest) ← name? text
      match skipSpace rest with
      | '.' :: more =>
          let (names, after) ← key? fuel (skipSpace more)
          return (name :: names, after)
      | after => return ([name], after)

def isComposite : Value → Bool
  | .list _ | .table _ => true
  | _ => false

mutual

/-- A value at the start of a text, as many steps deep as given, and what follows it. A list is two
steps deep, a table three. -/
def value (depth : Nat) : Nat → Text → Except Unreadable (Value × Text)
  | 0, _ => .error .malformed
  | fuel + 1, text => do
      if Unreadable.depthLimit < depth then throw (.tooDeep none)
      match text with
      | '[' :: rest =>
          match ← skipLines fuel rest with
          | ']' :: after => return (.list [], after)
          | inside =>
              let (items, after) ← items (depth + 2) fuel inside
              return (.list items, after)
      | '\x7b' :: rest =>
          match skipSpace rest with
          | '\x7d' :: after => return (.table [], after)
          | inside => entries (depth + 3) fuel {} [] inside
      | _ => scalar text

/-- The items of a list, of which at least one follows, and what comes after the closing bracket. -/
def items (depth : Nat) : Nat → Text → Except Unreadable (List Value × Text)
  | 0, _ => .error .malformed
  | fuel + 1, text => do
      let (item, rest) ← value depth fuel text
      match ← skipLines fuel rest with
      | ']' :: after => return ([item], after)
      | ',' :: more =>
          match ← skipLines fuel more with
          | ']' :: after => return ([item], after)
          | next =>
              let (items, after) ← items depth fuel next
              return (item :: items, after)
      | _ => throw .malformed

def entries (depth : Nat) : Nat → Marks → Entries → Text → Except Unreadable (Value × Text)
  | 0, _, _, _ => .error .malformed
  | fuel + 1, marks, table, text => do
      let (key, value, rest) ← entry depth fuel text
      if marks.isFrozen key then throw .malformed
      let table ← changeAt false (addValue (key.getLastD "") value) key.dropLast table
      match skipSpace rest with
      | '\x7d' :: after => return (.table table, after)
      | ',' :: more =>
          let marks :=
            if isComposite value then { marks with frozen := key :: marks.frozen } else marks
          entries depth fuel marks table (skipSpace more)
      | _ => throw .malformed

def entry (depth : Nat) : Nat → Text → Except Unreadable (Place × Value × Text)
  | 0, _ => .error .malformed
  | fuel + 1, text => do
      let (key, rest) ← key? text.length text
      match rest with
      | '=' :: more =>
          let (value, after) ← value depth fuel (skipSpace more)
          return (key, value, after)
      | _ => throw .malformed

end

/-- What has been read: the tables, the present heading, and the marks. -/
structure State where
  table : Entries := []
  heading : Place := []
  marks : Marks := {}

def headTable (state : State) (text : Text) : Option (State × Text) := do
  let marks := state.marks.settle
  let (key, rest) ← key? text.length (skipSpace text)
  if marks.isHeaded key || marks.isFrozen key then none
  let table ← changeAt true some key state.table
  match rest with
  | ']' :: after => return (⟨table, key, { marks with headed := key :: marks.headed }⟩, after)
  | _ => none

def headList (state : State) (text : Text) : Option (State × Text) := do
  let marks := state.marks.settle
  let (key, rest) ← key? text.length (skipSpace text)
  if marks.isFrozen key then none
  let freed := marks.free key
  let table ← changeAt true (addToList (key.getLastD "")) key.dropLast state.table
  match rest with
  | ']' :: ']' :: after =>
      return (⟨table, key, { freed with headed := key :: freed.headed }⟩, after)
  | _ => none

def openings (key : Place) : List Place :=
  (List.range (key.length - 1)).map fun count => key.take (count + 1)

/-- A key with its value. The tables that a dotted key goes through must not have been headed. -/
def assign (state : State) (text : Text) : Except Unreadable (State × Text) := do
  let (key, value, rest) ← entry 0 (2 * text.length + 2) text
  let through := (openings key).map (state.heading ++ ·)
  if through.any state.marks.isHeaded then throw .malformed
  let marks := { state.marks with pending := through ++ state.marks.pending }
  if marks.isFrozen (state.heading ++ key.dropLast) then throw .malformed
  let table ← changeAt true (addValue (key.getLastD "") value)
    (state.heading ++ key.dropLast) state.table
  let marks :=
    if isComposite value then { marks with frozen := (state.heading ++ key) :: marks.frozen }
    else marks
  return (⟨table, state.heading, marks⟩, rest)

/-- The end of a statement: white space, perhaps a comment, and a line break or the end of the
text. -/
def endLine (text : Text) : Option Text := do
  match ← skipComment (skipSpace text) with
  | [] => return []
  | '\n' :: rest => return rest
  | _ => none

def statements : Nat → State → Text → Except Unreadable State
  | 0, _, _ => .error .malformed
  | fuel + 1, state, text =>
      match skipSpace text with
      | [] => .ok state
      | '\n' :: rest => statements fuel state rest
      | '#' :: rest => do statements fuel state (← endLine ('#' :: rest))
      | '[' :: '[' :: rest => do
          let (state, after) ← headList state rest
          statements fuel state (← endLine after)
      | '[' :: rest => do
          let (state, after) ← headTable state rest
          statements fuel state (← endLine after)
      | other => do
          let (state, after) ← assign state other
          statements fuel state (← endLine after)

def joinBreaks : Text → Text
  | '\r' :: '\n' :: rest => '\n' :: joinBreaks rest
  | c :: rest => c :: joinBreaks rest
  | [] => []

def read (text : Text) : Except Unreadable Entries :=
  let text := joinBreaks text
  (statements (text.length + 1) {} text).map (·.table)

end ProseLinter.Toml
