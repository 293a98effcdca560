import ProseLinter.Fault
import ProseLinter.Files.Path

/-!
Patterns for paths. A pattern is matched part by part: two stars alone stand for any number of
folders, and within a part a star stands for any characters, a question mark for one, and brackets
for one of those listed. A part with none of these stands for what has that very name.
-/

namespace ProseLinter

inductive NamePiece where
  | anything
  | anyChar
  | oneOf (negated : Bool) (ranges : List (Char × Char))
  | exactly (c : Char)
deriving Repr, DecidableEq

inductive GlobPart where
  | anyFolders
  | named (pieces : List NamePiece)
  | exactly (name : String)
  | itself
deriving Repr, DecidableEq

namespace NamePiece

/-- What is listed between brackets: characters, and ranges with the other end after a hyphen. -/
def listed : Text → List (Char × Option Char)
  | low :: '-' :: high :: rest => (low, some high) :: listed rest
  | c :: rest => (c, none) :: listed rest
  | [] => []

/-- The piece for what is listed between brackets. A range that ends before it begins is left out;
if that brings an exclamation mark to the front, the mark negates the rest, and a range that began
there falls apart. -/
def ofListed (negated : Bool) (items : List (Char × Option Char)) : NamePiece :=
  let ranges (items : List (Char × Option Char)) :=
    items.map fun item => (item.1, item.2.getD item.1)
  match negated, items.filter fun item => item.2.all (item.1 ≤ ·) with
  | false, ('!', none) :: rest => oneOf true (ranges rest)
  | false, ('!', some high) :: rest => oneOf true (('-', '-') :: (high, high) :: ranges rest)
  | _, rest => oneOf negated (ranges rest)

/-- What stands between brackets, and what follows: a closing bracket right at the start is one of
the characters. -/
def bracketed? (text : Text) : Option (Bool × Text × Text) :=
  let negated := text.head? == some '!'
  let inside := if negated then text.drop 1 else text
  let (first, rest) := inside.splitAt 1
  let (more, after) := if inside.isEmpty then ([], []) else rest.span (· != ']')
  match after with
  | ']' :: after => some (negated, first ++ more, after)
  | _ => none

/-- The pieces of the pattern of a name. An opening bracket without a closing one stands for
itself. -/
def ofText : Nat → Text → List NamePiece
  | 0, _ => []
  | _, [] => []
  | fuel + 1, '*' :: rest => anything :: ofText fuel rest
  | fuel + 1, '?' :: rest => anyChar :: ofText fuel rest
  | fuel + 1, '[' :: rest =>
      match bracketed? rest with
      | some (negated, inside, after) => ofListed negated (listed inside) :: ofText fuel after
      | none => exactly '[' :: ofText fuel rest
  | fuel + 1, c :: rest => exactly c :: ofText fuel rest

def admits (c : Char) : NamePiece → Bool
  | anything => true
  | anyChar => true
  | oneOf negated ranges =>
      (ranges.any fun range => decide (range.1 ≤ c) && decide (c ≤ range.2)) != negated
  | exactly wanted => c == wanted

def endings : Text → List Text
  | [] => [[]]
  | c :: rest => (c :: rest) :: endings rest

def step? (piece : NamePiece) : Text → Option Text
  | [] => none
  | c :: rest => if piece.admits c then some rest else none

def after (endingsBefore : List Text) : NamePiece → List Text
  | anything => (endingsBefore.head?.map endings).getD []
  | piece => endingsBefore.filterMap piece.step?

def matchAll (pieces : List NamePiece) (name : Text) : Bool :=
  (pieces.foldl after [name]).any (·.isEmpty)

end NamePiece

namespace GlobPart

def ofString (s : String) : Except Fault GlobPart :=
  if s = "**" then .ok anyFolders
  else if Text.contains s.toList ['*', '*'] then
    .error (.raised "ValueError" "Invalid pattern: '**' can only be an entire path component")
  else if s.toList.any ['*', '?', '['].contains then
    .ok (named (NamePiece.ofText s.length s.toList))
  else .ok (exactly s)

end GlobPart

abbrev Glob := List GlobPart

def Glob.ofString (s : String) : Except Fault Glob := do
  if s.isEmpty then throw (.raised "ValueError" ("Unacceptable pattern: " ++ quotedString s))
  let path := Path.ofString s
  if path.isAbsolute then
    throw (.raised "NotImplementedError" "Non-relative patterns are unsupported")
  let parts ← path.parts.mapM GlobPart.ofString
  let asksForFolders := s.toList.getLast? == some '/'
  if parts.isEmpty then
    throw (if asksForFolders then
      .raised "AttributeError" "'_TerminatingSelector' object has no attribute 'select_from'"
    else .raised "IndexError" "tuple index out of range")
  return if asksForFolders then parts ++ [.itself] else parts

end ProseLinter
