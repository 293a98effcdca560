import ProseLinter.Text.Case

/-!
Paths: names with slashes between them. A path is kept without the parts that lead nowhere, so two
ways of writing one path come out the same; a step up to the folder above is kept as it is.
-/

namespace ProseLinter

structure Path where
  /-- What an absolute path begins with: one slash, or two where exactly two are written. Empty for
  any other path. -/
  root : String
  parts : List String
deriving Repr, DecidableEq

namespace Path

def pieces (s : String) : List String := (Text.cutAt '/' s.toList).map String.ofList

def rootOf (text : Text) : String :=
  match (text.takeWhile (· == '/')).length with
  | 0 => ""
  | 2 => "//"
  | _ => "/"

def ofString (s : String) : Path :=
  ⟨rootOf s.toList, (pieces s).filter fun part => !part.isEmpty && part != "."⟩

def isAbsolute (path : Path) : Bool := !path.root.isEmpty

def written (path : Path) : String :=
  if path.isAbsolute || !path.parts.isEmpty then path.root ++ String.intercalate "/" path.parts
  else "."

def name (path : Path) : String := path.parts.getLastD ""

/-- The ending of a name, from its last full stop on; a full stop at the start or at the end begins
none. -/
def suffixOf (name : Text) : Text :=
  let ending := (name.reverse.takeWhile (· != '.')).reverse
  if ending.isEmpty || name.length ≤ ending.length + 1 then [] else '.' :: ending

def suffix (path : Path) : String := String.ofList (Text.lower (suffixOf path.name.toList))

def hasNul (s : String) : Bool := s.toList.elem (Char.ofNat 0)

def below (path : Path) (parts : List String) : Path := ⟨path.root, path.parts ++ parts⟩

end Path

end ProseLinter
