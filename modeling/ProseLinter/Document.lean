import ProseLinter.Node
import ProseLinter.Position

/-!
Documents: a text under an id, with the kind under which it was read and the tree it was read as. A
fix run never changes a document; it goes on with a new one.
-/

namespace ProseLinter

structure Source where
  id : String
  text : Text
  kind : String
deriving Repr, DecidableEq

structure Document where
  id : String
  text : Text
  tree : Node
  kind : String

namespace Document

def length (document : Document) : Nat := document.text.length

def lines (document : Document) : List Line := document.text.lines

def lineMap (document : Document) : LineMap := document.text.lineMap

def select (p : Node → Bool) (document : Document) : List Node := document.tree.select p

def contains (document : Document) (span : Span) : Bool := span.isWithin document.length

end Document

end ProseLinter
