/-!
Source text. Every offset of the linter counts code points, so a text is the list of its code
points, and the operations here are the two that all others rest on: reading a part and replacing a
part.
-/

namespace ProseLinter

abbrev Text := List Char

namespace Text

/-- The code points from offset `start` up to offset `stop`. An offset past the end counts as the
end. -/
def slice (text : Text) (start stop : Nat) : Text := (text.drop start).take (stop - start)

def splice (text : Text) (start stop : Nat) (replacement : Text) : Text :=
  text.take start ++ replacement ++ text.drop stop

def dropEndWhile (p : Char → Bool) (text : Text) : Text := (text.reverse.dropWhile p).reverse

def beginsWith (text start : Text) : Bool := start.isPrefixOf text

def find? (text : Text) (c : Char) : Option Nat := text.findIdx? (· == c)

def contains (text part : Text) : Bool :=
  text.beginsWith part || match text with
    | [] => false
    | _ :: rest => contains rest part

/-- The text cut at every occurrence of `c`; a text without `c` is one piece. -/
def cutAt (c : Char) : Text → List Text
  | [] => [[]]
  | first :: rest =>
      if first = c then [] :: cutAt c rest
      else match cutAt c rest with
        | [] => [[first]]
        | piece :: pieces => (first :: piece) :: pieces

theorem splice_length (text : Text) {start stop : Nat} (ordered : start ≤ stop)
    (within : stop ≤ text.length) (replacement : Text) :
    (text.splice start stop replacement).length + (stop - start) =
      text.length + replacement.length := by
  simp only [splice, List.length_append, List.length_take, List.length_drop]
  omega

end Text

end ProseLinter
