import ProseLinter.Markdown.Block

/-!
Plain text: paragraphs of prose lines, parted by blank lines. A text with a NUL is taken for binary
and refused.
-/

namespace ProseLinter.PlainText

def proseLine (line : Line) : List Node :=
  line.indentLeaves ++ .leaf .prose line.unindentedStart line.unindented :: line.endingLeaves

def paragraphBlock (lines : List Line) : Node :=
  Node.spanning .paragraph (lines.head?.elim 0 (·.start)) (lines.flatMap proseLine)

def blocks : List Line → List Node
  | [] => []
  | line :: rest =>
      if line.content.blank then line.blankBlock :: blocks rest
      else
        let more := rest.takeWhile fun next => !next.content.blank
        let after := rest.dropWhile fun next => !next.content.blank
        paragraphBlock (line :: more) :: blocks after
termination_by lines => lines.length
decreasing_by
  · simp
  · exact Nat.lt_succ_of_le (List.dropWhile_sublist _).length_le

def binary (text : Text) (offset : Nat) : ParseFault :=
  ⟨.binaryContent, (text.lineMap.positionOf offset).toOption⟩

def parse (text : Text) : Except ParseFault Node :=
  match text.find? '\x00' with
  | some offset => .error (binary text offset)
  | none => .ok (Node.spanning .document 0 (blocks text.lines))

end ProseLinter.PlainText
